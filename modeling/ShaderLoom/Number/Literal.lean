import ShaderLoom.Number.Shortest

/-!
The written form of a finite number: positional or with an exponent, and always recognisable
as a fraction by a point or an exponent.
-/

namespace ShaderLoom.Number

/-- Which decimal exponents are written positionally. -/
structure Layout where
  lowest : Int
  highest : Int

/-- Numbers from `0.0001` up to, but not including, `10 ^ 16` are written positionally. -/
def Layout.source : Layout := ⟨-4, 15⟩

def digitsOf (n : Nat) : List Char := Nat.toDigits 10 n

/-- Digits with the point after the first `whole` of them, zeros supplied on either side, and
at least one digit on each side of the point. -/
def positional (ds : List Char) (whole : Int) : List Char :=
  if whole ≤ 0 then '0' :: '.' :: (List.replicate (-whole).toNat '0' ++ ds)
  else
    let n := whole.toNat
    let after := ds.drop n
    ds.take n ++ List.replicate (n - ds.length) '0' ++ '.' :: (if after = [] then ['0'] else after)

def exponentText (e : Int) : List Char :=
  'e' :: ((if e < 0 then ['-'] else []) ++ digitsOf e.natAbs)

/-- One digit, the others after a point if there are any, and the exponent. -/
def scientific (ds : List Char) (e : Int) : List Char :=
  (match ds with
    | [] => []
    | [d] => [d]
    | d :: rest => d :: '.' :: rest) ++ exponentText e

def Layout.write (N : Layout) (d : Decimal) : List Char :=
  let ds := digitsOf d.digits
  let e := d.power + ds.length - 1
  if d.digits = 0 then ['0', '.', '0']
  else if N.lowest ≤ e ∧ e ≤ N.highest then positional ds (e + 1)
  else scientific ds e

/-- The literal of a finite number, with its sign, also for zero. -/
def Format.literal (F : Format) (d : Dyadic) : List Char :=
  (if d.negative then ['-'] else []) ++
    Layout.source.write (if d.mantissa = 0 then ⟨0, 0⟩ else F.shortest d)

example : String.ofList (Layout.source.write ⟨12, -1⟩) = "1.2" := by decide +kernel
example : String.ofList (Layout.source.write ⟨12, -6⟩) = "1.2e-5" := by decide +kernel
example : String.ofList (Layout.source.write ⟨1, 16⟩) = "1e16" := by decide +kernel
example : String.ofList (Layout.source.write ⟨5, 3⟩) = "5000.0" := by decide +kernel

end ShaderLoom.Number
