import ShaderLoom.Wgsl.Letter
import ShaderLoom.Wgsl.Literal

/-!
Numbers as they are written.

A decimal fraction is rounded to the nearest value; a hexadecimal one has to be exact. A suffix
fixes the kind: `i` and `u` for whole numbers, `f` and `lf` for fractions of 32 and 64 bits. A
reader takes what belongs to the number and gives the characters behind it.
-/

namespace ShaderLoom.Wgsl

open Number (power)

/-- A reader of numbers: the value and the characters behind it, if it is a number. -/
abbrev Numeral := Option (Literal × List Char)

def digitsValue (cs : List Char) : Nat := cs.foldl (fun n c => 10 * n + (c.toNat - 48)) 0

def hexValue? (c : Char) : Option Nat :=
  if isDigit c then some (c.toNat - 48)
  else if 'a' ≤ c && c ≤ 'f' then some (c.toNat - 87)
  else if 'A' ≤ c && c ≤ 'F' then some (c.toNat - 55)
  else none

def isHexDigit (c : Char) : Bool := (hexValue? c).isSome

def hexDigitsValue (cs : List Char) : Nat :=
  cs.foldl (fun n c => 16 * n + (hexValue? c).getD 0) 0

/-- The kinds that a suffix gives a fraction; halves are not supported. -/
def fractionSuffix : List Char → Option (Scalar × List Char)
  | 'f' :: r => some (.float, r)
  | 'l' :: 'f' :: r => some (.double, r)
  | 'h' :: _ => none
  | r => some (.anyFloat, r)

def wholeOf (kind : Scalar) (n : Nat) : Option Literal :=
  match kind with
  | .int => (int32? n).map .int
  | .uint => (uint32? n).map .uint
  | _ => (int64? n).map .anyInt

/-- Beyond these powers of ten every value overflows or vanishes. -/
def farExponent : Int := 400

def decimalOf (kind : Scalar) (mantissa digits : Nat) (exponent : Int) : Option Literal :=
  let far := digits + exponent
  let small := mantissa = 0 ∨ far < -farExponent
  let given := if small then 0 else mantissa
  let scale := if small then 0 else exponent
  if farExponent < far ∧ ¬small then none
  else match kind with
    | .float => Literal.checked? (.float (.ofScientific given (scale < 0) scale.natAbs))
    | .double => Literal.checked? (.double (.ofScientific given (scale < 0) scale.natAbs))
    | _ =>
      let x := Float.ofScientific given (scale < 0) scale.natAbs
      if x.isFinite then some (.anyFloat x) else none

/-- An exponent with its mark and sign, if the mark stands here; digits have to follow. -/
def exponentAfter (marks : List Char) : List Char → Option (Option Int × List Char)
  | c :: r =>
    if c ∈ marks then
      let (negative, t) := match r with
        | '+' :: u => (false, u)
        | '-' :: u => (true, u)
        | u => (false, u)
      let ds := t.takeWhile isDigit
      let n : Int := digitsValue ds
      if ds.isEmpty then none
      else some (some (if negative then -n else n), t.dropWhile isDigit)
    else some (none, c :: r)
  | [] => some (none, [])

def decimalFraction (whole parts : List Char) (exponent : Int) (r : List Char) : Numeral := do
  let (kind, rest) ← fractionSuffix r
  let ds := whole ++ parts
  let significant := ds.dropWhile (· = '0')
  let l ← decimalOf kind (digitsValue ds) significant.length (exponent - parts.length)
  some (l, rest)

/-- A decimal number; one without a point and an exponent has no leading zeros. -/
def decimal (cs : List Char) : Numeral :=
  let whole := cs.takeWhile isDigit
  match cs.dropWhile isDigit with
  | '.' :: r =>
    let parts := r.takeWhile isDigit
    if whole.isEmpty ∧ parts.isEmpty then none
    else do
      let (e, t) ← exponentAfter ['e', 'E'] (r.dropWhile isDigit)
      decimalFraction whole parts (e.getD 0) t
  | r => do
    let (e, t) ← exponentAfter ['e', 'E'] r
    match e with
    | some e => decimalFraction whole [] e t
    | none =>
      if whole.head? = some '0' ∧ whole.length ≠ 1 then none
      else match t with
        | 'i' :: u => (wholeOf .int (digitsValue whole)).map (·, u)
        | 'u' :: u => (wholeOf .uint (digitsValue whole)).map (·, u)
        | 'f' :: _ => decimalFraction whole [] 0 t
        | 'l' :: 'f' :: _ => decimalFraction whole [] 0 t
        | 'h' :: _ => none
        | _ => (wholeOf .anyInt (digitsValue whole)).map (·, t)

/-- Whether `m * 2 ^ e`, with `m` odd, has a place among the fractions of a format with so many
digits and these least and greatest exponents. -/
def representable (digits : Nat) (least normal greatest : Int) (m : Nat) (e : Int) : Bool :=
  let top := e + m.log2
  let size := if top < normal then (top - least + 1).toNat else digits
  least ≤ top && top < greatest && m < power 2 size

def oddPart : (fuel : Nat) → (m : Nat) → Nat × Nat
  | 0, m => (m, 0)
  | fuel + 1, m =>
    if m % 2 = 0 then
      let (n, k) := oddPart fuel (m / 2)
      (n, k + 1)
    else (m, 0)

/-- The value `m * 2 ^ e` of a fraction of a kind, if it is exact. -/
def binaryOf (kind : Scalar) (m : Nat) (e : Int) : Option Literal :=
  let (odd, k) := oddPart 64 m
  let e := if m = 0 then 0 else e + k
  let odd := if m = 0 then 0 else odd
  if e < -0xffff ∨ 0xffff < e then none
  else match kind with
    | .float =>
      if m = 0 ∨ representable 24 (-149) (-126) 128 odd e then
        some (.float ((Float32.ofNat odd).scaleB e))
      else none
    | kind =>
      if m = 0 ∨ representable 53 (-1074) (-1022) 1024 odd e then
        let x := (Float.ofNat odd).scaleB e
        some (if kind = .double then .double x else .anyFloat x)
      else none

def hexFraction (kind : Scalar) (whole parts : List Char) (exponent : Int) : Option Literal :=
  let kept := (parts.reverse.dropWhile (· = '0')).reverse
  let m := hexDigitsValue (whole ++ kept)
  if power 2 64 ≤ m then none else binaryOf kind m (exponent - 4 * kept.length)

/-- A hexadecimal number behind its mark. A suffix stands only behind an exponent or a whole
number. -/
def hexadecimal (cs : List Char) : Numeral :=
  let whole := cs.takeWhile isHexDigit
  match cs.dropWhile isHexDigit with
  | '.' :: r =>
    let parts := r.takeWhile isHexDigit
    if whole.isEmpty ∧ parts.isEmpty then none
    else do
      let (e, t) ← exponentAfter ['p', 'P'] (r.dropWhile isHexDigit)
      match e with
      | some e => do
        let (kind, u) ← fractionSuffix t
        (hexFraction kind whole parts e).map (·, u)
      | none => (hexFraction .anyFloat whole parts 0).map (·, t)
  | r =>
    if whole.isEmpty then none
    else do
      let (e, t) ← exponentAfter ['p', 'P'] r
      match e, t with
      | some e, t => do
        let (kind, u) ← fractionSuffix t
        (hexFraction kind whole [] e).map (·, u)
      | none, 'i' :: u => (wholeOf .int (hexDigitsValue whole)).map (·, u)
      | none, 'u' :: u => (wholeOf .uint (hexDigitsValue whole)).map (·, u)
      | none, t => (wholeOf .anyInt (hexDigitsValue whole)).map (·, t)

def numeral (cs : List Char) : Numeral :=
  match cs with
  | '0' :: 'x' :: r => hexadecimal r
  | '0' :: 'X' :: r => hexadecimal r
  | _ => decimal cs

end ShaderLoom.Wgsl
