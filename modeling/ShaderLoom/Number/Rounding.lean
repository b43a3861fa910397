import ShaderLoom.Number.Binary

/-!
Rounding an exact quotient to a whole number: to the nearest, a tie to the even neighbour.
-/

namespace ShaderLoom.Number

def roundDiv (num den : Nat) : Nat :=
  let q := num / den
  let r := num % den
  if 2 * r < den then q
  else if den < 2 * r then q + 1
  else if q % 2 = 0 then q else q + 1

/-- A magnitude times a whole factor, rounded. -/
def Dyadic.roundTimes (d : Dyadic) (factor : Nat) : Nat :=
  roundDiv (d.numerator factor) d.denominator

example : [roundDiv 5 2, roundDiv 7 2, roundDiv 8 3, roundDiv 7 3] = [2, 4, 3, 2] := by decide

end ShaderLoom.Number
