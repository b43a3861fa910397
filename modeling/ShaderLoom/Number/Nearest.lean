import ShaderLoom.Number.Rounding

/-!
The number of a format that is nearest to an exact fraction, a tie to the even neighbour.

A magnitude is counted in steps of the smallest positive number, and of the count as many leading
binary digits are kept as a mantissa has. The words of a format are numbered in the order of their
magnitudes. So a mantissa that rounding makes too long needs no care: its word is that of the next
scale, and behind the largest number that of the infinity.
-/

namespace ShaderLoom.Number

namespace Format

variable (F : Format)

/-- The word of the positive infinity. -/
def infiniteWord : Nat := (power 2 F.exponentBits - 1) * F.hidden

def signWord (negative : Bool) : Nat :=
  if negative then power 2 (F.fractionBits + F.exponentBits) else 0

/-- The word of a positive number by its mantissa and the steps of its scale above the lowest. -/
def place (raised mantissa : Nat) : Nat := raised * F.hidden + mantissa

/-- The word nearest to the magnitude `num / den`. -/
def nearest (num den : Nat) : Nat :=
  let steps := num * power 2 (-F.minScale).toNat
  let raised := (steps / den).log2 - F.fractionBits
  min F.infiniteWord (F.place raised (roundDiv steps (den * power 2 raised)))

end Format

/-- The word nearest to an exact number, which keeps its sign. -/
def Dyadic.word (F : Format) (d : Dyadic) : Nat :=
  F.signWord d.negative + F.nearest (d.numerator 1) d.denominator

example : Format.single.nearest 1 10 = 0x3dcccccd := by decide +kernel
example : Format.single.nearest (power 2 24 + 1) 1 = 0x4b800000 := by decide +kernel
example : Format.single.nearest (power 2 128) 1 = 0x7f800000 := by decide +kernel
example : Format.single.nearest 1 (power 2 150) = 0 := by decide +kernel

end ShaderLoom.Number
