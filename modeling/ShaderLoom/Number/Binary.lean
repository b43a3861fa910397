import ShaderLoom.Number.Power

/-!
Binary floating-point words, read as exact numbers.

A word holds a sign, an exponent field and a fraction field. Read exactly it is a magnitude
`mantissa * 2 ^ scale` with a sign, an infinity, or not a number.
-/

namespace ShaderLoom.Number

/-- The widths of the two fields below the sign bit. -/
structure Format where
  fractionBits : Nat
  exponentBits : Nat

def Format.single : Format := ⟨23, 8⟩
def Format.double : Format := ⟨52, 11⟩

/-- A magnitude `mantissa * 2 ^ scale` and its sign. -/
structure Dyadic where
  negative : Bool
  mantissa : Nat
  scale : Int
  deriving DecidableEq, Repr

inductive Reading where
  | nan
  | infinite (negative : Bool)
  | finite (value : Dyadic)
  deriving DecidableEq, Repr

namespace Format

variable (F : Format)

def bias : Nat := power 2 (F.exponentBits - 1) - 1

/-- The scale of the smallest positive number. -/
def minScale : Int := 1 - (F.bias : Int) - F.fractionBits

/-- The mantissa of a normal number whose fraction field is zero. -/
def hidden : Nat := power 2 F.fractionBits

def negative (w : Nat) : Bool := w / power 2 (F.fractionBits + F.exponentBits) % 2 = 1
def exponentField (w : Nat) : Nat := w / power 2 F.fractionBits % power 2 F.exponentBits
def fractionField (w : Nat) : Nat := w % power 2 F.fractionBits

def read (w : Nat) : Reading :=
  let e := F.exponentField w
  let f := F.fractionField w
  if e + 1 = power 2 F.exponentBits then
    if f = 0 then .infinite (F.negative w) else .nan
  else if e = 0 then .finite ⟨F.negative w, f, F.minScale⟩
  else .finite ⟨F.negative w, F.hidden + f, F.minScale + e - 1⟩

end Format

/-- The exact value of a double-precision number. -/
def Reading.ofFloat (x : Float) : Reading := Format.double.read x.toBits.toNat

namespace Dyadic

/-- The magnitude as a fraction, multiplied by a whole number. -/
def numerator (d : Dyadic) (factor : Nat) : Nat := d.mantissa * factor * power 2 d.scale.toNat
def denominator (d : Dyadic) : Nat := power 2 (-d.scale).toNat

theorem denominator_pos (d : Dyadic) : 0 < d.denominator := power_pos (by decide) _

end Dyadic

example : Format.single.read 0x3f800000 = .finite ⟨false, 8388608, -23⟩ := by decide
example : Format.single.read 0x80000001 = .finite ⟨true, 1, -149⟩ := by decide
example : Format.double.read 0x7ff0000000000000 = .infinite false := by decide

end ShaderLoom.Number
