import ShaderLoom.Number.Binary

/-!
The shortest decimal that reads back as a given binary floating-point number.

The numbers that round to `mantissa * 2 ^ scale` form an interval, whose ends belong to it
when the mantissa is even. Grids of `1, 2, 3, ...` significant digits are tried in turn. On
each grid only the two neighbours of the exact value can be the nearest one in the interval;
the first grid with a neighbour inside wins, and of two such neighbours the nearer, or the
larger one at a tie.
-/

namespace ShaderLoom.Number

/-- The number `digits * 10 ^ power`. -/
structure Decimal where
  digits : Nat
  power : Int
  deriving DecidableEq, Repr

/-- An interval around an exact value, as fractions over one denominator. -/
structure Interval where
  low : Nat
  value : Nat
  high : Nat
  den : Nat
  closed : Bool
  deriving Repr

/-- The numbers that round to the given magnitude. The gap below is half as wide at a power
of two above the smallest normal number. -/
def Format.interval (F : Format) (d : Dyadic) : Interval :=
  let narrow := d.mantissa = F.hidden ∧ F.minScale < d.scale
  let unit := power 2 d.scale.toNat
  { low := (4 * d.mantissa - if narrow then 1 else 2) * unit
    value := 4 * d.mantissa * unit
    high := (4 * d.mantissa + 2) * unit
    den := 4 * d.denominator
    closed := d.mantissa % 2 = 0 }

namespace Interval

/-- Everything divided by `10 ^ k`. -/
def rescale (i : Interval) (k : Int) : Interval :=
  let up := power 10 (-k).toNat
  { i with low := i.low * up, value := i.value * up, high := i.high * up,
           den := i.den * power 10 k.toNat }

def contains (i : Interval) (c : Nat) : Bool :=
  if i.closed then i.low ≤ c * i.den && c * i.den ≤ i.high
  else i.low < c * i.den && c * i.den < i.high

/-- The whole number in the interval that is nearest to its value. -/
def nearest? (i : Interval) : Option Nat :=
  let c := i.value / i.den
  match i.contains c, i.contains (c + 1) with
  | true, true => some (if 2 * (i.value % i.den) < i.den then c else c + 1)
  | true, false => some c
  | false, true => some (c + 1)
  | false, false => none

/-- The power of ten at or below the value, for a value of at least `10 ^ -400`. -/
def magnitude (i : Interval) : Int :=
  (Nat.toDigits 10 (i.value * power 10 400 / i.den)).length - 401

/-- The nearest point of the interval with the given number of significant digits. -/
def onGrid? (i : Interval) (places : Nat) : Option Decimal :=
  let k := i.magnitude - places + 1
  (i.rescale k).nearest?.map fun c =>
    if c = power 10 places then ⟨1, k + places⟩ else ⟨c, k⟩

end Interval

/-- The exact decimal expansion of a magnitude. -/
def Dyadic.exact (d : Dyadic) : Decimal :=
  ⟨d.mantissa * power 2 d.scale.toNat * power 5 (-d.scale).toNat, -((-d.scale).toNat : Int)⟩

/-- Seventeen digits are enough for either format; the exact expansion stands behind them. -/
def Format.shortest (F : Format) (d : Dyadic) : Decimal :=
  ((List.range 17).findSome? fun n => (F.interval d).onGrid? (n + 1)).getD d.exact

example : Format.single.shortest ⟨false, 8388608, -23⟩ = ⟨1, 0⟩ := by decide +kernel
example : Format.single.shortest ⟨false, 1, -149⟩ = ⟨1, -45⟩ := by decide +kernel
example : Format.single.shortest ⟨false, 0xffffff, 104⟩ = ⟨34028235, 31⟩ := by decide +kernel

end ShaderLoom.Number
