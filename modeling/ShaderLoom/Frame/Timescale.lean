import ShaderLoom.Number.Binary32

/-!
The arithmetic that instants and intervals are measured in.

The pacing of frames needs only sums, differences, quotients, whole numbers and comparisons.
It runs on floating-point seconds, with rates kept in single precision, and can be read on
exact rationals as well, with nothing rounded.
-/

namespace ShaderLoom

class Timescale (τ : Type) extends Add τ, Sub τ, Div τ, LE τ, LT τ where
  count : Nat → τ
  decideLE : DecidableLE τ
  decideLT : DecidableLT τ
  /-- What a rate is kept as. -/
  Rate : Type
  toRate : τ → Rate

attribute [reducible, instance] Timescale.decideLE Timescale.decideLT

namespace Timescale

instance : Timescale Float where
  count := Float.ofNat
  decideLE := Float.decLe
  decideLT := Float.decLt
  Rate := Number.Binary32
  toRate := .ofFloat

instance : Timescale Rat where
  count n := (n : Rat)
  decideLE := inferInstance
  decideLT := inferInstance
  Rate := Rat
  toRate := id

variable {τ : Type} [Timescale τ]

def zero : τ := count 0

/-- A duration cut off at zero; what is not comparable counts as zero. -/
def clip (x : τ) : τ := if zero < x then x else zero

/-- How many intervals of this length fit into a unit of time, or zero if it is not positive. -/
def rateOf (interval : τ) : Rate τ :=
  if zero < interval then toRate (count 1 / interval) else toRate zero

/-- The sum from left to right. -/
def sum (xs : List τ) : τ := xs.foldl (· + ·) zero

end Timescale

end ShaderLoom
