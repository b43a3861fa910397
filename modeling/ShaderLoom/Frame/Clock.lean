import ShaderLoom.Frame.Timescale

/-!
Clocks. A manual clock shows what it was set to; a stopwatch shows the time since it was made.
-/

namespace ShaderLoom

structure ManualClock (τ : Type) where
  now : τ

namespace ManualClock

variable {τ : Type} [Timescale τ]

def zero : ManualClock τ := ⟨Timescale.zero⟩
def set (_ : ManualClock τ) (now : τ) : ManualClock τ := ⟨now⟩
def advance (c : ManualClock τ) (dt : τ) : ManualClock τ := ⟨c.now + dt⟩

end ManualClock

/-- When the stopwatch was made, in nanoseconds of a counter that never goes back. -/
structure Stopwatch where
  origin : Nat

def Stopwatch.nanoseconds (w : Stopwatch) (counter : Nat) : Nat := counter - w.origin

end ShaderLoom
