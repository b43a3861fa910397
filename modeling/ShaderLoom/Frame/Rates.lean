import ShaderLoom.Frame.Timescale

/-!
What is counted of frames and ticks, and the rates computed from the last intervals.

Only the last sixty intervals are kept, the oldest first. The average is stored. It is taken
over what is kept, anew with each interval.
-/

namespace ShaderLoom

@[ext] structure Rates (τ : Type) [Timescale τ] where
  frames : Nat
  throttled : Nat
  undrawn : Nat
  lastInterval : τ
  average : Timescale.Rate τ
  window : List τ

namespace Rates

def capacity : Nat := 60

variable {τ : Type}

/-- One interval more, and without the oldest if there are too many. -/
def push (window : List τ) (interval : τ) : List τ :=
  let longer := window ++ [interval]
  if capacity < longer.length then longer.tail else longer

variable [Timescale τ]

def empty : Rates τ := ⟨0, 0, 0, Timescale.zero, Timescale.toRate Timescale.zero, []⟩

def mean (xs : List τ) : τ := Timescale.sum xs / Timescale.count xs.length

/-- A frame was presented, an interval after the one before it if there was one. Without an
interval the frame is counted, and nothing else is written. -/
def record (r : Rates τ) (interval : Option τ) : Rates τ :=
  let counted := { r with frames := r.frames + 1 }
  match interval with
  | none => counted
  | some x =>
    let window := push r.window x
    { counted with
      lastInterval := x
      window := window
      average := Timescale.rateOf (mean window) }

@[simp] theorem frames_record (r : Rates τ) (interval : Option τ) :
    (r.record interval).frames = r.frames + 1 := by cases interval <;> rfl

@[simp] theorem throttled_record (r : Rates τ) (interval : Option τ) :
    (r.record interval).throttled = r.throttled := by cases interval <;> rfl

@[simp] theorem undrawn_record (r : Rates τ) (interval : Option τ) :
    (r.record interval).undrawn = r.undrawn := by cases interval <;> rfl

@[simp] theorem window_record (r : Rates τ) (interval : Option τ) :
    (r.record interval).window = interval.elim r.window (push r.window) := by
  cases interval <;> rfl

def throttle (r : Rates τ) : Rates τ := { r with throttled := r.throttled + 1 }

def skip (r : Rates τ) : Rates τ := { r with undrawn := r.undrawn + 1 }

/-- The rate of the last interval, computed when it is asked for. -/
def instant (r : Rates τ) : Timescale.Rate τ := Timescale.rateOf r.lastInterval

end Rates

end ShaderLoom
