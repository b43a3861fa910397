import ShaderLoom.Frame.Timescale

/-!
The gate that limits the rate of frames: a frame is due once an interval has passed since the
last one, and at any instant when there has been none.
-/

namespace ShaderLoom

structure Gate (τ : Type) where
  interval : τ
  last : Option τ

namespace Gate

/-- A rate of zero is taken as one. -/
def clampRate (rate : UInt32) : Nat := max rate.toNat 1

theorem clampRate_pos (rate : UInt32) : 1 ≤ clampRate rate := Nat.le_max_right _ _

variable {τ : Type} [Timescale τ]

def ofRate (rate : Nat) : Gate τ := ⟨Timescale.count 1 / Timescale.count rate, none⟩

def isDue (g : Gate τ) (now : τ) : Bool :=
  match g.last with
  | none => true
  | some last => g.interval ≤ now - last

def nextDue (g : Gate τ) : Option τ := g.last.map (· + g.interval)

def mark (g : Gate τ) (now : τ) : Gate τ := { g with last := some now }

def reset (g : Gate τ) : Gate τ := { g with last := none }

end Gate

end ShaderLoom
