import ShaderLoom.Diagnostics.Verbosity

/-!
The settings of the application, their defaults, and which of them can be rendered at all.
-/

namespace ShaderLoom

structure RenderSettings where
  targetFps : UInt32
  vsync : Bool
  deriving DecidableEq, Repr

structure WindowSettings where
  title : String
  width : UInt32
  height : UInt32
  deriving DecidableEq, Repr

structure LoggingSettings where
  level : Verbosity
  deriving DecidableEq, Repr

structure Settings where
  render : RenderSettings
  window : WindowSettings
  logging : LoggingSettings
  deriving DecidableEq, Repr

namespace Settings

def defaultFps : UInt32 := 24

def default : Settings where
  render := ⟨defaultFps, true⟩
  window := ⟨"Pixel Shader", 800, 600⟩
  logging := ⟨.warning⟩

/-- What makes rendering impossible, if anything does. -/
def problem? (s : Settings) : Option ConfigFault :=
  if s.render.targetFps = 0 then some .zeroRate
  else if s.window.width = 0 ∨ s.window.height = 0 then
    some (.emptyWindow s.window.width s.window.height)
  else none

def validate (s : Settings) : Except Fault Unit :=
  match s.problem? with
  | some cause => .error (.config cause)
  | none => .ok ()

theorem problem?_eq_none_iff (s : Settings) :
    s.problem? = none ↔ s.render.targetFps ≠ 0 ∧ s.window.width ≠ 0 ∧ s.window.height ≠ 0 := by
  unfold problem?
  split
  · simp_all
  · split
    · rename_i h; rcases h with h | h <;> simp_all
    · rename_i h; simp_all [not_or]

end Settings

end ShaderLoom
