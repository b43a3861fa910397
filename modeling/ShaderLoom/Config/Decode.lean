import ShaderLoom.Config.Settings
import ShaderLoom.Number.Power
import ShaderLoom.Toml.Value

/-!
Settings from the entries of a document.

A setting that is absent has its default, an unknown key is passed over, and a value of the
wrong type is refused. A group of settings may also be given as an array of its values in
the order of the fields.
-/

namespace ShaderLoom

open Toml

/-- The value for a field, by its name or its position. -/
abbrev Fields := (name : String) → (index : Nat) → Option Value

def Toml.Value.fields? : Value → Option Fields
  | .table _ es => some fun name _ => Entries.get? es name
  | .array items => some fun _ i => items[i]?
  | .tables rows => some fun _ i => (rows[i]?).map (.table .header)
  | .moment => some fun _ _ => none
  | _ => none

def Toml.Value.boolean? : Value → Option Bool
  | .boolean b => some b
  | _ => none

def Toml.Value.string? : Value → Option String
  | .string s => some s
  | _ => none

/-- A whole number of 32 bits, never wrapped. -/
def Toml.Value.word? : Value → Option UInt32
  | .integer n =>
    if 0 ≤ n ∧ n < (Number.power 2 32 : Int) then some (UInt32.ofNat n.toNat) else none
  | _ => none

def Toml.Value.isEmpty : Value → Bool
  | .table _ es => es.isEmpty
  | .array items => items.isEmpty
  | .tables rows => rows.isEmpty
  | _ => false

/-- A name, or a table whose only entry has the name as its key and nothing as its value. -/
def Toml.Value.verbosity? : Value → Option Verbosity
  | .string s => Verbosity.ofName? s
  | .table _ [(name, v)] => if v.isEmpty then Verbosity.ofName? name else none
  | _ => none

/-- An absent value has the default; one that is present has to be readable. -/
def orDefault {α : Type} (read : Value → Option α) (fallback : α) : Option Value → Option α
  | none => some fallback
  | some v => read v

namespace Settings

def renderOf? (v : Value) : Option RenderSettings := do
  let f ← v.fields?
  let targetFps ← orDefault Value.word? default.render.targetFps (f "target_fps" 0)
  let vsync ← orDefault Value.boolean? default.render.vsync (f "vsync" 1)
  some { targetFps, vsync }

def windowOf? (v : Value) : Option WindowSettings := do
  let f ← v.fields?
  let title ← orDefault Value.string? default.window.title (f "title" 0)
  let width ← orDefault Value.word? default.window.width (f "width" 1)
  let height ← orDefault Value.word? default.window.height (f "height" 2)
  some { title, width, height }

def loggingOf? (v : Value) : Option LoggingSettings := do
  let f ← v.fields?
  let level ← orDefault Value.verbosity? default.logging.level (f "level" 0)
  some { level }

def ofEntries? (es : Entries) : Option Settings := do
  let render ← orDefault renderOf? default.render (es.get? "render")
  let window ← orDefault windowOf? default.window (es.get? "window")
  let logging ← orDefault loggingOf? default.logging (es.get? "logging")
  some { render, window, logging }

end Settings

end ShaderLoom
