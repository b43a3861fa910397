import ShaderLoom.Diagnostics.Severity
import ShaderLoom.Diagnostics.Fault

/-!
How much is logged: five settings with names, each a ceiling on severities.
-/

namespace ShaderLoom

inductive Verbosity where
  | debug | info | warning | error | all
  deriving DecidableEq, Repr

namespace Verbosity

instance : Inhabited Verbosity := ⟨warning⟩

def every : List Verbosity := [debug, info, warning, error, all]

def name : Verbosity → String
  | debug => "debug"
  | info => "info"
  | warning => "warning"
  | error => "error"
  | all => "all"

def ceiling : Verbosity → Severity
  | debug => .debug
  | info => .info
  | warning => .warn
  | error => .error
  | all => .trace

/-- The setting of exactly this name. -/
def ofName? (s : String) : Option Verbosity := every.find? (·.name = s)

/-- Reads a name in any mixture of ASCII cases; `warn` is a second name for `warning`. -/
def read (s : String) : Except Fault Verbosity :=
  let lower := s.map Char.toLower
  match ofName? lower with
  | some v => .ok v
  | none => if lower = "warn" then .ok warning else .error (.config (.unknownVerbosity lower))

theorem ofName?_name (v : Verbosity) : ofName? v.name = some v := by cases v <;> decide

end Verbosity

end ShaderLoom
