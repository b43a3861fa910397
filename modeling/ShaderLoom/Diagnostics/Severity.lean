/-!
Severities of log records, from the gravest to the most detailed, and what passes a ceiling.
-/

namespace ShaderLoom

inductive Severity where
  | error | warn | info | debug | trace
  deriving DecidableEq, Repr

namespace Severity

def rank : Severity → Nat
  | error => 1
  | warn => 2
  | info => 3
  | debug => 4
  | trace => 5

def name : Severity → String
  | error => "ERROR"
  | warn => "WARN"
  | info => "INFO"
  | debug => "DEBUG"
  | trace => "TRACE"

/-- A ceiling lets through everything at least as grave as itself. -/
def passes (s ceiling : Severity) : Bool := s.rank ≤ ceiling.rank

end Severity

structure Record where
  severity : Severity
  text : String
  deriving DecidableEq, Repr

end ShaderLoom
