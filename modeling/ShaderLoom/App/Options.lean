import ShaderLoom.Diagnostics.Severity
import ShaderLoom.Number.Power

/-!
The options of the command line.

`--config`, `--demo` and `--fps` take the argument that follows, whatever it looks like; as
the last argument they have no value and are ignored like any other unknown one, with a
warning. The last value of an option counts.
-/

namespace ShaderLoom

structure Options where
  configPath : Option String
  demo : Option String
  fps : Option UInt32
  list : Bool
  deriving DecidableEq, Repr

namespace Options

def unset : Options := ⟨none, none, none, false⟩

/-- What was read, the warnings up to there, and the value of `--fps` that was refused. -/
structure Parsed where
  options : Options
  warnings : List Record
  refused : Option String
  deriving DecidableEq, Repr

def isDigit (c : Char) : Bool := '0' ≤ c && c ≤ '9'

/-- Decimal digits with an optional plus sign, of a value below `2 ^ 32`. -/
def rate? (s : String) : Option UInt32 :=
  let ds := match s.toList with
    | '+' :: r => r
    | r => r
  let n := ds.foldl (fun n c => 10 * n + (c.toNat - '0'.toNat)) 0
  if ds != [] && ds.all isDigit && n < Number.power 2 32 then some (UInt32.ofNat n) else none

def ignored (arg : String) : Record := ⟨.warn, "Argument ignoré: " ++ arg⟩

def Parsed.warn (p : Parsed) (arg : String) : Parsed :=
  { p with warnings := ignored arg :: p.warnings }

/-- Reads the arguments from left to right, on top of the options read so far. -/
def parseFrom (o : Options) : List String → Parsed
  | [] => ⟨o, [], none⟩
  | [arg] => if arg = "--list" then ⟨{ o with list := true }, [], none⟩
             else ⟨o, [ignored arg], none⟩
  | arg :: value :: rest =>
    if arg = "--config" then parseFrom { o with configPath := some value } rest
    else if arg = "--demo" then parseFrom { o with demo := some value } rest
    else if arg = "--fps" then
      match rate? value with
      | some fps => parseFrom { o with fps := some fps } rest
      | none => ⟨o, [], some value⟩
    else if arg = "--list" then parseFrom { o with list := true } (value :: rest)
    else (parseFrom o (value :: rest)).warn arg

def parse (args : List String) : Parsed := parseFrom unset args

def refusal (value : String) : String := "--fps attend un entier, reçu '" ++ value ++ "'"

end Options

end ShaderLoom
