import ShaderLoom.Diagnostics.Fault
import ShaderLoom.Shader.Program
import ShaderLoom.Text.Blank
import ShaderLoom.Text.Column
import ShaderLoom.Text.Lines
import ShaderLoom.Wgsl.Check

/-!
Validation of whole modules, and the diagnostic that shows a refused module line by line.

Any checker will do that answers with the names of the entry points or with a message.
-/

namespace ShaderLoom.Validation

abbrev Checker := String → Except String (List String)

/-- Between the message and the rows of the source. -/
def opening : String := "\n\nWGSL généré:\n---\n"

def closing : String := "---\n"

/-- A line with its number, from one, in a column of four places or more. -/
def row (number : Nat) (line : String) : String :=
  Text.padLeft 4 (toString number) ++ " | " ++ line ++ "\n"

def rows (lines : List String) : String :=
  String.join (lines.zipIdx.map fun (line, i) => row (i + 1) line)

def numbered (source message : String) : String :=
  Text.trimEnd message ++ opening ++ rows (Text.lines source) ++ closing

def missingEntry (name : String) : String := "point d'entrée '" ++ name ++ "' introuvable"

def diagnostic (text : String) : Fault := .compilation (.diagnostic text)

/-- The entry points of a module, which have to be those that the pipeline calls, and may be
more. -/
def validateWith (check : Checker) (source : String) : Except Fault (List String) :=
  match check source with
  | .error message => .error (diagnostic (numbered source message))
  | .ok names =>
    match [Program.vertexEntryPoint, Fragment.entryPoint].find? (!names.contains ·) with
    | some name => .error (diagnostic (missingEntry name))
    | none => .ok names

/-- The checker for the shading language. -/
def language : Checker := fun source =>
  match Wgsl.checkModule source with
  | .ok names => .ok names
  | .error c => .error c.message

def validate (source : String) : Except Fault (List String) := validateWith language source

/-- A backend that compiles whatever is valid. -/
def backend (source : String) : Option Fault :=
  match validate source with
  | .ok _ => none
  | .error fault => some fault

end ShaderLoom.Validation
