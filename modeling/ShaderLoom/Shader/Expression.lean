import ShaderLoom.Shader.Literal
import ShaderLoom.Shader.NameSupply
import ShaderLoom.Shader.Statement
import ShaderLoom.Shader.Template

/-!
Named expressions, built call by call.

A call sets the type or the value. Some values need a helper, a constant declared just before
the statement that uses it. Helpers stay with the expression, also when a later call replaces
the value that needed them, and get their names only when the expression is lowered.
-/

namespace ShaderLoom

open Number

inductive Axis where
  | x | y
  deriving DecidableEq, Repr

def Axis.name : Axis → String
  | x => "x"
  | y => "y"

inductive ExprCall where
  | typed (type : ValueType)
  | expression (text : String)
  | circle (x y radius : Binary32) (smooth : Bool)
  | wave (axis : Axis) (frequency speed : Binary32)
  | noise (scale : Binary32)
  deriving DecidableEq, Repr

structure Helper where
  type : ValueType
  value : Template
  deriving DecidableEq, Repr

structure Expression where
  name : String
  type : Option ValueType
  value : Option Template
  helpers : List Helper
  deriving DecidableEq, Repr

namespace Expression

def defaultFrequency : Binary32 := ⟨0x41200000⟩
def defaultSpeed : Binary32 := ⟨0x3f800000⟩
def defaultScale : Binary32 := ⟨0x41200000⟩

/-- The width of the soft edge of a circle, one hundredth. -/
def edge : Binary32 := ⟨0x3c23d70a⟩

def named (name : String) : Expression := ⟨name, none, none, []⟩

/-- A value with one hole, for a helper that is added to the others. -/
def withHelper (e : Expression) (helper before : String) : Expression :=
  { e with
    helpers := e.helpers ++ [⟨.float, Template.raw helper⟩]
    value := some [.text before, .helper e.helpers.length, .text ")"] }

def waveText (axis : Axis) (frequency speed : Binary32) : Journal String := do
  let f ← literal frequency
  let s ← literal speed
  pure ("sin(uv." ++ axis.name ++ " * " ++ f ++ " + time * " ++ s ++ ")")

def distanceText (x y : Binary32) : Journal String := do
  let a ← literal x
  let b ← literal y
  pure ("distance(uv, vec2<f32>(" ++ a ++ ", " ++ b ++ "))")

/-- One inside the circle and zero outside, up to the distance that closes the text. -/
def discText (radius : Binary32) (smooth : Bool) : Journal String :=
  if smooth then do
    let inner ← literal (radius - edge)
    let outer ← literal radius
    pure ("1.0 - smoothstep(" ++ inner ++ ", " ++ outer ++ ", ")
  else do
    let r ← literal radius
    pure ("1.0 - step(" ++ r ++ ", ")

def hashText (scale : Binary32) : Journal String := do
  let s ← literal scale
  pure ("sin(dot(uv * " ++ s ++ ", vec2<f32>(12.9898, 78.233))) * 43758.5453")

def call (e : Expression) : ExprCall → Journal Expression
  | .typed type => pure { e with type := some type }
  | .expression text => pure { e with value := some (Template.raw text) }
  | .circle x y radius smooth => do
    let distance ← distanceText x y
    let disc ← discText radius smooth
    pure (e.withHelper distance disc)
  | .wave axis frequency speed => do
    let text ← waveText axis frequency speed
    pure { e with value := some (Template.raw text) }
  | .noise scale => do
    let hash ← hashText scale
    pure (e.withHelper hash "fract(")

def callAll (e : Expression) (calls : List ExprCall) : Journal Expression := calls.foldlM call e

def ofCalls (name : String) (calls : List ExprCall) : Journal Expression :=
  (named name).callAll calls

/-- The declarations of the helpers, under the next names of the supply. A helper may refer
only to those before it. -/
def helperStatements (e : Expression) (s : NameSupply) : List Statement :=
  e.helpers.zipIdx.map fun (h, i) =>
    .helper (NameSupply.nameAt (s.issued + i)) h.type (h.value.resolve (s.names i))

/-- An expression lowered: its helpers, and the text of its value. -/
structure Lowered where
  helpers : List Statement
  value : String

def lower (e : Expression) (value : Template) (s : NameSupply) : Lowered :=
  { helpers := e.helperStatements s
    value := value.resolve (s.names e.helpers.length) }

def missingType (e : Expression) : Journal Fault := do
  Journal.log .warn
    ("ExpressionBuilder: TYPE invalide ou absent pour la variable '" ++ e.name ++ "'")
  pure (.malformed e.name .type)

def missingValue (e : Expression) : Journal Fault := do
  Journal.log .warn
    ("ExpressionBuilder: VALUE invalide ou absente pour la variable '" ++ e.name ++ "'")
  pure (.malformed e.name .value)

/-- What comes of a request, a fault included, and the supply that is left after it. -/
abbrev Answer (α : Type) := Except Fault α × NameSupply

/-- The value with its helpers. -/
def toValue (e : Expression) (s : NameSupply) : Journal (Answer Lowered) :=
  match e.value with
  | none => return (.error (← e.missingValue), s)
  | some v => pure (.ok (e.lower v s), s.advance e.helpers.length)

def close (statement : String → Statement) (l : Lowered) : List Statement :=
  l.helpers ++ [statement l.value]

/-- The value of an expression in a statement, behind its helpers. -/
def toStatements (e : Expression) (statement : String → Statement) (s : NameSupply) :
    Journal (Answer (List Statement)) := do
  let (lowered, left) ← e.toValue s
  pure (lowered.map (close statement), left)

/-- A declaration of the variable; the type is asked for before the value. -/
def toDeclaration (e : Expression) (s : NameSupply) : Journal (Answer (List Statement)) :=
  match e.type with
  | none => return (.error (← e.missingType), s)
  | some type => e.toStatements (.declare e.name type) s

/-- An assignment to a variable that exists. -/
def toAssignment (e : Expression) (op : AssignOp) (s : NameSupply) :
    Journal (Answer (List Statement)) := e.toStatements (.assign e.name op) s

end Expression

end ShaderLoom
