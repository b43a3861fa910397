import ShaderLoom.Shader.Expression
import ShaderLoom.Shader.Program

/-!
Programs assembled step by step.

Statements stand in the order of the steps, and one supply names all helpers. An expression
without a value does not stop the chain: the first such fault is kept, and the chain then
finishes with it and reports it once.
-/

namespace ShaderLoom

structure Chain where
  headers : Array String
  body : Array Statement
  supply : NameSupply
  failure : Option Fault

namespace Chain

def empty : Chain := ⟨#[], #[], .start, none⟩

/-- Raw code in the body. -/
def code (c : Chain) (text : String) : Chain := { c with body := c.body.push (.raw text) }

/-- Raw code in front of the function. -/
def header (c : Chain) (text : String) : Chain := { c with headers := c.headers.push text }

/-- The supply goes on as the request left it, whatever came of the request. -/
def append (c : Chain) : Expression.Answer (List Statement) → Chain
  | (.ok statements, supply) => { c with body := c.body ++ statements, supply := supply }
  | (.error fault, supply) => { c with supply := supply, failure := c.failure <|> some fault }

/-- Declares a variable of the given type, whatever type the expression carries. -/
def declare (c : Chain) (type : ValueType) (e : Expression) : Journal Chain :=
  return c.append (← { e with type := some type }.toDeclaration c.supply)

def assign (c : Chain) (op : AssignOp) (e : Expression) : Journal Chain :=
  return c.append (← e.toAssignment op c.supply)

def toFragment (c : Chain) (color : String) : Fragment := ⟨c.headers.toList, c.body.toList, color⟩

def fail (fault : Fault) : Journal (Except Fault Program) := do
  Journal.report fault
  pure (.error fault)

/-- The program with the given colour, or the first fault of the chain. -/
def finalize (c : Chain) (color : String) : Journal (Except Fault Program) :=
  match c.failure with
  | some fault => fail fault
  | none => do
    let source := (c.toFragment color).render
    Journal.log .debug ("Fonction de fragment générée:\n" ++ source)
    pure (.ok ⟨source⟩)

def addHelpers (c : Chain) (helpers : List Statement) (supply : NameSupply) : Chain :=
  { c with body := c.body ++ helpers, supply := supply }

/-- The colour is an expression, whose helpers end the body. -/
def finalizeWith (c : Chain) (e : Expression) : Journal (Except Fault Program) := do
  match ← e.toValue c.supply with
  | (.ok l, supply) => (c.addHelpers l.helpers supply).finalize l.value
  | (.error fault, _) => fail (c.failure.getD fault)

end Chain

end ShaderLoom
