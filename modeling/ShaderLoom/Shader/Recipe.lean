import ShaderLoom.Shader.Chain

/-!
Programs as data: the steps of a chain, each with the calls that make its expression, and how
the chain ends.
-/

namespace ShaderLoom

structure ExprSpec where
  name : String
  calls : List ExprCall
  deriving DecidableEq, Repr

def ExprSpec.build (s : ExprSpec) : Journal Expression := Expression.ofCalls s.name s.calls

inductive Step where
  | code (text : String)
  | header (text : String)
  | declare (type : ValueType) (spec : ExprSpec)
  | assign (op : AssignOp) (spec : ExprSpec)
  deriving DecidableEq, Repr

inductive Color where
  | text (s : String)
  | expression (spec : ExprSpec)
  deriving DecidableEq, Repr

structure Recipe where
  steps : List Step
  color : Color
  deriving DecidableEq, Repr

def Chain.step (c : Chain) : Step → Journal Chain
  | .code text => pure (c.code text)
  | .header text => pure (c.header text)
  | .declare type spec => do c.declare type (← spec.build)
  | .assign op spec => do c.assign op (← spec.build)

def Chain.run (c : Chain) (steps : List Step) : Journal Chain := steps.foldlM Chain.step c

def Chain.finish (c : Chain) : Color → Journal (Except Fault Program)
  | .text s => c.finalize s
  | .expression spec => do c.finalizeWith (← spec.build)

def Recipe.assemble (r : Recipe) : Journal (Except Fault Program) := do
  (← Chain.empty.run r.steps).finish r.color

end ShaderLoom
