import ShaderLoom.Wgsl.Builtin
import ShaderLoom.Wgsl.Memory
import ShaderLoom.Wgsl.Ray
import ShaderLoom.Wgsl.Texture

/-!
Calls of functions on values: of those that the module declares and of those that every module
has.

A call may give nothing. One that only computes is made when its value is needed; all others are
steps.
-/

namespace ShaderLoom.Wgsl

open Build

def callDeclared (m : Module) (f : Signature) (os : List Operand) : Build (Option Operand) := do
  ensure (m.records.sameAll (os.map (·.type)) f.params) (.mistyped "the arguments of a function")
  os.forM (read m)
  act
  demand f.demand
  pure (f.result.map fun t => { type := t })

/-- Whether one or all components of a vector are true; a single truth value stays as it is. -/
def anyOrAll (m : Module) (o : Operand) : Build Operand :=
  if o.type.bare = .bool then pure o
  else runtime m [o] (.ok .bool)
    (require (o.type.isVectorOf (· = .bool)) (.mistyped "a vector of truth values")) .none

/-- How a value changes from a fragment to its neighbours. -/
def derivative (m : Module) (o : Operand) : Build Operand :=
  runtime m [o] (.ok o.type) (require (o.type.hasLeaf Scalar.isFloat) (.mistyped "a derivative"))
    (.only .fragment)

/-- A mathematical function. It is given up to four arguments; whether they are as many as it takes
is asked with their types. -/
def compute (m : Module) (name : String) (f : Family) (os : List Operand) : Build Operand := do
  ensure (os.length ≤ 4) (.mistyped "the number of arguments")
  match os with
  | [] => refuse (.mistyped "the number of arguments")
  | first :: _ =>
    node m os (Constant.function? m.records name)
      (match f.result? name first.type with
        | some t => .ok t
        | none => .error (.mistyped name))
      (require (f.admits m.records (os.map (·.type))) (.mistyped name)) .none

def chooseBetween (m : Module) (rejected accepted condition : Operand) : Build Operand :=
  runtime m [rejected, accepted, condition] (.ok accepted.type)
    (require (selects m.records rejected.type accepted.type condition.type) (.mistyped "select"))
    .none

def arrayLength (m : Module) (o : Operand) : Build Operand := do
  let isOpen := match o.type.pointee? with
    | some (t, _) =>
      match t.bare with
      | .array _ none _ => true
      | _ => false
    | none => false
  let n ← runtime m [o] (.ok .uint) (require isOpen (.mistyped "arrayLength")) .none
  pure { n with demand := o.used .asking }

def callSingle (m : Module) (name : String) (os : List Operand) : Build (Option Operand) := do
  match name, os with
  | "any", [o] => some <$> anyOrAll m o
  | "all", [o] => some <$> anyOrAll m o
  | "select", [rejected, accepted, condition] =>
    some <$> chooseBetween m rejected accepted condition
  | "arrayLength", [o] => some <$> arrayLength m o
  | "atomicLoad", [pointer] => do
    let s ← atomicKind pointer
    some <$> runtime m [pointer] (.ok (.scalar s)) (.ok ()) .none
  | "atomicStore", [pointer, value] => do
    let _ ← atomicKind pointer
    store m pointer value
    pure none
  | "atomicCompareExchangeWeak", [pointer, expected, value] =>
    some <$> changeAtomic m pointer [expected, value] fun s => (exchangeResult s).map .record
  | "storageBarrier", [] => do
    together
    pure none
  | "workgroupBarrier", [] => do
    together
    pure none
  | "workgroupUniformLoad", [pointer] => some <$> uniformLoad m pointer
  | "rayQueryInitialize", [query, scene, ray] => do
    startQuery m query scene ray
    pure none
  | "rayQueryProceed", [query] => some <$> proceed m query
  | "rayQueryGetCommittedIntersection", [query] => some <$> committedIntersection m query
  | _, [pointer, value] =>
    if replacesAtomic name then some <$> changeAtomic m pointer [value] fun s => some (.scalar s)
    else refuse (.undefined name)
  | _, _ => refuse (.undefined name)

def callPredeclared (m : Module) (name : String) (os : List Operand) : Build (Option Operand) :=
  match family? name, sampling? name, query? name with
  | some f, _, _ => some <$> compute m name f os
  | _, some f, _ => some <$> sample m f os
  | _, _, some q => some <$> measure m q os
  | none, none, none =>
    if isDerivative name then
      match os with
      | [o] => some <$> derivative m o
      | _ => refuse (.mistyped name)
    else if name = "textureLoad" then some <$> loadTexel m os
    else if name = "textureStore" then do
      storeTexel m os
      pure none
    else callSingle m name os

end ShaderLoom.Wgsl
