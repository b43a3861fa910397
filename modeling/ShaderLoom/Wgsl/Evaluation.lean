import ShaderLoom.Wgsl.Call
import ShaderLoom.Wgsl.Construction
import ShaderLoom.Wgsl.Operation
import ShaderLoom.Wgsl.Selection

/-!
Types and expressions as a function evaluates them.

An expression may stand for a place. Where its value is wanted the place is read, and where
nothing else will be made of the value it becomes concrete. Sizes of arrays belong to the module
and are evaluated apart from the function they stand in.
-/

namespace ShaderLoom.Wgsl

open Build

/-- Evaluates something that may not depend on the function. -/
def apart {α : Type} (inner : Build α) : Build α := do
  let (a, _) ← inner.run .empty
  pure a

def natural (o : Operand) : Build Nat :=
  match o.fixed?.bind Constant.natural? with
  | some n => pure n
  | none => refuse (.mistyped "a constant number")

def namedType (m : Module) (name : String) : Build Ty :=
  match m.meaning? name with
  | some (.type t) => pure t
  | some _ => refuse (.mistyped name)
  | none => refuse (.undefined name)

def boundName (id : Nat) : Build Operand := do
  match (← get).names.lookup id with
  | some o => pure o
  | none => refuse (.misplaced "a name of the function")

/-- What a name of the module stands for: handles are used directly, other variables are places. -/
def freeName (m : Module) (name : String) : Build Operand :=
  match m.meaning? name with
  | some (.constant t c) => leaf { type := t, known := some (.named t c), fixed := true }
  | some (.variable v) =>
    if v.space = .handle then leaf { type := v.type, root := .global name }
    else leaf { type := .pointer v.type v.space, isPlace := true, root := .global name }
  | some _ => refuse (.mistyped name)
  | none => refuse (.undefined name)

def addressOf (o : Operand) : Build Operand := do
  ensure o.isPlace (.mistyped "the operand of &")
  pure o.asPointer

def placeOf (o : Operand) : Build Operand := do
  ensure o.type.pointee?.isSome (.mistyped "the operand of *")
  pure { o with isPlace := true }

def mustGive (o : Option Operand) : Build Operand :=
  match o with
  | some o => pure o
  | none => refuse (.mistyped "a function without a result")

variable (m : Module)

mutual

def resolve : TypeRef → Build Ty
  | .scalar s => pure (.scalar s)
  | .vector n s => pure (.vector n s)
  | .matrix c r s => pure (.matrix c r s)
  | .atomic s => pure (.atomic s)
  | .pointer t space => do pure (.pointer (← resolve t) space)
  | .array t size => do
    let item ← resolve t
    let n ← itemCount size
    pure (.array item (some n) (m.records.layout item).stride)
  | .openArray t => do
    let item ← resolve t
    pure (.array item none (m.records.layout item).stride)
  | .bindings t size => do
    let item ← resolve t
    pure (.bindings item (some (← itemCount size)))
  | .openBindings t => do pure (.bindings (← resolve t) none)
  | .texture t => pure (.texture t)
  | .sampler comparison => pure (.sampler comparison)
  | .accelerationStructure => pure .accelerationStructure
  | .rayQuery => pure .rayQuery
  | .predeclared name => pure (.record name)
  | .named name => namedType m name

/-- The size of an array is at least one. -/
def itemCount (size : Expr) : Build Nat := do
  let n ← apart do natural (← concretize m (← load m (← evaluate size)))
  ensure (0 < n) (.mistyped "the size of an array")
  pure n

/-- What an expression stands for: a value or a place. -/
def evaluate : Expr → Build Operand
  | .literal l => leaf (.ofConstant (.literal l))
  | .bound id => boundName id
  | .free name => freeName m name
  | .unary op e => do unary m op (← load m (← evaluate e))
  | .binary op l r => do
    let left ← load m (← evaluate l)
    let right ← load m (← evaluate r)
    binary m op left right
  | .deref e => do placeOf (← concretize m (← load m (← evaluate e)))
  | .address e => do addressOf (← evaluate e)
  | .make t args => do
    let t ← resolve t
    make m t (← evaluateAll args)
  | .makeLike shape args => do makeLike m shape (← evaluateAll args)
  | .call name args => do mustGive (← call name args)
  | .bitcast t e => do
    let o ← concretize m (← load m (← evaluate e))
    bitcast m (← resolve t) o
  | .member e field => do member m (← evaluate e) field
  | .index e i => do
    let base ← evaluate e
    index m base (← concretize m (← load m (← evaluate i)))

/-- The values of arguments, which may still be abstract. -/
def evaluateAll : List Expr → Build (List Operand)
  | [] => pure []
  | e :: es => do
    let o ← load m (← evaluate e)
    pure (o :: (← evaluateAll es))

def evaluateArguments : List Expr → Build (List Operand)
  | [] => pure []
  | e :: es => do
    let o ← concretize m (← load m (← evaluate e))
    pure (o :: (← evaluateArguments es))

/-- A name before arguments is a type, of which a value is made, or a function. -/
def call (name : String) (args : List Expr) : Build (Option Operand) := do
  match m.meaning? name with
  | some (.type t) => do pure (some (← make m t (← evaluateAll args)))
  | some (.function f) => do callDeclared m f (← evaluateArguments args)
  | some _ => refuse (.mistyped name)
  | none =>
    if name = "RayDesc" then do pure (some (← make m (.record name) (← evaluateAll args)))
    else callPredeclared m name (← evaluateArguments args)

end

def abstractValue (e : Expr) : Build Operand := do load m (← evaluate m e)

def value (e : Expr) : Build Operand := do concretize m (← abstractValue m e)

/-- A constant that is no negative number, evaluated apart from the function it stands in. -/
def number (e : Expr) : Build Nat := apart do natural (← value m e)

end ShaderLoom.Wgsl
