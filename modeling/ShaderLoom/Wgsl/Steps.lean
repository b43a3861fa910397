import ShaderLoom.Wgsl.Evaluation

/-!
Statements as the steps of a function.

Each statement makes a step of the values that it has computed before it does anything with them.
A value that a name is given to is computed even if the name is never used; one that is dropped is
not.
-/

namespace ShaderLoom.Wgsl

open Build

/-- Where a statement stands: the type of the result of its function, and whether it is repeated. -/
structure Surroundings where
  result : Option Ty
  repeated : Bool

def inner (block : Build Unit) : Build (List Code) := do
  let before := (← get).code
  modify fun b => { b with code := [] }
  block
  let steps := (← get).code.reverse
  modify fun b => { b with code := before }
  pure steps

def bind (id : Nat) (o : Operand) : Build Unit :=
  modify fun b => { b with names := (id, o) :: b.names }

variable (m : Module)

/-- Gives a name to a value; a type in front of it has to be its type. -/
def stepConstant (id : Nat) (type : Option TypeRef) (e : Expr) : Build Unit := do
  let o ← value m e
  match type with
  | some ref => do
    let t ← resolve m ref
    ensure (m.same o.type t) (.mistyped "an initial value")
  | none => pure ()
  keep m o
  flush
  bind id o.bound

/-- The type of a variable and its initial value, of which the one may follow from the other. -/
def variableParts (type : Option TypeRef) (e : Option Expr) : Build (Ty × Option Operand) := do
  match ← type.mapM (resolve m), e with
  | some t, some e => do
    let o ← abstractValue m e
    pure (t, some (← convert m t o))
  | none, some e => do
    let o ← value m e
    pure (o.type, some o)
  | some t, none => pure (t, none)
  | none, none => refuse (.mistyped "a variable")

/-- Declares a variable. A constant is its value from the start, unless it is set in every round
of a loop. -/
def stepVariable (w : Surroundings) (id : Nat) (type : Option TypeRef) (e : Option Expr) :
    Build Unit := do
  let (t, start) ← variableParts m type e
  let i ← m.info t
  ensure i.traits.constructible (.mistyped "a variable")
  let place : Operand := { type := .pointer t .function, isPlace := true, root := .variable }
  flush
  match start with
  | some o =>
    if o.fixed && !w.repeated then do
      o.check m
      ensure (m.same o.type t) (.mistyped "an initial value")
    else store m place o
  | none => pure ()
  bind id place

def stepAssign (target : Expr) (op : Option Binary) (e : Expr) : Build Unit := do
  let place ← evaluate m target
  let o ← value m e
  ensure place.isPlace (.mistyped "the target of an assignment")
  match op with
  | none => store m place o
  | some op => do
    let (l, r) ← spreadSides m op (← load m place) o
    store m place (← applyBinary m op l r)

def stepCount (target : Expr) : Build Unit := do
  let place ← evaluate m target
  ensure place.isPlace (.mistyped "a counter")
  ensure (place.type.pointee?.any fun (t, _) => t.isScalarOf Scalar.isInteger)
    (.mistyped "a counter")
  let old ← load m place
  store m place (← applyBinary m .add old { type := old.type })

def stepYield (w : Surroundings) (e : Option Expr) : Build Unit := do
  match e with
  | some e => do
    let o ← value m e
    read m o
    ensure (w.result.any (m.same o.type)) (.mistyped "a result")
    flush
    push (.yield true)
  | none => push (.yield false)

def condition (e : Expr) : Build Unit := do
  let o ← value m e
  read m o
  ensure (o.type.isScalarOf (· = .bool)) (.mistyped "a condition")
  flush

def selectorOf (e : Expr) : Build Bool := do
  let o ← value m e
  read m o
  flush
  match o.type.leaf? with
  | some .uint => pure true
  | some .int => pure false
  | _ => refuse (.mistyped "a selector")

def labelOf (isUnsigned : Bool) (e : Expr) : Build Int := do
  match (← apart (value m e)).fixed?.bind Constant.literal?, isUnsigned with
  | some (.int n), false => pure n.toInt
  | some (.uint n), true => pure n.toNat
  | _, _ => refuse (.mistyped "the number of a case")

/-- Every number is chosen once, and there is a default. -/
def labelsDiffer (labels : List (Option Int)) : Bool :=
  labels.contains none && labels.eraseDups.length = labels.length

mutual

def step (w : Surroundings) : Stmt → Build Unit
  | .block body => do push (.block (← inner (steps w body)))
  | .constant id type e => stepConstant m id type e
  | .variable id type e => stepVariable m w id type e
  | .assign target op e => stepAssign m target op e
  | .count target => stepCount m target
  | .ignore e => do
    let _ ← value m e
    flush
  | .invoke name args => do
    let _ ← call m name args
    flush
  | .yield e => stepYield m w e
  | .branch test yes no => do
    condition m test
    let a ← inner (steps w yes)
    let b ← inner (steps w no)
    push (.branch a b)
  | .choose selector cases => do
    let isUnsigned ← selectorOf m selector
    let (labels, code) ← stepCases isUnsigned w cases
    ensure (labelsDiffer labels) (.misplaced "a case")
    push (.choose code)
  | .case _ _ _ => refuse (.misplaced "a case")
  | .loop body continuing leaveIf => do
    let a ← inner (steps { w with repeated := true } body)
    let b ← inner do
      steps { w with repeated := true } continuing
      match leaveIf with
      | some e => condition m e
      | none => pure ()
    push (.loop a b)
  | .leave => push .leave
  | .again => push .again
  | .discard => do
    push .discard
    demand (.only .fragment)

def steps (w : Surroundings) : List Stmt → Build Unit
  | [] => pure ()
  | s :: rest => do
    step w s
    steps w rest

/-- The numbers of the cases of a choice, none for the default, and their steps. -/
def stepCases (isUnsigned : Bool) (w : Surroundings) :
    List Stmt → Build (List (Option Int) × List Code)
  | [] => pure ([], [])
  | .case label fallsThrough body :: rest => do
    let number ← label.mapM (labelOf m isUnsigned)
    let code ← inner (steps w body)
    let (labels, cases) ← stepCases isUnsigned w rest
    pure (number :: labels, .case fallsThrough code :: cases)
  | _ :: _ => refuse (.misplaced "a statement between cases")

end

/-- Puts a function together and checks how its paths end; the result is what it asks of its
stage. -/
def bodyDemand (result : Option Ty) (params : List (Nat × Operand)) (body : List Stmt) :
    Checked Demand := do
  let (_, b) ← (steps m ⟨result, false⟩ body).run { Body.empty with names := params }
  checkBody result.isSome b.code.reverse
  .ok b.demand

end ShaderLoom.Wgsl
