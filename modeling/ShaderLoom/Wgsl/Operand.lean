import ShaderLoom.Wgsl.Flow
import ShaderLoom.Wgsl.Module

/-!
Values and places while a function is put together.

What is wrong with a value is kept with it and counts only once the value is needed, for a value
that nothing needs is never computed. What a value asks of its stage is kept with it likewise.
-/

namespace ShaderLoom.Wgsl

/-- Where a place or handle comes from. -/
inductive Root where
  | nowhere
  | variable
  | argument
  | global (name : String)
  deriving DecidableEq

/-- A value, or a place with the type of a pointer to it. `known` values are literals or put
together from such; only `fixed` ones may stand where a constant is asked for. `steps` counts the
selections that lead from the root, and `ofVector` marks a component of a vector or a column of a
matrix. -/
structure Operand where
  type : Ty
  isPlace : Bool := false
  known : Option Constant := none
  fixed : Bool := false
  fault : Option Complaint := none
  demand : Demand := .none
  root : Root := .nowhere
  steps : Nat := 0
  ofVector : Bool := false

/-- A function under construction: its numbered names, its steps so far, the last one first,
whether values have been computed since the last step, and what it asks of its stage. -/
structure Body where
  names : List (Nat × Operand)
  code : List Code
  pending : Bool
  demand : Demand

def Body.empty : Body := ⟨[], [], false, .none⟩

abbrev Build := StateT Body Checked

namespace Operand

def ofConstant (c : Constant) : Operand := { type := c.type, known := some c, fixed := true }

def fixed? (o : Operand) : Option Constant := if o.fixed then o.known else none

def check (m : Module) (o : Operand) : Checked Unit :=
  match o.known, o.fault with
  | some c, _ => c.check m.records
  | none, some fault => .error fault
  | none, none => .ok ()

/-- What a value asks for when it is used in a certain way. -/
def used (u : Use) (o : Operand) : Demand :=
  match o.root with
  | .global name => o.demand.use name u
  | _ => o.demand

def asPointer (o : Operand) : Operand := { o with isPlace := false }

/-- What a name for a value stands for: nothing has to be computed again, and no constant. -/
def bound (o : Operand) : Operand := { o with fixed := false, demand := .none }

end Operand

namespace Build

def refuse {α : Type} (c : Complaint) : Build α := throw c

def ensure (ok : Bool) (c : Complaint) : Build Unit := if ok then pure () else throw c

def flush : Build Unit := modify fun b =>
  if b.pending then { b with code := .emit :: b.code, pending := false } else b

def compute : Build Unit := modify fun b => { b with pending := true }

def push (c : Code) : Build Unit := modify fun b => { b with code := c :: b.code }

def act : Build Unit := do
  flush
  push .act

def demand (d : Demand) : Build Unit := modify fun b => { b with demand := b.demand.join d }

def leaf (o : Operand) : Build Operand := do
  flush
  pure o

def use (m : Module) (u : Use) (o : Operand) : Build Unit := do
  o.check m
  demand (o.used u)

def read (m : Module) (o : Operand) : Build Unit := use m .reading o

def keep (m : Module) (o : Operand) : Build Unit := do
  o.check m
  demand o.demand

/-- A known value; literals need no computation. -/
def constant (c : Constant) : Build Operand := do
  if c.isComposite then compute else flush
  pure (.ofConstant c)

/-- Looks into the named values among some constants, which copies those that have parts. -/
def openAll (cs : List Constant) : Build (List Constant) := do
  if cs.any fun c => !c.isComposite && c.opened.isComposite then compute
  pure (cs.map Constant.opened)

/-- A value that depends on others: computed now if they are all constants and the operation can
be carried out on them, else when the function runs. `checked` is what is wrong with the value
itself, and `own` what it asks of its stage. -/
def node (m : Module) (args : List Operand) (value : List Constant → Option Constant)
    (type : Checked Ty) (checked : Checked Unit) (own : Demand) : Build Operand := do
  let now ← match args.mapM Operand.fixed? with
    | some cs => do pure (value (← openAll cs))
    | none => pure none
  match now with
  | some c => constant c
  | none => do
    compute
    let t ← type
    let fault := match (args.forM (Operand.check m) : Checked Unit), checked with
      | .error c, _ => some c
      | .ok _, .error c => some c
      | .ok _, .ok _ => none
    let demand := args.foldl (fun d a => d.join (a.used .reading)) own
    pure { type := t, fault, demand }

/-- A value that only the running function computes. -/
def runtime (m : Module) (args : List Operand) (type : Checked Ty) (checked : Checked Unit)
    (own : Demand) : Build Operand :=
  node m args (fun _ => none) type checked own

end Build

end ShaderLoom.Wgsl
