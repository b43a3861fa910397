import ShaderLoom.Wgsl.Entry

/-!
Declarations: what the names that they give mean in the module.

Nothing of a module runs while it is read, so the initial values of constants and variables are
computed here or refused.
-/

namespace ShaderLoom.Wgsl

open Build

def isPowerOfTwo (n : Nat) : Bool := n != 0 && n &&& (n - 1) = 0

example : [1, 2, 3, 4, 6, 16].filter isPowerOfTwo = [1, 2, 4, 16] := by decide

variable (m : Module)

/-- A member with the size and alignment it is given, which may only grow. -/
def placeMember (r : MemberRef) : Build Records.Placed := do
  let t ← resolve m r.type
  let l := m.records.layout t
  let size ← match r.size with
    | some e => number m e
    | none => pure l.size
  ensure (l.size ≤ size) (.misplaced "a size")
  let alignment ← match r.alignment with
    | some e => number m e
    | none => pure l.alignment
  ensure (isPowerOfTwo alignment && l.alignment ≤ alignment) (.misplaced "an alignment")
  let binding ← r.binding.mapM (resolveBinding m t)
  pure ⟨r.name, t, binding, size, alignment⟩

def declareRecord (name : String) (members : List MemberRef) : Build Module := do
  let ps ← members.mapM (placeMember m)
  let r ← m.records.ofMembers ps
  pure (({ m with records := (name, r) :: m.records }).add name (.type (.record name)))

/-- A new name for a type that has one already is no new type. -/
def declareSynonym (name : String) (ref : TypeRef) : Build Module := do
  let t ← resolve m ref
  match ref with
  | .named _ => pure (m.add name (.type t))
  | .predeclared _ => pure (m.add name (.type t))
  | _ => do
    let _ ← m.info t
    pure (m.add name (.type (.named name t)))

def fixedValue (t : Ty) (o : Operand) : Build Constant := do
  match o.fixed? with
  | none => refuse (.misplaced "a value that is not constant")
  | some c => do
    o.check m
    ensure (m.same o.type t) (.mistyped "an initial value")
    pure c

def declareConstant (name : String) (type : Option TypeRef) (e : Expr) : Build Module := do
  let given ← abstractValue m e
  let (t, o) ← match type with
    | some ref => do
      let t ← resolve m ref
      pure (t, ← convert m t given)
    | none => do
      let o ← concretize m given
      pure (o.type, o)
  let i ← m.info t
  ensure i.traits.constructible (.mistyped name)
  let c ← fixedValue m t o
  pure (m.add name (.constant t c))

def isHandle (t : Ty) : Bool :=
  match t.bare with
  | .texture _ | .sampler _ | .accelerationStructure | .rayQuery => true
  | _ => false

def Space.isResource : Space → Bool
  | .uniform | .storage _ | .handle => true
  | _ => false

def Space.takesItem (space : Space) (t : Ty) (i : Info) : Bool :=
  let f := i.traits
  match space with
  | .function => false
  | .storage _ => i.storage.isSome && f.data && f.shareable
  | .uniform => i.uniform.isSome && f.data && f.copy && f.sized && f.shareable
  | .handle => isHandle t
  | .invocation => f.constructible
  | .workgroup => f.data && f.sized
  | .pushed => f.data && f.copy && f.sized && f.shareable

/-- An array of bindings is a resource, and each of its items is taken. -/
def Space.takes (space : Space) (rs : Records) (t : Ty) : Checked Bool := do
  match t.bare with
  | .bindings item _ => .ok (space.isResource && space.takesItem item (← rs.info item))
  | _ => .ok (space.takesItem t (← rs.info t))

def declareGlobal (g : Global) : Build Module := do
  let t ← resolve m g.type
  match g.value with
  | some e => do
    let o ← abstractValue m e
    let _ ← fixedValue m t (← convert m t o)
    ensure (g.space = .invocation) (.misplaced "an initial value")
  | none => pure ()
  let resource ← g.binding.mapM fun (group, binding) => do
    pure (← number m group, ← number m binding)
  ensure (resource.isSome = g.space.isResource) (.misplaced "a binding")
  let _ ← m.info t
  ensure (← g.space.takes m.records t) (.mistyped g.name)
  pure (m.add g.name (.variable ⟨t, g.space, resource⟩))

/-- The sizes of a workgroup; those that are left out are one. -/
def workgroupSizes (sizes : Option (List Expr)) : Build (List Nat) :=
  match sizes with
  | some es => do
    let ns ← es.mapM (number m)
    pure ((ns ++ [1, 1, 1]).take 3)
  | none => pure [0, 0, 0]

def resolveBound (ref : TypeRef) (binding : Option BindingRef) : Build (Ty × Option Binding) := do
  let t ← resolve m ref
  pure (t, ← binding.mapM (resolveBinding m t))

def declareFunction (f : Function) : Build Module := do
  let params ← f.params.mapM fun p => resolveBound m p.type p.binding
  let result ← f.result.mapM fun (ref, binding) => resolveBound m ref binding
  ensure ((← params.mapM fun (t, _) => m.info t).all (·.traits.argument)) (.mistyped "a parameter")
  ensure ((← result.mapM fun (t, _) => m.info t).all (·.traits.constructible))
    (.mistyped "a result")
  let names := (f.params.zip params).map fun (p, t, _) =>
    (p.id, ({ type := t, root := .argument } : Operand))
  let resultType := result.map (·.1)
  let d ← bodyDemand m resultType names f.body
  match f.entry with
  | some e => do
    let sizes ← workgroupSizes m e.workgroup
    Entry.check m ⟨e.stage, e.earlyDepth, sizes, params, result, d⟩
    pure (m.add f.name .entry)
  | none => do
    ensure ((params ++ result.toList).all fun (_, b) => b.isNone) (.misplaced "a binding")
    pure (m.add f.name (.function ⟨params.map (·.1), resultType, d⟩))

def Item.declare : Item → Build Module
  | .record name members => declareRecord m name members
  | .synonym name ref => declareSynonym m name ref
  | .constant name type e => declareConstant m name type e
  | .global g => declareGlobal m g
  | .function f => declareFunction m f

end ShaderLoom.Wgsl
