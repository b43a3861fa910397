import ShaderLoom.Wgsl.Conversion

/-!
What a function does to memory: it stores values, works on atomic values, and waits for the other
invocations of its workgroup.

Each is a step of its own, so what is wrong with a value counts at once.
-/

namespace ShaderLoom.Wgsl

open Build

def Space.isWritable : Space → Bool
  | .function | .invocation | .workgroup => true
  | .storage access => access.write
  | _ => false

/-- Whether a value can be kept anywhere; a texture or sampler cannot. -/
def isStorable (t : Ty) : Bool :=
  match t.bare with
  | .texture _ => false
  | .sampler _ => false
  | _ => true

def accepted (t : Ty) : Ty :=
  match t.bare with
  | .atomic s => .scalar s
  | _ => t

def store (m : Module) (target value : Operand) : Build Unit := do
  match target.type.pointee? with
  | none => refuse (.mistyped "the target of an assignment")
  | some (t, space) =>
    ensure (target.root != .nowhere && space.isWritable) (.misplaced "an assignment")
    ensure (isStorable value.type && m.same value.type (accepted t)) (.mistyped "an assignment")
    use m .writing target
    read m value
    act

def atomicKind (o : Operand) : Build Scalar :=
  match (o.type.pointee?).map (·.1.bare) with
  | some (Ty.atomic s) => pure s
  | _ => refuse (.mistyped "an atomic value")

def changeAtomic (m : Module) (pointer : Operand) (values : List Operand)
    (result : Scalar → Option Ty) : Build Operand := do
  let s ← atomicKind pointer
  ensure (values.all fun o => o.type.bare = .scalar s) (.mistyped "an atomic operation")
  match result s with
  | none => refuse (.mistyped "an atomic operation")
  | some t =>
    use m ⟨true, true, false⟩ pointer
    values.forM (read m)
    act
    pure { type := t }

/-- Operations that put a new value in the place of the old one, which they give back. -/
def replacesAtomic (name : String) : Bool :=
  name ∈ ["atomicAdd", "atomicSub", "atomicAnd", "atomicXor", "atomicOr", "atomicMin", "atomicMax",
    "atomicExchange"]

/-- Something that the invocations of a workgroup do together. -/
def together : Build Unit := do
  push .act
  demand (.only .compute)

/-- Reads a value of the workgroup after all invocations have come so far. Vectors and matrices are
read as a whole. -/
def uniformLoad (m : Module) (pointer : Operand) : Build Operand := do
  ensure (!pointer.ofVector) (.misplaced "a pointer into a vector")
  match pointer.type.pointee? with
  | some (t, .workgroup) => do
    let i ← m.info t
    ensure (i.traits.sized && i.traits.constructible) (.mistyped "a value of the workgroup")
    read m pointer
    flush
    together
    pure { type := t }
  | _ => refuse (.mistyped "a pointer into the workgroup")

end ShaderLoom.Wgsl
