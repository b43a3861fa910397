import ShaderLoom.Wgsl.Operand

/-!
How values change their types without being asked.

A place is read where a value is wanted. An abstract value becomes concrete where nothing asks
for another type, and what it is asked to become where something does.
-/

namespace ShaderLoom.Wgsl

open Build

/-- The value in a place; a value stays as it is. -/
def load (m : Module) (o : Operand) : Build Operand :=
  if o.isPlace then
    match o.type.pointee? with
    | some (t, _) => do
      let value := match t.bare with
        | .atomic s => Ty.scalar s
        | _ => t
      runtime m [o] (.ok value) (do
        let i ← m.info t
        require (i.traits.sized && i.traits.data) (.mistyped "a value in memory")) .none
    | none => refuse (.mistyped "a place")
  else pure o

def castTo (m : Module) (s : Scalar) (o : Operand) : Build Operand :=
  node m [o]
    (fun
      | [c] => c.cast? m.records s
      | _ => none)
    (match o.type.leaf? with
      | some _ => .ok (o.type.withLeaf s)
      | none => .error (.mistyped "a conversion"))
    (require (!s.isAbstract) (.mistyped "an abstract value")) .none

def leafTo (m : Module) (s : Scalar) (o : Operand) : Build Operand :=
  if o.type.leaf? = some s then pure o else castTo m s o

/-- A known value with other components or items; it has to be possible at once. -/
def settleTo (m : Module) (s : Scalar) (o : Operand) : Build Operand :=
  match o.known.bind (·.castItems? m.records s) with
  | some c => constant c
  | none => refuse (.mistyped "an abstract value")

def concretize (m : Module) (o : Operand) : Build Operand :=
  match o.type.deepLeaf? with
  | some s => if s.isAbstract then settleTo m s.concrete o else pure o
  | none => pure o

/-- A value of the type that is asked for, if it is one or becomes one. -/
def convert (m : Module) (goal : Ty) (o : Operand) : Build Operand :=
  if m.same o.type goal then pure o
  else match o.type.becomes goal, goal.deepLeaf?, o.type.bare with
    | true, some s, .array _ _ _ => settleTo m s o
    | true, some s, _ => castTo m s o
    | _, _, _ => refuse (.mistyped "a value")

def commonLeaf? (os : List Operand) : Option Scalar := do
  match ← os.mapM fun o => o.type.leaf? with
  | [] => none
  | s :: rest => rest.foldlM Scalar.join? s

def splat (m : Module) (n : Nat) (o : Operand) : Build Operand :=
  node m [o]
    (fun
      | [c] => some (.splat n c)
      | _ => none)
    (match o.type.bare with
      | .scalar s => .ok (.vector n s)
      | _ => .error (.mistyped "a component"))
    (.ok ()) .none

/-- Beside a vector a number stands for a vector of equal numbers, for some operators. -/
def spreadSides (m : Module) (op : Binary) (l r : Operand) : Build (Operand × Operand) :=
  if op.spreads then
    match l.type.bare, r.type.bare with
    | .vector n _, .scalar _ => do pure (l, ← splat m n r)
    | .scalar _, .vector n _ => do pure (← splat m n l, r)
    | _, _ => pure (l, r)
  else pure (l, r)

def compose (m : Module) (t : Ty) (parts : List Operand) : Build Operand :=
  node m parts (fun cs => some (.compose t cs)) (.ok t)
    (do
      let _ ← m.info t
      require (m.records.composes t (parts.map (·.type))) (.mistyped "the parts of a value"))
    .none

end ShaderLoom.Wgsl
