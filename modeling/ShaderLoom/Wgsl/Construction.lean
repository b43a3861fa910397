import ShaderLoom.Wgsl.Conversion

/-!
Values made of arguments.

A type without arguments gives its zero. One argument converts a value of the same shape or fills
a vector; several make up a value part by part, and become what the type asks for. Where the kind
of the components is left out, the arguments have to agree on one.
-/

namespace ShaderLoom.Wgsl

open Build

def vectorPart (m : Module) (s : Scalar) (o : Operand) : Build Operand :=
  match o.type.bare with
  | .scalar _ => convert m (.scalar s) o
  | .vector n _ => convert m (.vector n s) o
  | _ => refuse (.mistyped "a component")

def columns (m : Module) (c r : Nat) (s : Scalar) (os : List Operand) : Build (List Operand) :=
  (pieces r c os).mapM (compose m (.vector r s))

/-- Members as their types ask for; what is missing or too much is left as it is. -/
def convertMembers (m : Module) : List Operand → List Ty → Build (List Operand)
  | o :: os, t :: ts => do
    let p ← convert m t o
    let ps ← convertMembers m os ts
    pure (p :: ps)
  | os, _ => pure os

def assemble (m : Module) (t : Ty) (os : List Operand) : Build Operand := do
  match t.bare with
  | .vector _ s => compose m t (← os.mapM (vectorPart m s))
  | .matrix c r s =>
    if os.length = c * r then
      compose m t (← columns m c r s (← os.mapM (convert m (.scalar s))))
    else compose m t (← os.mapM (convert m (.vector r s)))
  | .array item _ _ => compose m t (← os.mapM (convert m item))
  | .record name =>
    match m.records.lookup name with
    | some r => compose m t (← convertMembers m os (r.members.map (·.type)))
    | none => refuse (.undefined name)
  | _ => refuse (.mistyped "a construction")

def make (m : Module) (t : Ty) (os : List Operand) : Build Operand := do
  match os with
  | [] => leaf (.ofConstant (.zero t))
  | [o] =>
    match t.bare, o.type.bare with
    | .scalar s, .scalar _ => castTo m s o
    | .vector n s, .vector k _ => if k = n then castTo m s o else refuse (.mistyped "a conversion")
    | .vector n s, .scalar _ => do splat m n (← leafTo m s o)
    | .matrix c r s, .matrix d q _ =>
      if c = d ∧ r = q then castTo m s o else refuse (.mistyped "a conversion")
    | .array _ _ _, _ => assemble m t os
    | .record _, _ => assemble m t os
    | _, _ => refuse (.mistyped "a conversion")
  | _ => assemble m t os

def agreed (os : List Operand) : Build Scalar :=
  match commonLeaf? os with
  | some s => pure s
  | none => refuse (.mistyped "the components of a value")

/-- A matrix of elements is floating-point; one of columns has the kind of its columns. -/
def makeMatrix (m : Module) (c r : Nat) (os : List Operand) : Build Operand := do
  let s ← agreed os
  if os.length = c * r then
    let kind := (s.join? .anyFloat).getD s
    compose m (.matrix c r kind) (← columns m c r kind (← os.mapM (leafTo m kind)))
  else compose m (.matrix c r s) (← os.mapM (leafTo m s))

/-- An array of its arguments, whose type is that of the first. -/
def makeArray (m : Module) (os : List Operand) : Build Operand := do
  let parts ← match commonLeaf? os with
    | some s => os.mapM (leafTo m s)
    | none => pure os
  match parts with
  | [] => refuse (.mistyped "an array")
  | o :: _ =>
    compose m (.array o.type (some parts.length) (m.records.layout o.type).stride) parts

def makeLike (m : Module) (shape : Shape) (os : List Operand) : Build Operand := do
  match shape, os with
  | _, [] => refuse (.mistyped "a value without arguments")
  | .array, _ => makeArray m os
  | .vector n, [o] =>
    match o.type.bare with
    | .scalar _ => splat m n o
    | .vector k _ => if k = n then pure o else refuse (.mistyped "a conversion")
    | _ => refuse (.mistyped "a conversion")
  | .matrix c r, [o] =>
    match o.type.bare with
    | .matrix d q _ => if c = d ∧ r = q then pure o else refuse (.mistyped "a conversion")
    | _ => refuse (.mistyped "a conversion")
  | .vector n, _ => do
    let s ← agreed os
    compose m (.vector n s) (← os.mapM (leafTo m s))
  | .matrix c r, _ => makeMatrix m c r os

end ShaderLoom.Wgsl
