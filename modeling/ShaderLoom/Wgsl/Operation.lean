import ShaderLoom.Wgsl.Conversion

/-!
The operators on values: the types of their results, and which operands they admit.
-/

namespace ShaderLoom.Wgsl

open Build

/-- The type of the result, as far as the operands have one; whether they are admitted is another
question. -/
def Binary.type? (op : Binary) (a b : Ty) : Option Ty :=
  if op.isComparison || op.isLogical then
    match a.width? with
    | some none => some .bool
    | some (some n) => some (.vector n .bool)
    | none => none
  else if op = .mul then
    match a.bare, b.bare with
    | .matrix _ r s, .matrix d _ _ => some (.matrix d r s)
    | .matrix _ r s, .vector _ _ => some (.vector r s)
    | .vector _ s, .matrix c _ _ => some (.vector c s)
    | .scalar _, _ => some b
    | _, .scalar _ => some a
    | .vector _ _, .vector _ _ => some a
    | _, _ => none
  else some a

def factors (a b : Ty) : Bool :=
  match a.bare, b.bare with
  | .scalar s, .scalar t => s = t && s.isNumeric
  | .vector _ s, .scalar t => s = t && s.isNumeric
  | .scalar s, .vector _ t => s = t && s.isNumeric
  | .vector m s, .vector n t => m = n && s = t && s.isNumeric
  | .scalar s, .matrix _ _ t => s = t
  | .matrix _ _ s, .scalar t => s = t
  | .matrix c _ s, .vector n t => c = n && s = t
  | .vector n s, .matrix _ r t => n = r && s = t
  | .matrix c _ s, .matrix _ r t => c = r && s = t
  | _, _ => false

def Binary.admits (rs : Records) (op : Binary) (a b : Ty) : Bool :=
  let isMatrix := match a.bare with
    | .matrix _ _ _ => true
    | _ => false
  match op with
  | .add | .sub => rs.same a b && (a.hasLeaf Scalar.isNumeric || isMatrix)
  | .div | .rem => rs.same a b && a.hasLeaf Scalar.isNumeric
  | .mul => factors a b
  | .equal | .differ => rs.same a b && a.width?.isSome
  | .less | .atMost | .more | .atLeast => rs.same a b && a.hasLeaf Scalar.isNumeric
  | .bothTrue | .eitherTrue => rs.same a b && a.hasLeaf (· = .bool)
  | .bitAnd | .bitOr => rs.same a b && a.hasLeaf fun s => s.isInteger || s = .bool
  | .bitXor => rs.same a b && a.hasLeaf Scalar.isInteger
  | .shiftLeft | .shiftRight =>
    a.hasLeaf Scalar.isInteger && b.hasLeaf (· = .uint) && a.width? = b.width?

def Unary.admits (op : Unary) (t : Ty) : Bool :=
  match op, t.leaf? with
  | .negate, some s => s.isFloat || s = .int
  | .not, some s => s = .bool
  | .complement, some s => s.isInteger
  | _, none => false

def applyBinary (m : Module) (op : Binary) (l r : Operand) : Build Operand :=
  node m [l, r]
    (fun
      | [a, b] => a.binary? m.records op b
      | _ => none)
    (match op.type? l.type r.type with
      | some t => .ok t
      | none => .error (.mistyped "the operands"))
    (require (op.admits m.records l.type r.type) (.mistyped "the operands")) .none

/-- The amount of a shift is unsigned. -/
def shiftAmount (m : Module) (o : Operand) : Build Operand :=
  match o.type.leaf? with
  | some s =>
    if s = .uint then pure o
    else if s.becomes .uint then castTo m .uint o
    else refuse (.mistyped "the amount of a shift")
  | none => refuse (.mistyped "the amount of a shift")

/-- An operation on two values that are brought to a common kind first, if they have one. -/
def binary (m : Module) (op : Binary) (l r : Operand) : Build Operand := do
  let (l, r) ← spreadSides m op l r
  if op.isShift then applyBinary m op l (← shiftAmount m r)
  else match commonLeaf? [l, r] with
    | some s => do applyBinary m op (← leafTo m s l) (← leafTo m s r)
    | none => applyBinary m op l r

def unary (m : Module) (op : Unary) (o : Operand) : Build Operand :=
  node m [o]
    (fun
      | [c] => c.unary? m.records op
      | _ => none)
    (.ok o.type) (require (op.admits o.type) (.mistyped "an operand")) .none

/-- The same bits read as components of another kind; a matrix stays one of floating-point
components. Kind and width have to go together. -/
def bitcast (m : Module) (target : Ty) (o : Operand) : Build Operand :=
  match target.width?, target.leaf?, o.type.leaf? with
  | some _, some s, some t =>
    let kind := if s.isFloat && t.width = 8 then .double else if s.isFloat then .float else s
    let type := if o.type.width?.isSome then o.type.withLeaf kind else o.type.bare
    runtime m [o] (.ok type) (require (kind.width = t.width) (.mistyped "bitcast")) .none
  | _, _, _ => refuse (.mistyped "bitcast")

end ShaderLoom.Wgsl
