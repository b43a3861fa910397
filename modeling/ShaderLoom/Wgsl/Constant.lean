import ShaderLoom.Wgsl.Layout
import ShaderLoom.Wgsl.Operator

/-!
Values that are known before a module runs, and what is computed from them.

An operation that cannot be carried out on known values is no error as such: it is left to the
running module. Operations that call themselves on parts of a value spend a unit of `fuel` for
each level, and values are nested less deeply than `maxDepth`.
-/

namespace ShaderLoom.Wgsl

/-- A value as it is put together. A `named` value is that of a declaration, used but not yet
looked into. -/
inductive Constant where
  | literal (l : Literal)
  | zero (t : Ty)
  | compose (t : Ty) (parts : List Constant)
  | splat (n : Nat) (value : Constant)
  | named (t : Ty) (value : Constant)

def maxDepth : Nat := 255

def pieces {α : Type} (size : Nat) : (count : Nat) → List α → List (List α)
  | 0, _ => []
  | count + 1, as => as.take size :: pieces size count (as.drop size)

namespace Constant

def type : Constant → Ty
  | literal l => .scalar l.scalar
  | zero t => t
  | compose t _ => t
  | splat n v =>
    match v.type.bare with
    | .scalar s => .vector n s
    | t => t
  | named t _ => t

def opened : Constant → Constant
  | named _ v => v.opened
  | c => c

def isComposite : Constant → Bool
  | compose _ _ => true
  | splat _ _ => true
  | _ => false

def literal? (c : Constant) : Option Literal :=
  match c.opened with
  | literal l => some l
  | zero t =>
    match t.bare with
    | .scalar s => Literal.zero? s
    | _ => none
  | _ => none

/-- The number that an index stands for; it may be negative. -/
def whole? (c : Constant) : Option Int := c.literal?.bind Literal.whole?

/-- A size, place or index that must not be negative. -/
def natural? (c : Constant) : Option Nat := do
  let n ← c.whole?
  if 0 ≤ n then some n.toNat else none

/-- The components of a vector that is put together from vectors, two levels deep; a repeated
component is written out, but zeros stay as they are. -/
def flatten (t : Ty) (parts : List Constant) : List Constant :=
  match t.bare with
  | .vector n _ =>
    let inner : Constant → List Constant
      | compose _ ps => ps
      | c => [c]
    let repeated : Constant → List Constant
      | splat k v => List.replicate k v
      | c => [c]
    (((parts.flatMap inner).flatMap inner).flatMap repeated).take n
  | _ => parts

end Constant

namespace Records

variable (rs : Records)

/-- The zero of a type in full, with the zeros of records given. -/
def zeroWith (zeroOf : String → Ty → Option Constant) (outer : Ty) : Ty → Option Constant
  | .named _ t => zeroWith zeroOf outer t
  | .scalar s => (Literal.zero? s).map .literal
  | .vector n s => (Literal.zero? s).map fun z => .compose outer (List.replicate n (.literal z))
  | .matrix c r s => (Literal.zero? s).map fun z =>
    .compose outer (List.replicate c (.compose (.vector r s) (List.replicate r (.literal z))))
  | .array item (some n) _ =>
    (zeroWith zeroOf item item).map fun z => .compose outer (List.replicate n z)
  | .record name => zeroOf name outer
  | _ => none

def zeroOfRecord : (fuel : Nat) → String → Ty → Option Constant
  | 0, _, _ => none
  | fuel + 1, name, outer => do
    let r ← rs.lookup name
    let parts ← r.members.mapM fun m => zeroWith (zeroOfRecord fuel) m.type m.type
    some (.compose outer parts)

def zero? (t : Ty) : Option Constant := zeroWith (rs.zeroOfRecord rs.length) t t

/-- The number of parts of a type, and the types of the parts. -/
def parts? (t : Ty) : Option (Nat × (Nat → Option Ty)) :=
  match t.bare with
  | .vector n s => some (n, fun _ => some (.scalar s))
  | .matrix c r s => some (c, fun _ => some (.vector r s))
  | .array item (some n) _ => some (n, fun _ => some item)
  | .record name => do
    let r ← rs.lookup name
    some (r.members.length, fun i => (r.members[i]?).map Member.type)
  | _ => none

end Records

namespace Constant

variable (rs : Records)

/-- The value with a zero or a repeated component at the outermost place written out. -/
def spread? (c : Constant) : Option Constant :=
  match c.opened with
  | zero t => rs.zero? t
  | splat n v =>
    match v.opened with
    | literal l => some (compose (.vector n l.scalar) (List.replicate n (literal l)))
    | zero t =>
      match t.bare with
      | .scalar s => some (zero (.vector n s))
      | _ => none
    | _ => none
  | c => some c

def access? (c : Constant) (i : Nat) : Option Constant :=
  match c.opened with
  | zero t => do
    let (n, typeAt) ← rs.parts? t
    if i < n then (typeAt i).map zero else none
  | splat n v => if i < n then some v else none
  | compose t ps => do
    let _ ← rs.parts? t
    (flatten t ps)[i]?
  | _ => none

def swizzle? (c : Constant) (pattern : List Nat) : Option Constant :=
  let selected := fun t : Ty =>
    match t.bare with
    | .vector _ s => some (Ty.vector pattern.length s)
    | _ => none
  match c.opened with
  | zero t => (selected t).map zero
  | splat _ v => some (splat pattern.length v)
  | compose t ps => do
    let u ← selected t
    let parts ← pattern.mapM ((flatten t ps)[·]?)
    some (compose u parts)
  | _ => none

def mapParts? (f : Constant → Option Constant) (t : Ty) (ps : List Constant) : Option Constant :=
  (ps.mapM f).map (compose t)

def unaryWithin (op : Unary) : (fuel : Nat) → Constant → Option Constant
  | 0, _ => none
  | fuel + 1, c => do
    match ← c.spread? rs with
    | literal l => (l.unary? op).map literal
    | compose t ps => do
      guard (t.bare matches .vector _ _ | .matrix _ _ _)
      mapParts? (unaryWithin op fuel) t ps
    | _ => none

def unary? (op : Unary) (c : Constant) : Option Constant := unaryWithin rs op maxDepth c

/-- Comparisons of vectors are vectors of truth values; of other operations on two vectors the
first one gives the type. -/
def pairType (op : Binary) (s t : Ty) : Option Ty :=
  match s.bare, t.bare with
  | .vector m _, .vector n _ =>
    if m ≠ n then none
    else if op.isComparison then some (.vector m .bool)
    else some s
  | _, _ => none

def binaryWithin (op : Binary) : (fuel : Nat) → Constant → Constant → Option Constant
  | 0, _, _ => none
  | fuel + 1, a, b => do
    match ← a.spread? rs, ← b.spread? rs with
    | literal x, literal y => (Literal.binary? op x y).map literal
    | compose t ps, literal y => mapParts? (binaryWithin op fuel · (literal y)) t ps
    | literal x, compose t ps => mapParts? (binaryWithin op fuel (literal x) ·) t ps
    | compose s ps, compose t qs => do
      let u ← pairType op s t
      let parts ← ((flatten s ps).zip (flatten t qs)).mapM fun (p, q) => binaryWithin op fuel p q
      some (compose u parts)
    | _, _ => none

/-- A binary operation, component by component where one side or both have components. -/
def binary? (op : Binary) (a b : Constant) : Option Constant := binaryWithin rs op maxDepth a b

def unzeroed? (c : Constant) : Option Constant :=
  match c.opened with
  | zero t => rs.zero? t
  | c => some c

def castWithin (target : Scalar) : (fuel : Nat) → Constant → Option Constant
  | 0, _ => none
  | fuel + 1, c => do
    match ← c.unzeroed? rs with
    | literal l => (l.cast? target).map literal
    | compose t ps => do
      guard (t.bare matches .vector _ _ | .matrix _ _ _)
      mapParts? (castWithin target fuel) (t.withLeaf target) ps
    | splat n v => (castWithin target fuel v).map (splat n)
    | _ => none

def cast? (target : Scalar) (c : Constant) : Option Constant := castWithin rs target maxDepth c

/-- Items of another type lie as far apart as they are large. -/
def castItemsWithin (target : Scalar) : (fuel : Nat) → Constant → Option Constant
  | 0, _ => none
  | fuel + 1, c =>
    match c with
    | compose t ps =>
      match t.bare with
      | .array _ n _ => do
        let parts ← ps.mapM (castItemsWithin target fuel)
        let item := (← parts.head?).type
        some (compose (.array item n (rs.layout item).size) parts)
      | _ => c.cast? rs target
    | c => c.cast? rs target

def castItems? (target : Scalar) (c : Constant) : Option Constant :=
  castItemsWithin rs target maxDepth c

def isFloatVector (t : Ty) : Bool := t.isVectorOf Scalar.isFloat

def powWithin : (fuel : Nat) → Constant → Constant → Option Constant
  | 0, _, _ => none
  | fuel + 1, a, b => do
    match ← a.spread? rs, ← b.spread? rs with
    | literal x, literal y => (Literal.pow? x y).map literal
    | compose s ps, compose t qs => do
      guard (s = t ∧ isFloatVector s)
      let all := flatten s ps ++ flatten t qs
      match pieces (all.length / 2) 2 all with
      | [ps, qs] => do
        let parts ← (ps.zip qs).mapM fun (p, q) => powWithin fuel p q
        some (compose s parts)
      | _ => none
    | _, _ => none

def clampWithin : (fuel : Nat) → Constant → Constant → Constant → Option Constant
  | 0, _, _, _ => none
  | fuel + 1, a, low, high => do
    match ← a.spread? rs, ← low.spread? rs, ← high.spread? rs with
    | literal x, literal l, literal h => (Literal.clamp? x l h).map literal
    | compose s ps, compose t ls, compose u hs => do
      guard (s = t ∧ s = u ∧ isFloatVector s)
      let all := flatten s ps ++ flatten t ls ++ flatten u hs
      match pieces (all.length / 3) 3 all with
      | [ps, ls, hs] => do
        let parts ← (ps.zip (ls.zip hs)).mapM fun (p, l, h) => clampWithin fuel p l h
        some (compose s parts)
      | _ => none
    | _, _, _ => none

/-- The only functions that are computed before the module runs. -/
def function? (name : String) (args : List Constant) : Option Constant :=
  match name, args with
  | "pow", [a, b] => powWithin rs maxDepth a b
  | "clamp", [a, low, high] => clampWithin rs maxDepth a low high
  | _, _ => none

end Constant

namespace Records

variable (rs : Records)

/-- The number of components that parts of these types give a vector, if all are of its kind. -/
def vectorCount (s : Scalar) : List Ty → Option Nat
  | [] => some 0
  | t :: rest => do
    let n ← match t.bare with
      | .scalar r => if r = s then some 1 else none
      | .vector n r => if r = s then some n else none
      | _ => none
    some (n + (← vectorCount s rest))

def sameAll (ts us : List Ty) : Bool :=
  ts.length = us.length && (ts.zip us).all fun (t, u) => rs.same t u

def composes (t : Ty) (parts : List Ty) : Bool :=
  match t.bare with
  | .vector n s => vectorCount s parts = some n
  | .matrix c r s => parts.length = c && parts.all fun p => p.bare = .vector r s
  | .array item (some n) _ => parts.length = n && parts.all (rs.same item ·)
  | .record name =>
    match rs.lookup name with
    | some r => rs.sameAll parts (r.members.map (·.type))
    | none => false
  | _ => false

end Records

namespace Constant

mutual

/-- Whether a module may hold the value: nothing abstract is left in it, and its parts make up
its type. What has a name has been checked already. -/
def check (rs : Records) : Constant → Checked Unit
  | literal l => require (!l.scalar.isAbstract) (.mistyped "an abstract value")
  | zero t => do let _ ← rs.info t
  | compose t ps => do
    let _ ← rs.info t
    checkAll rs ps
    require (rs.composes t (ps.map type)) (.mistyped "the parts of a value")
  | splat _ v => do
    check rs v
    require (v.type.isScalarOf fun _ => true) (.mistyped "a repeated component")
  | named _ _ => .ok ()

def checkAll (rs : Records) : List Constant → Checked Unit
  | [] => .ok ()
  | c :: cs => do
    check rs c
    checkAll rs cs

end

end Constant

end ShaderLoom.Wgsl
