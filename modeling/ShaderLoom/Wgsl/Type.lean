import ShaderLoom.Wgsl.Complaint
import ShaderLoom.Wgsl.Tree

/-!
The types of values.

A synonym gives a type a name, which counts inside other types but not at the outermost place.
Records are known by their names. The items of an array lie a stride apart.
-/

namespace ShaderLoom.Wgsl

inductive Ty where
  | scalar (s : Scalar)
  | vector (n : Nat) (s : Scalar)
  | matrix (columns rows : Nat) (s : Scalar)
  | atomic (s : Scalar)
  | pointer (target : Ty) (space : Space)
  | array (item : Ty) (size : Option Nat) (stride : Nat)
  | bindings (item : Ty) (size : Option Nat)
  | texture (t : Texture)
  | sampler (comparison : Bool)
  | accelerationStructure
  | rayQuery
  | record (name : String)
  | named (name : String) (t : Ty)
  deriving DecidableEq, Repr

namespace Ty

def bool : Ty := scalar .bool
def int : Ty := scalar .int
def uint : Ty := scalar .uint
def float : Ty := scalar .float

/-- The type behind its names. -/
def bare : Ty → Ty
  | named _ t => t.bare
  | t => t

def leaf? (t : Ty) : Option Scalar :=
  match t.bare with
  | scalar s => some s
  | vector _ s => some s
  | matrix _ _ s => some s
  | _ => none

def withLeaf (s : Scalar) (t : Ty) : Ty :=
  match t.bare with
  | scalar _ => scalar s
  | vector n _ => vector n s
  | matrix c r _ => matrix c r s
  | t => t

/-- The kind at the bottom of a number, vector, matrix or array of such. -/
def deepLeaf? : Ty → Option Scalar
  | named _ t => t.deepLeaf?
  | array t _ _ => t.deepLeaf?
  | scalar s => some s
  | vector _ s => some s
  | matrix _ _ s => some s
  | _ => none

def hasLeaf (p : Scalar → Bool) (t : Ty) : Bool :=
  match t.bare with
  | scalar s => p s
  | vector _ s => p s
  | _ => false

def isVectorOf (p : Scalar → Bool) (t : Ty) : Bool :=
  match t.bare with
  | vector _ s => p s
  | _ => false

def isScalarOf (p : Scalar → Bool) (t : Ty) : Bool :=
  match t.bare with
  | scalar s => p s
  | _ => false

/-- The size of a vector, or none for a number. -/
def width? (t : Ty) : Option (Option Nat) :=
  match t.bare with
  | scalar _ => some none
  | vector n _ => some (some n)
  | _ => none

def pointee? (t : Ty) : Option (Ty × Space) :=
  match t.bare with
  | pointer target space => some (target, space)
  | _ => none

/-- The common number of components that an index may select from; none if there is no bound. -/
def count? (t : Ty) : Option Nat :=
  match t.bare with
  | vector n _ => some n
  | matrix c _ _ => some c
  | array _ n _ => n
  | bindings _ n => n
  | _ => none

def component? (t : Ty) : Option Ty :=
  match t.bare with
  | vector _ s => some (scalar s)
  | matrix _ r s => some (vector r s)
  | array item _ _ => some item
  | bindings item _ => some item
  | _ => none

/-- Whether a value becomes one of another type without being asked: the shapes agree and the
components become those of the other. -/
def becomes : Ty → Ty → Bool
  | named _ s, t => s.becomes t
  | array s m _, t =>
    match t.bare with
    | array u n _ => m = n && s.becomes u
    | _ => false
  | s, t =>
    match s.bare, t.bare with
    | scalar a, scalar b => a.becomes b
    | vector m a, vector n b => m = n && a.becomes b
    | matrix c r a, matrix d q b => c = d && r = q && a.becomes b
    | _, _ => false

end Ty

end ShaderLoom.Wgsl
