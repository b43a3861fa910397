import ShaderLoom.Wgsl.Layout

/-!
The mathematical functions that every module has, as families.

The type of a result is read off the first argument. Whether all arguments are admitted is another
question, which is asked only where the result is needed.
-/

namespace ShaderLoom.Wgsl

/-- What a function does with its arguments: `alike` ones have one type, with components of a
class. -/
inductive Family where
  | alike (p : Scalar → Bool) (arity : Nat)
  | vectors (arity : Nat)
  | measure (arity : Nat)
  | dot
  | split
  | mix
  | refract
  | ldexp
  | transpose
  | determinant
  | bits
  | insertBits
  | extractBits
  | pack (n : Nat)
  | unpack (n : Nat)

def family? (name : String) : Option Family :=
  if name ∈ ["acos", "acosh", "asin", "asinh", "atan", "atanh", "ceil", "cos", "cosh", "degrees",
      "exp", "exp2", "floor", "fract", "inverseSqrt", "log", "log2", "radians", "round",
      "saturate", "sin", "sinh", "sqrt", "tan", "tanh", "trunc"] then
    some (.alike Scalar.isFloat 1)
  else if name ∈ ["atan2", "pow", "step"] then some (.alike Scalar.isFloat 2)
  else if name ∈ ["faceForward", "fma", "smoothstep"] then some (.alike Scalar.isFloat 3)
  else if name ∈ ["countLeadingZeros", "countOneBits", "countTrailingZeros", "firstLeadingBit",
      "firstTrailingBit", "reverseBits"] then some .bits
  else if name ∈ ["pack4x8snorm", "pack4x8unorm"] then some (.pack 4)
  else if name ∈ ["pack2x16snorm", "pack2x16unorm", "pack2x16float"] then some (.pack 2)
  else if name ∈ ["unpack4x8snorm", "unpack4x8unorm"] then some (.unpack 4)
  else if name ∈ ["unpack2x16snorm", "unpack2x16unorm", "unpack2x16float"] then some (.unpack 2)
  else match name with
    | "abs" => some (.alike Scalar.isNumeric 1)
    | "min" => some (.alike Scalar.isNumeric 2)
    | "max" => some (.alike Scalar.isNumeric 2)
    | "clamp" => some (.alike Scalar.isNumeric 3)
    | "sign" => some (.alike (fun s => s.isFloat || s = .int) 1)
    | "normalize" => some (.vectors 1)
    | "cross" => some (.vectors 2)
    | "reflect" => some (.vectors 2)
    | "length" => some (.measure 1)
    | "distance" => some (.measure 2)
    | "dot" => some .dot
    | "modf" => some .split
    | "frexp" => some .split
    | "mix" => some .mix
    | "refract" => some .refract
    | "ldexp" => some .ldexp
    | "transpose" => some .transpose
    | "determinant" => some .determinant
    | "insertBits" => some .insertBits
    | "extractBits" => some .extractBits
    | _ => none

namespace Family

def result? (name : String) (first : Ty) : Family → Option Ty
  | measure _ => first.width?.bind fun _ => first.leaf?.map .scalar
  | dot => if first.isVectorOf (fun _ => true) then first.leaf?.map .scalar else none
  | split =>
    (if name = "modf" then wholeAndFraction first else fractionAndExponent first).map .record
  | transpose =>
    match first.bare with
    | .matrix c r s => some (.matrix r c s)
    | _ => none
  | determinant =>
    match first.bare with
    | .matrix _ _ s => some (.scalar s)
    | _ => none
  | bits | insertBits | extractBits =>
    if first.hasLeaf Scalar.isInteger then some first.bare else none
  | pack _ => some .uint
  | unpack n => some (.vector n .float)
  | _ => some first

def admits (rs : Records) (f : Family) (ts : List Ty) : Bool :=
  let alikeTo := fun (t : Ty) (rest : List Ty) => rest.all (rs.same t ·)
  match f, ts with
  | alike p n, t :: rest => t.hasLeaf p && alikeTo t rest && rest.length + 1 = n
  | vectors n, t :: rest => t.isVectorOf Scalar.isFloat && alikeTo t rest && rest.length + 1 = n
  | measure n, t :: rest => t.hasLeaf Scalar.isFloat && alikeTo t rest && rest.length + 1 = n
  | dot, [t, u] => t.isVectorOf Scalar.isNumeric && rs.same t u
  | split, [t] => t.hasLeaf Scalar.isFloat
  | mix, [t, u, c] =>
    t.hasLeaf Scalar.isFloat && rs.same t u &&
      (rs.same t c || t.leaf?.any fun s => c.bare = .scalar s)
  | refract, [t, u, c] =>
    t.isVectorOf Scalar.isFloat && rs.same t u && t.leaf?.any fun s => c.bare = .scalar s
  | ldexp, [t, e] => t.hasLeaf Scalar.isFloat && e.hasLeaf (· = .int) && t.width? = e.width?
  | transpose, [t] =>
    match t.bare with
    | .matrix _ _ _ => true
    | _ => false
  | determinant, [t] =>
    match t.bare with
    | .matrix c r _ => c = r
    | _ => false
  | bits, [t] => t.hasLeaf Scalar.isInteger
  | insertBits, [t, u, offset, count] =>
    t.hasLeaf Scalar.isInteger && rs.same t u && offset.bare = .uint && count.bare = .uint
  | extractBits, [t, offset, count] =>
    t.hasLeaf Scalar.isInteger && offset.bare = .uint && count.bare = .uint
  | pack n, [t] =>
    match t.bare with
    | .vector k s => k = n && s.isFloat
    | _ => false
  | unpack _, [t] => t.bare = .uint
  | _, _ => false

end Family

/-- Functions that compare neighbouring fragments. -/
def isDerivative (name : String) : Bool :=
  name ∈ ["dpdx", "dpdy", "fwidth", "dpdxCoarse", "dpdyCoarse", "fwidthCoarse", "dpdxFine",
    "dpdyFine", "fwidthFine"]

/-- Whether one of two values may be chosen by a condition: as a whole or component by
component. -/
def selects (rs : Records) (rejected accepted condition : Ty) : Bool :=
  rs.same accepted rejected &&
    match condition.bare with
    | .scalar .bool => accepted.width?.isSome
    | .vector n .bool => accepted.width? = some (some n)
    | _ => false

end ShaderLoom.Wgsl
