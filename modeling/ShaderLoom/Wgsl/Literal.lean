import ShaderLoom.Number.Binary
import ShaderLoom.Wgsl.Scalar

/-!
Single values that are known before a module runs, and conversions between them.

A conversion that an abstract value undergoes must not lose it: a whole number has to fit, a
fraction becomes no whole number. A conversion that is asked for truncates, wraps or rounds.
-/

namespace ShaderLoom.Wgsl

open Number (power)

inductive Literal where
  | bool (b : Bool)
  | int (n : Int32)
  | uint (n : UInt32)
  | float (x : Float32)
  | double (x : Float)
  | anyInt (n : Int64)
  | anyFloat (x : Float)
  deriving DecidableEq

/-- A number of 32 bits with a sign. -/
def int32? (n : Int) : Option Int32 :=
  if -(power 2 31 : Nat) ≤ n ∧ n < (power 2 31 : Nat) then some (Int32.ofInt n) else none

def uint32? (n : Int) : Option UInt32 :=
  if 0 ≤ n ∧ n < (power 2 32 : Nat) then some (UInt32.ofNat n.toNat) else none

def int64? (n : Int) : Option Int64 :=
  if -(power 2 63 : Nat) ≤ n ∧ n < (power 2 63 : Nat) then some (Int64.ofInt n) else none

namespace Literal

def scalar : Literal → Scalar
  | bool _ => .bool
  | int _ => .int
  | uint _ => .uint
  | float _ => .float
  | double _ => .double
  | anyInt _ => .anyInt
  | anyFloat _ => .anyFloat

/-- The zero of a concrete number. A truth value is no number and has none. -/
def zero? : Scalar → Option Literal
  | .int => some (int 0)
  | .uint => some (uint 0)
  | .float => some (float 0)
  | .double => some (double 0)
  | _ => none

def whole? : Literal → Option Int
  | int n => some n.toInt
  | uint n => some n.toNat
  | _ => none

/-- Concrete floating-point values are finite; an abstract one may overflow until it is used. -/
def isSound : Literal → Bool
  | float x => x.isFinite
  | double x => x.isFinite
  | _ => true

def checked? (l : Literal) : Option Literal := if l.isSound then some l else none

def toBool? : Literal → Option Bool
  | bool b => some b
  | int n => some (n != 0)
  | uint n => some (n != 0)
  | float x => some (x != 0)
  | _ => none

def toInt? : Literal → Option Int32
  | bool b => some (if b then 1 else 0)
  | int n => some n
  | uint n => some n.toInt32
  | float x => some x.toInt32
  | anyInt n => int32? n.toInt
  | _ => none

def toUint? : Literal → Option UInt32
  | bool b => some (if b then 1 else 0)
  | int n => some n.toUInt32
  | uint n => some n
  | float x => some x.toUInt32
  | anyInt n => uint32? n.toInt
  | _ => none

def toFloat? : Literal → Option Float32
  | bool b => some (if b then 1 else 0)
  | int n => some (Float32.ofInt n.toInt)
  | uint n => some (Float32.ofNat n.toNat)
  | float x => some x
  | anyInt n => some (Float32.ofInt n.toInt)
  | anyFloat x => if x.toFloat32.isInf then none else some x.toFloat32
  | double _ => none

def toDouble? : Literal → Option Float
  | bool b => some (if b then 1 else 0)
  | int n => some (Float.ofInt n.toInt)
  | uint n => some (Float.ofNat n.toNat)
  | float x => some x.toFloat
  | double x => some x
  | anyInt n => some (Float.ofInt n.toInt)
  | anyFloat x => some x

/-- Only abstract values become abstract fractions. -/
def toAnyFloat? : Literal → Option Float
  | anyInt n => some (Float.ofInt n.toInt)
  | anyFloat x => some x
  | _ => none

/-- The value converted to a kind, if it can be converted. Nothing else becomes an abstract
whole number. -/
def cast? (target : Scalar) (l : Literal) : Option Literal :=
  match target with
  | .bool => l.toBool?.map bool
  | .int => l.toInt?.map int
  | .uint => l.toUint?.map uint
  | .float => (l.toFloat?.map float).bind checked?
  | .double => (l.toDouble?.map double).bind checked?
  | .anyFloat => l.toAnyFloat?.map anyFloat
  | .anyInt => none

end Literal

end ShaderLoom.Wgsl
