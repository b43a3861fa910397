/-!
The kinds of single values.

A literal without a suffix has an abstract kind: a whole number may become any number, a
fraction a floating-point one, without being asked. Every other value keeps its kind.
-/

namespace ShaderLoom.Wgsl

inductive Scalar where
  | bool | int | uint | float | double | anyInt | anyFloat
  deriving DecidableEq, Repr

namespace Scalar

def isAbstract : Scalar → Bool
  | anyInt | anyFloat => true
  | _ => false

def isInteger : Scalar → Bool
  | int | uint => true
  | _ => false

def isFloat : Scalar → Bool
  | float | double => true
  | _ => false

def isNumeric (s : Scalar) : Bool := s.isInteger || s.isFloat

/-- The number of bytes of a value in memory. -/
def width : Scalar → Nat
  | bool => 1
  | int | uint | float => 4
  | double | anyInt | anyFloat => 8

/-- What an abstract kind becomes where nothing asks for another. -/
def concrete : Scalar → Scalar
  | anyInt => int
  | anyFloat => float
  | s => s

/-- Whether a value of the first kind becomes one of the second without being asked. -/
def becomes (s t : Scalar) : Bool :=
  match s with
  | anyInt => t.isNumeric || t = anyFloat
  | anyFloat => t.isFloat
  | _ => false

/-- The kind that values of both kinds have or become. -/
def join? (s t : Scalar) : Option Scalar :=
  if s = t ∨ t.becomes s then some s
  else if s.becomes t then some t
  else none

end Scalar

end ShaderLoom.Wgsl
