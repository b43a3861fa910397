import ShaderLoom.Number.Binary32

/-!
The values a frame is drawn with, and their layout in memory: the time, four bytes of padding,
the width and the height, each number with its lowest byte first.
-/

namespace ShaderLoom

open Number

structure Uniforms where
  time : Binary32
  width : Binary32
  height : Binary32
  deriving DecidableEq, Repr

namespace Uniforms

def size : Nat := 16

def bytes (u : Uniforms) : List UInt8 :=
  u.time.bytes ++ [0, 0, 0, 0] ++ u.width.bytes ++ u.height.bytes

def ofBytes? : List UInt8 → Option Uniforms
  | [a, b, c, d, _, _, _, _, e, f, g, h, i, j, k, l] =>
    some ⟨.ofBytes a b c d, .ofBytes e f g h, .ofBytes i j k l⟩
  | _ => none

/-- Equality of all numbers, the padding included. -/
def equal (u v : Uniforms) : Bool :=
  u.time.equal v.time && u.width.equal v.width && u.height.equal v.height

end Uniforms

end ShaderLoom
