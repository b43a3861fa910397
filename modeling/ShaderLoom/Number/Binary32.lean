import ShaderLoom.Number.Nearest

/-!
Single-precision numbers, kept as their bit patterns, so that every pattern is a value of its
own and a stored number comes back bit for bit.
-/

namespace ShaderLoom.Number

structure Binary32 where
  bits : UInt32
  deriving DecidableEq, Repr

namespace Binary32

def ofFloat32 (x : Float32) : Binary32 := ⟨x.toBits⟩

def notANumber : Binary32 := ⟨0x7fc00000⟩

def infinite (negative : Bool) : Binary32 :=
  ⟨UInt32.ofNat (Format.single.signWord negative + Format.single.infiniteWord)⟩

/-- The nearest single-precision number, a tie to the even neighbour. -/
def ofReading : Reading → Binary32
  | .nan => notANumber
  | .infinite negative => infinite negative
  | .finite d => ⟨UInt32.ofNat (d.word Format.single)⟩

def ofFloat (x : Float) : Binary32 := ofReading (.ofFloat x)

def ofUInt32 (n : UInt32) : Binary32 := ofFloat32 n.toFloat32

def toFloat32 (x : Binary32) : Float32 := Float32.ofBits x.bits

instance : Sub Binary32 := ⟨fun x y => ofFloat32 (x.toFloat32 - y.toFloat32)⟩

def read (x : Binary32) : Reading := Format.single.read x.bits.toNat

/-- Equality of the numbers: no NaN equals anything, and both zeros are equal. -/
def equal (x y : Binary32) : Bool := x.toFloat32 == y.toFloat32

/-- The four bytes, the lowest first. -/
def bytes (x : Binary32) : List UInt8 :=
  [x.bits.toUInt8, (x.bits >>> 8).toUInt8, (x.bits >>> 16).toUInt8, (x.bits >>> 24).toUInt8]

/-- The number stored in four bytes. -/
def ofBytes (a b c d : UInt8) : Binary32 :=
  ⟨a.toUInt32 ||| b.toUInt32 <<< 8 ||| c.toUInt32 <<< 16 ||| d.toUInt32 <<< 24⟩

end Binary32

end ShaderLoom.Number
