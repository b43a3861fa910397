import ShaderLoom.Wgsl.Literal

/-!
The operators, and what they make of literals.

Whole numbers must not overflow and concrete floating-point results must be finite; otherwise an
operation has no value before the module runs. Shifts are defined for concrete numbers only.
-/

namespace ShaderLoom.Wgsl

open Number (power Format)

inductive Unary where
  | negate | not | complement
  deriving DecidableEq, Repr

inductive Binary where
  | add | sub | mul | div | rem
  | equal | differ | less | atMost | more | atLeast
  | bothTrue | eitherTrue
  | bitAnd | bitOr | bitXor | shiftLeft | shiftRight
  deriving DecidableEq, Repr

namespace Binary

def isComparison : Binary → Bool
  | equal | differ | less | atMost | more | atLeast => true
  | _ => false

def isShift : Binary → Bool
  | shiftLeft | shiftRight => true
  | _ => false

def isLogical : Binary → Bool
  | bothTrue | eitherTrue => true
  | _ => false

/-- Beside a vector a number stands for a vector of equal numbers. -/
def spreads : Binary → Bool
  | add | sub | div | rem => true
  | _ => false

end Binary

/-- The value of a number as a multiple of a power of two, if it is finite. -/
def dyadic? (x : Float) : Option Number.Dyadic :=
  match Format.double.read x.toBits.toNat with
  | .finite d => some d
  | _ => none

/-- What is left of `x` after whole multiples of `y`, exactly; it has the sign of `x`. -/
def remainder (x y : Float) : Float :=
  match dyadic? x, dyadic? y with
  | some a, some b =>
    let scale := min a.scale b.scale
    let whole := fun d : Number.Dyadic => d.mantissa * power 2 (d.scale - scale).toNat
    if b.mantissa = 0 then 0 / 0
    else
      let size := (Float.ofNat (whole a % whole b)).scaleB scale
      if a.negative then -size else size
  | some _, none => if y.isInf then x else y
  | none, _ => 0 / 0

namespace Literal

/-- The order of two values of one kind; values of different kinds are ordered by their kinds. -/
def order? (a b : Literal) : Option Ordering :=
  let real := fun x y : Float =>
    if x < y then some Ordering.lt else if x == y then some .eq
    else if y < x then some .gt else none
  let rank : Literal → Nat
    | double _ => 0
    | float _ => 1
    | uint _ => 2
    | int _ => 3
    | bool _ => 4
    | anyInt _ => 5
    | anyFloat _ => 6
  match a, b with
  | bool x, bool y => some (compare x.toNat y.toNat)
  | int x, int y => some (compare x.toInt y.toInt)
  | uint x, uint y => some (compare x.toNat y.toNat)
  | float x, float y => real x.toFloat y.toFloat
  | double x, double y => real x y
  | anyInt x, anyInt y => some (compare x.toInt y.toInt)
  | anyFloat x, anyFloat y => real x y
  | _, _ => some (compare (rank a) (rank b))

/-- Whether two concrete values are the same, bit by bit: the two zeros of a floating-point kind
differ. An abstract value is not even the same as itself. -/
def same (a b : Literal) : Bool :=
  match a, b with
  | bool x, bool y => x = y
  | int x, int y => x = y
  | uint x, uint y => x = y
  | float x, float y => x.toBits = y.toBits
  | double x, double y => x.toBits = y.toBits
  | _, _ => false

def compareBy (op : Binary) (a b : Literal) : Bool :=
  let order := order? a b
  match op with
  | .equal => same a b
  | .differ => !same a b
  | .less => order = some .lt
  | .atMost => order = some .lt || order = some .eq
  | .more => order = some .gt
  | .atLeast => order = some .gt || order = some .eq
  | _ => false

/-- Arithmetic on whole numbers; division goes toward zero. -/
def wholeNumber? (op : Binary) (a b : Int) : Option Int :=
  match op with
  | .add => some (a + b)
  | .sub => some (a - b)
  | .mul => some (a * b)
  | .div => if b = 0 then none else some (a.tdiv b)
  | .rem => if b = 0 then none else some (a.tmod b)
  | _ => none

/-- A remainder counts as overflowing where the quotient would. -/
def bounded? {α : Type} (bound : Int → Option α) (op : Binary) (a b : Int) : Option α := do
  let n ← wholeNumber? op a b
  if op = .rem then
    let _ ← bound (a.tdiv b)
  bound n

def real? (op : Binary) (a b : Float) : Option Float :=
  match op with
  | .add => some (a + b)
  | .sub => some (a - b)
  | .mul => some (a * b)
  | .div => some (a / b)
  | .rem => some (remainder a b)
  | _ => none

def single? (op : Binary) (a b : Float32) : Option Float32 :=
  match op with
  | .add => some (a + b)
  | .sub => some (a - b)
  | .mul => some (a * b)
  | .div => some (a / b)
  | .rem => some (remainder a.toFloat b.toFloat).toFloat32
  | _ => none

def truth? (op : Binary) (a b : Bool) : Option Bool :=
  match op with
  | .bothTrue => some (a && b)
  | .eitherTrue => some (a || b)
  | _ => none

/-- A number of 32 bits shifted; what leaves it is lost. -/
def shift? (op : Binary) (a : Literal) (amount : Nat) : Option Literal :=
  if 32 ≤ amount then none
  else match op, a with
    | .shiftLeft, int n => some (int (Int32.ofInt (n.toInt * power 2 amount)))
    | .shiftRight, int n => some (int (Int32.ofInt (n.toInt / power 2 amount)))
    | .shiftLeft, uint n => some (uint (UInt32.ofNat (n.toNat * power 2 amount)))
    | .shiftRight, uint n => some (uint (UInt32.ofNat (n.toNat / power 2 amount)))
    | _, _ => none

def bits? (op : Binary) (a b : Literal) : Option Literal :=
  match op, a, b with
  | .bitAnd, int x, int y => some (int (x &&& y))
  | .bitOr, int x, int y => some (int (x ||| y))
  | .bitXor, int x, int y => some (int (x ^^^ y))
  | .bitAnd, uint x, uint y => some (uint (x &&& y))
  | .bitOr, uint x, uint y => some (uint (x ||| y))
  | .bitXor, uint x, uint y => some (uint (x ^^^ y))
  | .bitAnd, anyInt x, anyInt y => some (anyInt (x &&& y))
  | .bitOr, anyInt x, anyInt y => some (anyInt (x ||| y))
  | .bitXor, anyInt x, anyInt y => some (anyInt (x ^^^ y))
  | _, _, _ => none

def arithmetic? (op : Binary) (a b : Literal) : Option Literal :=
  match a, b with
  | int x, int y => (bounded? int32? op x.toInt y.toInt).map int
  | uint x, uint y => (bounded? uint32? op x.toNat y.toNat).map uint
  | anyInt x, anyInt y => (bounded? int64? op x.toInt y.toInt).map anyInt
  | float x, float y => (single? op x y).map float
  | anyFloat x, anyFloat y => (real? op x y).map anyFloat
  | bool x, bool y => (truth? op x y).map bool
  | _, _ => none

/-- The value of a binary operation, if it has one before the module runs. -/
def binary? (op : Binary) (a b : Literal) : Option Literal :=
  if op.isComparison then some (bool (compareBy op a b))
  else if op.isShift then
    match b with
    | uint n => shift? op a n.toNat
    | _ => none
  else ((bits? op a b).or (arithmetic? op a b)).bind checked?

/-- The value of a unary operation; the negative of the least number is that number. -/
def unary? (op : Unary) (a : Literal) : Option Literal :=
  match op, a with
  | .negate, int n => some (int (-n))
  | .negate, float x => some (float (-x))
  | .negate, anyInt n => some (anyInt (-n))
  | .negate, anyFloat x => some (anyFloat (-x))
  | .not, bool b => some (bool !b)
  | .complement, int n => some (int (~~~n))
  | .complement, uint n => some (uint (~~~n))
  | .complement, anyInt n => some (anyInt (~~~n))
  | _, _ => none

/-- The nearest value between two bounds. Bounds of whole numbers have to be in order. -/
def clamp? (x low high : Literal) : Option Literal :=
  match x, low, high with
  | int n, int l, int h => if h < l then none else some (int (min (max n l) h))
  | uint n, uint l, uint h => if h < l then none else some (uint (min (max n l) h))
  | float y, float l, float h =>
    let raised := if y < l then l else y
    some (float (if h < raised then h else raised))
  | _, _, _ => none

def pow? : Literal → Literal → Option Literal
  | float x, float y => checked? (float (x.pow y))
  | _, _ => none

end Literal

example : Literal.binary? .add (.int 2147483647) (.int 1) = none := by decide
example : Literal.binary? .rem (.int (-7)) (.int 2) = some (.int (-1)) := by decide
example : Literal.binary? .shiftLeft (.int 1) (.uint 31) = some (.int (-2147483648)) := by decide
example : Literal.binary? .shiftLeft (.uint 4294967295) (.uint 1) = some (.uint 4294967294) := by
  decide
example : Literal.binary? .shiftLeft (.anyInt 1) (.uint 3) = none := by decide
example : Literal.binary? .equal (.float 0) (.float (-0)) = some (.bool false) := by decide

end ShaderLoom.Wgsl
