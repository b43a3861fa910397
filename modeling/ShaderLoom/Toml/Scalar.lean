import ShaderLoom.Number.Power
import ShaderLoom.Toml.Characters
import ShaderLoom.Toml.Value

/-!
Values written as one word: the two truth values, whole numbers, fractions, dates and times.
A word is the longest run of the characters that such values are made of.
-/

namespace ShaderLoom.Toml

open Number

/-- Groups of digits joined by single underscores, without the underscores. -/
def joined (digit : Char → Bool) : List Char → Option (List Char)
  | [] => none
  | [c] => if digit c then some [c] else none
  | c :: '_' :: r => if digit c then (joined digit r).map (c :: ·) else none
  | c :: r => if digit c then (joined digit r).map (c :: ·) else none

def decimalNumber (cs : List Char) : Nat := cs.foldl (fun n c => 10 * n + digitValue c) 0

/-- Decimal digits without a leading zero. -/
def plain (cs : List Char) : Option (List Char) := do
  let ds ← joined isDigit cs
  match ds with
  | '0' :: _ :: _ => none
  | _ => some ds

/-- A sign, if there is one, and what follows it. -/
def signed : List Char → Bool × List Char
  | '-' :: r => (true, r)
  | '+' :: r => (false, r)
  | r => (false, r)

/-- Whole numbers are kept within 64 bits. -/
def bounded (n : Int) : Option Int :=
  let top : Int := power 2 63
  if -top ≤ n ∧ n < top then some n else none

def inBase (base : Nat) (cs : List Char) : Option Int := do
  let digit := fun c => (hexValue? c).any (· < base)
  let ds ← joined digit cs
  bounded (ds.foldl (fun n c => base * n + (hexValue? c).getD 0) 0 : Nat)

def integer? : List Char → Option Int
  | '0' :: 'x' :: r => inBase 16 r
  | '0' :: 'o' :: r => inBase 8 r
  | '0' :: 'b' :: r => inBase 2 r
  | cs => do
    let (negative, r) := signed cs
    let n := decimalNumber (← plain r)
    bounded (if negative then -(n : Int) else n)

/-- Splits at the first character of a kind; the second part begins with it. -/
def cutAt (p : Char → Bool) (cs : List Char) : List Char × List Char :=
  (cs.takeWhile (!p ·), cs.dropWhile (!p ·))

def exponent? : List Char → Option Int
  | [] => some 0
  | _ :: r => do
    let (negative, ds) := signed r
    let n := decimalNumber (← joined isDigit ds)
    some (if negative then -(n : Int) else n)

def places? : List Char → Option (List Char)
  | [] => some []
  | _ :: r => joined isDigit r

/-- Whether `digits * 10 ^ scale` rounds to more than the largest double-precision number. -/
def overflows (digits : List Char) (scale : Int) : Bool :=
  let n := decimalNumber digits
  let top := scale + (Nat.toDigits 10 n).length
  if n = 0 then false
  else if 400 < top then true
  else if top < 300 then false
  else (power 2 1024 - power 2 970) * power 10 (-scale).toNat ≤ n * power 10 scale.toNat

def isFraction (cs : List Char) : Bool :=
  let (negative, r) := signed cs
  if r = ['i', 'n', 'f'] || r = ['n', 'a', 'n'] then true
  else
    let (body, tail) := cutAt (fun c => c = 'e' || c = 'E') r
    let (whole, point) := cutAt (· = '.') body
    match plain whole, places? point, exponent? tail with
    | some w, some p, some e =>
      (point != [] || tail != []) && (negative || !overflows (w ++ p) (e - p.length))
    | _, _, _ => false

/-- Exactly so many decimal digits, and a number within bounds. -/
def field? (width low high : Nat) (cs : List Char) : Option Nat :=
  let n := decimalNumber cs
  if cs.length = width && cs.all isDigit && low ≤ n && n ≤ high then some n else none

def isLeap (year : Nat) : Bool := year % 4 = 0 && (year % 100 != 0 || year % 400 = 0)

def monthLength (year : Nat) : Nat → Nat
  | 2 => if isLeap year then 29 else 28
  | 4 => 30
  | 6 => 30
  | 9 => 30
  | 11 => 30
  | _ => 31

def isDate : List Char → Bool
  | [a, b, c, d, '-', e, f, '-', g, h] =>
    match field? 4 0 9999 [a, b, c, d], field? 2 1 12 [e, f] with
    | some y, some m => (field? 2 1 (monthLength y m) [g, h]).isSome
    | _, _ => false
  | _ => false

def isClock : List Char → Bool
  | [a, b, ':', c, d] => (field? 2 0 23 [a, b]).isSome && (field? 2 0 59 [c, d]).isSome
  | _ => false

def isOffset : List Char → Bool
  | [] => true
  | ['Z'] => true
  | ['z'] => true
  | s :: r => (s = '+' || s = '-') && isClock r

/-- The time of day, and whether an offset may follow it. -/
def isTime (offset : Bool) : List Char → Bool
  | a :: b :: ':' :: c :: d :: ':' :: e :: f :: r =>
    isClock [a, b, ':', c, d] && (field? 2 0 60 [e, f]).isSome &&
      (let tail := match r with
        | '.' :: s => if (s.takeWhile isDigit).isEmpty then none else some (s.dropWhile isDigit)
        | s => some s
      tail.any fun t => if offset then isOffset t else t.isEmpty)
  | _ => false

def isMoment (cs : List Char) : Bool :=
  isTime false cs || isDate cs ||
    (isDate (cs.take 10) && match cs.drop 10 with
      | c :: r => (c = 'T' || c = 't' || c = ' ') && isTime true r
      | [] => false)

def word? (cs : List Char) : Option Value :=
  if cs = ['t', 'r', 'u', 'e'] then some (.boolean true)
  else if cs = ['f', 'a', 'l', 's', 'e'] then some (.boolean false)
  else match integer? cs with
    | some n => some (.integer n)
    | none =>
      if isFraction cs then some .fraction
      else if isMoment cs then some .moment
      else none

/-- A date may be followed by a blank and a time of day. -/
def scalar (s : List Char) : Option (Value × List Char) :=
  let w := s.takeWhile isToken
  let r := s.dropWhile isToken
  match r with
  | ' ' :: c :: t =>
    if isDate w && isDigit c then
      (word? (w ++ ' ' :: (c :: t).takeWhile isToken)).map (·, (c :: t).dropWhile isToken)
    else (word? w).map (·, r)
  | _ => (word? w).map (·, r)

end ShaderLoom.Toml
