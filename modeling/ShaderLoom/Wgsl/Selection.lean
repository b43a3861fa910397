import ShaderLoom.Wgsl.Conversion

/-!
Parts of values and places: members of records, components of vectors, columns of matrices, items
of arrays.

A part of a place is a place. Of a value, an array or matrix gives its parts only to an index that
is written down, for it need not lie in memory.
-/

namespace ShaderLoom.Wgsl

open Build

def lookInto (o : Operand) : Ty × (Ty → Ty) :=
  match o.type.pointee? with
  | some (t, space) => (t, fun part => .pointer part space)
  | none => (o.type, id)

/-- The part at a position. Behind the end of an array is wrong only where it is needed. -/
def partAt? (rs : Records) (t : Ty) (i : Nat) : Option Ty :=
  match t.bare with
  | .array item _ _ => some item
  | .bindings item _ => some item
  | .record name => do
    let r ← rs.lookup name
    (r.members[i]?).map (·.type)
  | _ =>
    match t.count? with
    | some n => if i < n then t.component? else none
    | none => none

def partOf (base part : Operand) : Operand :=
  let ofVector := match (lookInto base).1.bare with
    | .vector _ _ => true
    | .matrix _ _ _ => true
    | _ => false
  { part with isPlace := base.isPlace, root := base.root, steps := base.steps + 1, ofVector }

/-- What a selection from a place or value asks for: the place itself is not read by it. -/
def selectedFrom (base : Operand) (others : List Operand) : Demand :=
  others.foldl (fun d a => d.join (a.used .reading)) base.demand

/-- A part of a place or of a value that is not known, with what selecting it asks for. -/
def select (m : Module) (base : Operand) (others : List Operand)
    (value : List Constant → Option Constant) (type : Checked Ty) (checked : Checked Unit) :
    Build Operand := do
  let o ← node m (base :: others) value type checked .none
  if o.known.isSome then pure o
  else pure (partOf base { o with demand := selectedFrom base others })

def selectAt (m : Module) (base : Operand) (i : Nat) : Build Operand :=
  let (t, back) := lookInto base
  let withinCount := match t.bare, t.count? with
    | .array _ _ _, some n => i < n
    | _, _ => true
  select m base []
    (fun
      | [c] => c.access? m.records i
      | _ => none)
    (match partAt? m.records t i with
      | some part => .ok (back part)
      | none => .error (.mistyped "a selection"))
    (require withinCount (.misplaced "an index"))

/-- Whether the index is written down, as a number or the name of a constant. -/
def isWritten (o : Operand) : Bool :=
  match o.known with
  | some c => !c.isComposite
  | none => false

def selectBy (m : Module) (base i : Operand) : Build Operand :=
  let (t, back) := lookInto base
  let restricted := base.type.pointee?.isNone && (match t.bare with
    | .matrix _ _ _ => true
    | .array _ _ _ => true
    | _ => false)
  let inRange := match i.known.bind Constant.whole?, t.count? with
    | some k, some n => 0 ≤ k && k < n
    | _, _ => true
  select m base [i] (fun _ => none)
    (match t.component? with
      | some part => .ok (back part)
      | none => .error (.mistyped "an indexed value"))
    (do
      require (i.type.isScalarOf Scalar.isInteger) (.mistyped "an index")
      require (!restricted || isWritten i) (.misplaced "an index that varies")
      require inRange (.misplaced "an index"))

def letter? (c : Char) : Option Nat :=
  match c with
  | 'x' | 'r' => some 0
  | 'y' | 'g' => some 1
  | 'z' | 'b' => some 2
  | 'w' | 'a' => some 3
  | _ => none

/-- The components that a name behind a point selects, up to four, in any order. -/
def letters? (s : String) : Option (List Nat) :=
  if 4 < s.length then none else s.toList.mapM letter?

def swizzle (m : Module) (o : Operand) (pattern : List Nat) : Build Operand :=
  node m [o]
    (fun
      | [c] => c.swizzle? pattern
      | _ => none)
    (match o.type.bare with
      | .vector _ s => .ok (.vector pattern.length s)
      | _ => .error (.mistyped "a selection of components"))
    (require (pattern.all fun i => o.type.count?.any (i < ·)) (.mistyped "a component")) .none

/-- A pointer has no parts, only the place that it points at. -/
def requireNoPointer (o : Operand) : Build Unit :=
  ensure (o.isPlace || o.type.pointee?.isNone) (.mistyped "a pointer")

def member (m : Module) (base : Operand) (field : String) : Build Operand := do
  requireNoPointer base
  let t := (lookInto base).1
  match t.bare with
  | .record name =>
    match (m.records.lookup name).bind fun r => r.members.findIdx? (·.name = field) with
    | some i => selectAt m base i
    | none => refuse (.undefined field)
  | .vector _ _ | .matrix _ _ _ =>
    match letters? field with
    | some [i] => selectAt m base i
    | some (i :: rest) => do swizzle m (← load m base) (i :: rest)
    | _ => refuse (.undefined field)
  | _ => refuse (.undefined field)

/-- A part by its position. A constant index counts as written down if it is not negative. -/
def index (m : Module) (base i : Operand) : Build Operand := do
  requireNoPointer base
  match i.fixed?.bind Constant.natural? with
  | some n => selectAt m base n
  | none => selectBy m base i

end ShaderLoom.Wgsl
