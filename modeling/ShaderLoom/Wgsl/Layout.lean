import ShaderLoom.Wgsl.Type

/-!
Records, how values lie in memory, and what a type may be used for.

A member lies at the first place behind the previous one that its alignment allows. A uniform
buffer asks for more than a storage buffer: arrays and records in it are aligned to sixteen bytes.
-/

namespace ShaderLoom.Wgsl

inductive Binding where
  | signal (s : Signal)
  | location (place : Nat) (interpolation : Option Interpolation) (blended : Bool)
  deriving DecidableEq, Repr

structure Member where
  name : String
  type : Ty
  binding : Option Binding
  offset : Nat
  deriving DecidableEq, Repr

/-- What values of a type may be used for: kept in memory, of a size that is known, copied,
shared with the outside, passed between stages, passed to functions, and made from nothing. -/
structure Traits where
  data : Bool := false
  sized : Bool := false
  copy : Bool := false
  shareable : Bool := false
  crossing : Bool := false
  argument : Bool := false
  constructible : Bool := false
  deriving DecidableEq, Repr

def Traits.meet (a b : Traits) : Traits :=
  ⟨a.data && b.data, a.sized && b.sized, a.copy && b.copy, a.shareable && b.shareable,
    a.crossing && b.crossing, a.argument && b.argument, a.constructible && b.constructible⟩

/-- The traits of a type and its alignments in a uniform and in a storage buffer, as far as it
can lie in one. -/
structure Info where
  traits : Traits
  uniform : Option Nat
  storage : Option Nat
  deriving DecidableEq, Repr

structure Record where
  members : List Member
  span : Nat
  alignment : Nat
  info : Info
  deriving DecidableEq, Repr

abbrev Records := List (String × Record)

structure Layout where
  size : Nat
  alignment : Nat

def roundUp (alignment n : Nat) : Nat := (n + alignment - 1) / alignment * alignment

def Layout.stride (l : Layout) : Nat := roundUp l.alignment l.size

/-- Two components are aligned to their common size, three like four. -/
def vectorAlignment (n : Nat) (s : Scalar) : Nat := (if n = 2 then 2 else 4) * s.width

namespace Records

variable (rs : Records)

def layout : Ty → Layout
  | .scalar s => ⟨s.width, s.width⟩
  | .vector n s => ⟨n * s.width, vectorAlignment n s⟩
  | .matrix c r s => ⟨c * vectorAlignment r s, vectorAlignment r s⟩
  | .atomic s => ⟨s.width, s.width⟩
  | .pointer _ _ => ⟨4, 1⟩
  | .array item n stride => ⟨n.getD 1 * stride, (layout item).alignment⟩
  | .record name =>
    match rs.lookup name with
    | some r => ⟨r.span, r.alignment⟩
    | none => ⟨0, 1⟩
  | .named _ t => layout t
  | _ => ⟨0, 1⟩

/-- Whether two values have one type. Records with the same contents are one type as long as no
other type is made of them; for pointers to numbers and vectors names do not count. -/
def same (s t : Ty) : Bool :=
  match s.bare, t.bare with
  | .record a, .record b =>
    a = b || (match rs.lookup a, rs.lookup b with
      | some r, some q => r.members = q.members && r.span = q.span
      | _, _ => false)
  | .pointer a p, .pointer b q => p = q && (a = b || (a.width?.isSome && a.bare = b.bare))
  | a, b => a = b

/-- Plain data that lies alike in both kinds of buffers. -/
def plain (traits : Traits) (alignment : Nat) : Info := ⟨traits, some alignment, some alignment⟩

def allTraits : Traits := ⟨true, true, true, true, true, true, true⟩

/-- A single truth value is not shared with the outside, but vectors of them are. -/
def scalarInfo (s : Scalar) (isVector : Bool) (alignment : Nat) : Checked Info :=
  if s.isAbstract then .error (.mistyped "an abstract value")
  else
    let shareable := s.isNumeric || isVector
    .ok (plain { allTraits with shareable, crossing := s.isNumeric } alignment)

/-- The alignment of items in a buffer, if their distance is a multiple of it. -/
def itemAlignment (least : Nat) (l : Layout) (stride : Nat) (item : Option Nat) : Option Nat := do
  let a := max (max (← item) l.alignment) least
  if stride % a = 0 then some a else none

def arrayInfo (l : Layout) (item : Info) (n : Option Nat) (stride : Nat) : Checked Info := do
  require (item.traits.data && item.traits.sized) (.mistyped "the items of an array")
  let mask : Traits := match n with
    | some _ => { allTraits with crossing := false }
    | none => { data := true, copy := true, shareable := true }
  .ok ⟨item.traits.meet mask, itemAlignment 16 l stride item.uniform,
    itemAlignment 1 l stride item.storage⟩

/-- Only storage holds values whose size is not known. -/
def pointerInfo (target : Info) (space : Space) : Checked Info := do
  let inStorage := match space with
    | .storage _ => true
    | _ => false
  require (target.traits.data && (target.traits.sized || inStorage)) (.mistyped "a pointer")
  .ok (plain
    { sized := true, copy := true, argument := space = .function || space = .invocation } 1)

/-- What a type may be used for, unless it is no type of a module. -/
def info : Ty → Checked Info
  | .scalar s => scalarInfo s false s.width
  | .vector n s => scalarInfo s true (vectorAlignment n s)
  | .matrix _ r s => do
    require s.isFloat (.mistyped "a matrix")
    .ok (plain { allTraits with crossing := false } (vectorAlignment r s))
  | .atomic s => do
    require s.isInteger (.mistyped "an atomic value")
    .ok (plain { data := true, sized := true, shareable := true } s.width)
  | .pointer t space => do pointerInfo (← info t) space
  | .array t n stride => do arrayInfo (rs.layout t) (← info t) n stride
  | .bindings t n => do
    let i ← info t
    let isRecord := match t.bare with
      | .record _ => true
      | _ => false
    require (!i.traits.data || isRecord) (.mistyped "an array of bindings")
    .ok (plain (i.traits.meet { sized := n.isSome, shareable := true }) 1)
  | .texture t => do
    require (!t.layered || t.dimension != .three) (.mistyped "a texture")
    .ok (plain { argument := true } 1)
  | .sampler _ => .ok (plain { argument := true } 1)
  | .accelerationStructure => .ok (plain { argument := true } 1)
  | .rayQuery => .ok (plain { data := true, sized := true, constructible := true } 1)
  | .record name =>
    match rs.lookup name with
    | some r => .ok r.info
    | none => .error (.undefined name)
  | .named _ t => info t

/-- What has been found of a record up to some member: its traits and alignments so far, and the
size and offset of the last member if that is a record itself. -/
structure Progress where
  info : Info
  last : Option (Nat × Nat)

def memberAlignment (offset : Nat) (so : Option Nat) (member : Option Nat) : Option Nat := do
  let a ← so
  let b ← member
  if offset % b = 0 then some (max a b) else none

/-- One more member. In a uniform buffer what follows a record keeps sixteen bytes of distance
for each sixteen begun. -/
def progress (isLast : Bool) (p : Progress) (m : Member) : Checked Progress := do
  let i ← rs.info m.type
  require i.traits.data (.mistyped m.name)
  let isArray := match m.type.bare with
    | .array _ _ _ => true
    | _ => false
  require (i.traits.sized || (isArray && isLast)) (.mistyped m.name)
  let spaced := match p.last with
    | some (span, offset) => roundUp 16 span ≤ m.offset - offset
    | none => true
  let uniform := if i.traits.shareable && i.traits.sized && spaced
    then memberAlignment m.offset p.info.uniform i.uniform else none
  let storage := if i.traits.shareable
    then memberAlignment m.offset p.info.storage i.storage else none
  let last := match m.type.bare with
    | .record _ => some ((rs.layout m.type).size, m.offset)
    | _ => none
  .ok ⟨⟨p.info.traits.meet i.traits, uniform, storage⟩, last⟩

def progressAll (p : Progress) : List Member → Checked Progress
  | [] => .ok p
  | m :: rest => do progressAll (← rs.progress rest.isEmpty p m) rest

/-- A member that is to be placed, with the size and alignment it is given. -/
structure Placed where
  name : String
  type : Ty
  binding : Option Binding
  size : Nat
  alignment : Nat

def offsets : (start : Nat) → List Placed → List Member × Nat
  | start, [] => ([], start)
  | start, p :: rest =>
    let offset := roundUp p.alignment start
    let (ms, stop) := offsets (offset + p.size) rest
    (⟨p.name, p.type, p.binding, offset⟩ :: ms, stop)

def ofMembers (ps : List Placed) : Checked Record := do
  require (!ps.isEmpty) (.mistyped "a record without members")
  let (ms, stop) := offsets 0 ps
  let span := roundUp (ps.foldl (fun a p => max a p.alignment) 1) stop
  let alignment := ps.foldl (fun a p => max a (rs.layout p.type).alignment) 1
  let p ← rs.progressAll ⟨⟨allTraits, some 16, some 1⟩, none⟩ ms
  let info := if span % alignment = 0 then p.info
    else { p.info with uniform := none, storage := none }
  .ok ⟨ms, span, alignment, info⟩

def natural (name : String) (t : Ty) : Placed :=
  let l := layout rs t
  ⟨name, t, none, l.size, l.alignment⟩

end Records

/-- Numbers and vectors of floating-point components, with the ends of the names of records that
hold two parts of them. -/
def splitTypes : List (String × Ty × Ty) :=
  [(.float, "f32"), (.double, "f64")].flatMap fun (s, text) =>
    (text, .scalar s, .int) :: [2, 3, 4].map fun n =>
      ("vec" ++ toString n ++ "_" ++ text, .vector n s, .vector n .int)

def wholeAndFraction (t : Ty) : Option String :=
  (splitTypes.find? (·.2.1 = t.bare)).map ("__modf_result_" ++ ·.1)

def fractionAndExponent (t : Ty) : Option String :=
  (splitTypes.find? (·.2.1 = t.bare)).map ("__frexp_result_" ++ ·.1)

def exchangeResult : Scalar → Option String
  | .int => some "__atomic_compare_exchange_result_i32"
  | .uint => some "__atomic_compare_exchange_result_u32"
  | _ => none

/-- The members of the records that every module has. -/
def predeclaredMembers : List (String × List (String × Ty)) :=
  splitTypes.map (fun (text, t, _) => ("__modf_result_" ++ text, [("fract", t), ("whole", t)])) ++
  splitTypes.map (fun (text, t, e) => ("__frexp_result_" ++ text, [("fract", t), ("exp", e)])) ++
  [("__atomic_compare_exchange_result_i32", [("old_value", .int), ("exchanged", .bool)]),
   ("__atomic_compare_exchange_result_u32", [("old_value", .uint), ("exchanged", .bool)]),
   ("RayDesc", [("flags", .uint), ("cull_mask", .uint), ("tmin", .float), ("tmax", .float),
     ("origin", .vector 3 .float), ("dir", .vector 3 .float)]),
   ("RayIntersection", [("kind", .uint), ("t", .float), ("instance_custom_index", .uint),
     ("instance_id", .uint), ("sbt_record_offset", .uint), ("geometry_index", .uint),
     ("primitive_index", .uint), ("barycentrics", .vector 2 .float), ("front_face", .bool),
     ("object_to_world", .matrix 4 3 .float), ("world_to_object", .matrix 4 3 .float)])]

def Records.predeclared : Records :=
  predeclaredMembers.filterMap fun (name, ms) =>
    match Records.ofMembers [] (ms.map fun (n, t) => Records.natural [] n t) with
    | .ok r => some (name, r)
    | .error _ => none

end ShaderLoom.Wgsl
