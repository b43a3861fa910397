import ShaderLoom.Wgsl.Steps

/-!
Entry points: what crosses the border of a stage, and which variables of the module a stage may
use.

Everything that crosses the border is bound to a signal of the pipeline or to a numbered location;
a record crosses it member by member.
-/

namespace ShaderLoom.Wgsl

/-- The border of a stage in one direction. -/
structure Border where
  stage : Stage
  outward : Bool
  deriving DecidableEq

namespace Border

def interpolates (b : Border) : Bool := b = ⟨.vertex, true⟩ || b = ⟨.fragment, false⟩

end Border

namespace Signal

def plain : Signal → Signal
  | position _ => position false
  | s => s

def crosses (s : Signal) (b : Border) : Bool :=
  match s with
  | position _ => b.interpolates
  | vertexIndex | instanceIndex => b = ⟨.vertex, false⟩
  | viewIndex => b = ⟨.vertex, false⟩ || b = ⟨.fragment, false⟩
  | frontFacing | primitiveIndex | sampleIndex => b = ⟨.fragment, false⟩
  | fragDepth => b = ⟨.fragment, true⟩
  | sampleMask => b.stage = .fragment
  | globalInvocationId | localInvocationId | localInvocationIndex | workgroupId | numWorkgroups =>
    b = ⟨.compute, false⟩

def type : Signal → Ty
  | position _ => .vector 4 .float
  | viewIndex => .int
  | frontFacing => .bool
  | fragDepth => .float
  | vertexIndex | instanceIndex | primitiveIndex | sampleIndex | sampleMask
  | localInvocationIndex =>
    .uint
  | globalInvocationId | localInvocationId | workgroupId | numWorkgroups => .vector 3 .uint

end Signal

/-- Where nothing is said, fractions are interpolated and whole numbers are not. -/
def interpolationFor (t : Ty) (given : Option Interpolation) : Option Interpolation :=
  given.or (match t.leaf? with
    | some s => if s.isFloat then some .perspective else if s.isInteger then some .flat else none
    | none => none)

def resolveBinding (m : Module) (t : Ty) : BindingRef → Build Binding
  | .signal s => pure (.signal s)
  | .location e i blended => do
    let place ← number m e
    pure (.location place (interpolationFor t i) blended)

structure Crossing where
  signals : List Signal
  locations : List Nat
  blended : Bool

namespace Crossing

def none : Crossing := ⟨[], [], false⟩

def addSignal (c : Crossing) (b : Border) (t : Ty) (s : Signal) : Checked Crossing := do
  require (!c.signals.contains s.plain) (.redefined "a signal")
  require (s.crosses b) (.misplaced "a signal")
  require (t.bare = s.type) (.mistyped "a signal")
  .ok { c with signals := s.plain :: c.signals }

/-- The second color that is blended shares location zero with the first. -/
def addLocation (c : Crossing) (b : Border) (place : Nat) (blended : Bool) : Checked Crossing :=
  if blended then do
    require (b = ⟨.fragment, true⟩ && place = 0) (.misplaced "a second color")
    .ok { c with blended := true }
  else do
    require (!c.locations.contains place) (.redefined "a location")
    .ok { c with locations := place :: c.locations }

/-- Whether a value may cross a border at a location, interpolated in a way if it is interpolated
there. -/
def carries (b : Border) (t : Ty) (i : Option Interpolation) : Bool :=
  match t.leaf? with
  | some s => !b.interpolates || (if s.isFloat then i.isSome else i = some .flat)
  | Option.none => false

def add (m : Module) (b : Border) (c : Crossing) (t : Ty) : Binding → Checked Crossing
  | .signal s => c.addSignal b t s
  | .location place i blended => do
    let info ← m.info t
    require info.traits.crossing (.mistyped "a value that crosses a border")
    require (carries b t i) (.misplaced "an interpolation")
    c.addLocation b place blended

/-- A value crosses as a whole if it is bound, else member by member. -/
def addValue (m : Module) (b : Border) (c : Crossing) (t : Ty) (binding : Option Binding) :
    Checked Crossing :=
  match binding, t.bare with
  | some binding, _ => c.add m b t binding
  | Option.none, .record name =>
    match m.records.lookup name with
    | some r => r.members.foldlM (fun c p =>
        match p.binding with
        | some binding => c.add m b p.type binding
        | Option.none => .error (.misplaced "a member without a binding")) c
    | Option.none => .error (.undefined name)
  | Option.none, _ => .error (.misplaced "a value without a binding")

/-- A second color goes with a first one, at location zero, and with nothing else. -/
def blends (c : Crossing) : Bool := !c.blended || c.locations = [0]

end Crossing

def Variable.allows (v : Variable) : Use :=
  let asked := fun a : Access => (⟨a.read, a.write, true⟩ : Use)
  let item := match v.type.bare with
    | .bindings t _ => t.bare
    | t => t
  match v.space, item with
  | .uniform, _ => ⟨true, false, true⟩
  | .storage a, _ => asked a
  | .handle, .texture ⟨_, _, .stored _ _ a⟩ => asked a
  | .handle, _ => ⟨true, false, true⟩
  | .pushed, _ => .reading
  | _, _ => ⟨true, true, true⟩

def Use.within (u allowed : Use) : Bool :=
  (!u.read || allowed.read) && (!u.write || allowed.write) && (!u.query || allowed.query)

def usedVariables (m : Module) (d : Demand) : List (Variable × Use) :=
  d.uses.filterMap fun (name, u) =>
    match m.meaning? name with
    | some (.variable v) => some (v, u)
    | _ => none

/-- No variable is used as it may not be, no two share a place among the resources, and constants
are pushed in one variable only. -/
def checkUses (m : Module) (d : Demand) : Checked Unit := do
  let used := usedVariables m d
  require (used.all fun (v, u) => u.within v.allows) (.misplaced "the use of a variable")
  let places := used.filterMap fun (v, _) => v.resource
  require (places.eraseDups.length = places.length) (.redefined "a resource")
  require ((used.filter fun (v, _) => v.space = .pushed).length ≤ 1)
    (.redefined "a pushed constant")

structure Entry where
  stage : Stage
  earlyDepth : Bool
  sizes : List Nat
  params : List (Ty × Option Binding)
  result : Option (Ty × Option Binding)
  demand : Demand

/-- The most invocations of a workgroup in one direction. -/
def maxWorkgroupSize : Nat := 16384

namespace Entry

/-- Only a compute stage has workgroups. -/
def sizesAdmitted (e : Entry) : Bool :=
  if e.stage = .compute then e.sizes.all fun n => 0 < n && n ≤ maxWorkgroupSize
  else e.sizes.all (· = 0)

def check (m : Module) (e : Entry) : Checked Unit := do
  require (!e.earlyDepth || e.stage = .fragment) (.misplaced "an early test")
  require e.sizesAdmitted (.misplaced "the size of a workgroup")
  require (!e.demand.barred.contains e.stage) (.misplaced "an operation of another stage")
  let _ ← e.params.foldlM (fun c (t, b) => c.addValue m ⟨e.stage, false⟩ t b) Crossing.none
  let out ← match e.result with
    | some (t, b) => Crossing.none.addValue m ⟨e.stage, true⟩ t b
    | none => .ok .none
  require out.blends (.misplaced "a second color")
  require (e.stage != .vertex || out.signals.contains (.position false))
    (.misplaced "a vertex without a position")
  checkUses m e.demand

end Entry

end ShaderLoom.Wgsl
