import ShaderLoom.Wgsl.Constant

/-!
What the names of a module mean, and what its functions ask of the stages they run in.
-/

namespace ShaderLoom.Wgsl

/-- How a variable of the module is used: its value is read, written, or only asked for its
size. -/
structure Use where
  read : Bool
  write : Bool
  query : Bool
  deriving DecidableEq, Repr

def Use.reading : Use := ⟨true, false, false⟩
def Use.writing : Use := ⟨false, true, false⟩
def Use.asking : Use := ⟨false, false, true⟩

def Use.join (a b : Use) : Use := ⟨a.read || b.read, a.write || b.write, a.query || b.query⟩

/-- The stages that something cannot run in, and the variables of the module that it uses. -/
structure Demand where
  barred : List Stage
  uses : List (String × Use)

namespace Demand

def none : Demand := ⟨[], []⟩

/-- Something that runs in one stage only. -/
def only (stage : Stage) : Demand := ⟨[Stage.vertex, .fragment, .compute].filter (· != stage), []⟩

def use (d : Demand) (name : String) (u : Use) : Demand :=
  match d.uses.lookup name with
  | some v => { d with uses := (name, u.join v) :: d.uses.filter (·.1 != name) }
  | Option.none => { d with uses := (name, u) :: d.uses }

def join (a b : Demand) : Demand :=
  let c := b.uses.foldl (fun d (name, u) => d.use name u) a
  { c with barred := (a.barred ++ b.barred).eraseDups }

end Demand

structure Signature where
  params : List Ty
  result : Option Ty
  demand : Demand

/-- A variable of the module: its type, address space, and place among the resources. -/
structure Variable where
  type : Ty
  space : Space
  resource : Option (Nat × Nat)

inductive Meaning where
  | type (t : Ty)
  | constant (t : Ty) (value : Constant)
  | variable (v : Variable)
  | function (s : Signature)
  | entry

/-- The declarations of a module that have been read. -/
structure Module where
  meanings : List (String × Meaning)
  records : Records

namespace Module

def empty : Module := ⟨[], .predeclared⟩

def add (m : Module) (name : String) (meaning : Meaning) : Module :=
  { m with meanings := (name, meaning) :: m.meanings }

def meaning? (m : Module) (name : String) : Option Meaning := m.meanings.lookup name

def same (m : Module) (s t : Ty) : Bool := m.records.same s t

def info (m : Module) (t : Ty) : Checked Info := m.records.info t

end Module

end ShaderLoom.Wgsl
