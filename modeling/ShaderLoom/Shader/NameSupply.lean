/-!
Generated names: a fixed stem and a number that is never used twice.
-/

namespace ShaderLoom

/-- How many names have been issued. -/
structure NameSupply where
  issued : Nat
  deriving DecidableEq, Repr

namespace NameSupply

def stem : String := "_tmp"

def start : NameSupply := ⟨0⟩

def nameAt (n : Nat) : String := stem ++ n.repr

def fresh (s : NameSupply) : String × NameSupply := (nameAt s.issued, ⟨s.issued + 1⟩)

/-- The next `k` names. -/
def names (s : NameSupply) (k : Nat) : List String :=
  (List.range k).map fun i => nameAt (s.issued + i)

def advance (s : NameSupply) (k : Nat) : NameSupply := ⟨s.issued + k⟩

@[simp] theorem length_names (s : NameSupply) (k : Nat) : (s.names k).length = k := by
  simp [names]

@[simp] theorem names_zero (s : NameSupply) : s.names 0 = [] := rfl

end NameSupply

end ShaderLoom
