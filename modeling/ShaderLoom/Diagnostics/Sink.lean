import ShaderLoom.Diagnostics.Fault

/-!
The error sink: the last fault recorded, and at most one handler that hears of each.

A handler may act on the sink while it is being called. So an act of recording holds what
the handler that hears of it does before it returns; those acts may be records again, to any
finite depth. Acts inside a record that nobody hears of do not take place.
-/

namespace ShaderLoom

structure Sink (η : Type) where
  last : Option Fault
  handler : Option η

/-- One call of a handler, with what the sink showed when it began. -/
structure Heard (η : Type) where
  handler : η
  fault : Fault
  seen : Option Fault

inductive Act (η : Type) where
  | record (fault : Fault) (inside : List (Act η))
  | install (handler : η)
  | clear

namespace Sink

variable {η : Type}

def empty : Sink η := ⟨none, none⟩

mutual

/-- The sink after an act, and the calls in the order in which they began. -/
def perform (s : Sink η) : Act η → Sink η × List (Heard η)
  | .record fault inside =>
    let t := { s with last := some fault }
    match s.handler with
    | none => (t, [])
    | some h =>
      let r := performAll t inside
      (r.1, ⟨h, fault, t.last⟩ :: r.2)
  | .install h => ({ s with handler := some h }, [])
  | .clear => ({ s with handler := none }, [])

def performAll (s : Sink η) : List (Act η) → Sink η × List (Heard η)
  | [] => (s, [])
  | a :: rest =>
    let r := perform s a
    let q := performAll r.1 rest
    (q.1, r.2 ++ q.2)

end

/-- What each handler does when it hears of a fault. -/
abbrev Habit (η : Type) := η → Fault → List (Act η)

/-- Recording a fault when handlers act by habit. -/
def record (habit : Habit η) (s : Sink η) (fault : Fault) : Sink η × List (Heard η) :=
  s.perform (.record fault (match s.handler with
    | none => []
    | some h => habit h fault))

@[simp] theorem performAll_nil (s : Sink η) : s.performAll [] = (s, []) := by simp [performAll]

@[simp] theorem performAll_cons (s : Sink η) (a : Act η) (rest : List (Act η)) :
    s.performAll (a :: rest) =
      (((s.perform a).1.performAll rest).1,
        (s.perform a).2 ++ ((s.perform a).1.performAll rest).2) := by
  simp [performAll]

@[simp] theorem perform_install (s : Sink η) (h : η) :
    s.perform (.install h) = ({ s with handler := some h }, []) := by simp [perform]

@[simp] theorem perform_clear (s : Sink η) :
    s.perform .clear = ({ s with handler := none }, []) := by simp [perform]

end Sink

end ShaderLoom
