import ShaderLoom.Diagnostics.Journal
import ShaderLoom.Diagnostics.Sink
import ShaderLoom.Diagnostics.Verbosity

/-!
The state of an application's diagnostics, and how each notice changes it.

A log record is kept if it passes the ceiling. A report is logged as an error and then
recorded in the sink; the ceiling has no say in the second.
-/

namespace ShaderLoom

structure Ledger (η : Type) where
  ceiling : Severity
  records : List Record
  sink : Sink η
  heard : List (Heard η)

namespace Ledger

variable {η : Type}

def log (d : Ledger η) (r : Record) : Ledger η :=
  if r.severity.passes d.ceiling then { d with records := d.records ++ [r] } else d

def record (habit : Sink.Habit η) (d : Ledger η) (fault : Fault) : Ledger η :=
  let r := d.sink.record habit fault
  { d with sink := r.1, heard := d.heard ++ r.2 }

def hear (habit : Sink.Habit η) (d : Ledger η) : Notice → Ledger η
  | .log r => d.log r
  | .report fault => (d.log ⟨.error, fault.message⟩).record habit fault

def hearAll (habit : Sink.Habit η) (d : Ledger η) (ns : List Notice) : Ledger η :=
  ns.foldl (hear habit) d

@[simp] theorem hearAll_nil (habit : Sink.Habit η) (d : Ledger η) : d.hearAll habit [] = d := rfl
@[simp] theorem hearAll_cons (habit : Sink.Habit η) (d : Ledger η) (n : Notice)
    (ns : List Notice) : d.hearAll habit (n :: ns) = (d.hear habit n).hearAll habit ns := rfl
theorem hearAll_append (habit : Sink.Habit η) (d : Ledger η) (ms ns : List Notice) :
    d.hearAll habit (ms ++ ns) = (d.hearAll habit ms).hearAll habit ns := by
  simp [hearAll, List.foldl_append]

end Ledger

end ShaderLoom
