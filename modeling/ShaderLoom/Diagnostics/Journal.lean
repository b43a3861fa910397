import ShaderLoom.Diagnostics.Severity
import ShaderLoom.Diagnostics.Fault

/-!
Values with the notices that were given while they were computed, in order.

A notice is either a log record or the report of a fault. What becomes of it is decided by
whoever keeps the diagnostics, not here.
-/

namespace ShaderLoom

inductive Notice where
  | log (record : Record)
  | report (fault : Fault)
  deriving DecidableEq, Repr

structure Journal (α : Type) where
  value : α
  notices : List Notice

namespace Journal

instance : Monad Journal where
  pure a := ⟨a, []⟩
  bind x f :=
    let y := f x.value
    ⟨y.value, x.notices ++ y.notices⟩

variable {α β : Type}

def log (severity : Severity) (text : String) : Journal Unit := ⟨(), [.log ⟨severity, text⟩]⟩

def report (fault : Fault) : Journal Unit := ⟨(), [.report fault]⟩

@[simp] theorem value_pure (a : α) : (pure a : Journal α).value = a := rfl
@[simp] theorem notices_pure (a : α) : (pure a : Journal α).notices = [] := rfl
@[simp] theorem value_bind (x : Journal α) (f : α → Journal β) :
    (x >>= f).value = (f x.value).value := rfl
@[simp] theorem notices_bind (x : Journal α) (f : α → Journal β) :
    (x >>= f).notices = x.notices ++ (f x.value).notices := rfl
@[simp] theorem notices_log (severity : Severity) (text : String) :
    (log severity text).notices = [.log ⟨severity, text⟩] := rfl
@[simp] theorem notices_report (fault : Fault) : (report fault).notices = [.report fault] := rfl

end Journal

end ShaderLoom
