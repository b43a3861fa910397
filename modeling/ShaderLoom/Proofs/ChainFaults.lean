import Mathlib.Data.List.Basic
import ShaderLoom.Diagnostics.Ledger
import ShaderLoom.Proofs.Assembly

/-!
What a chain says while it is assembled, and what the diagnostics of an application make of it.

Building an expression warns of numbers that are not finite, and lowering one that has no value
warns of that. Nothing else is logged before the end of the chain, and nothing is reported. The
end is one notice: the report of the first fault, or the text of the program for the log.
-/

namespace ShaderLoom

/-! ### What is said of one expression -/

/-- What is logged of a number when it is written: something only if the language has no literal
for it. -/
def Number.Binary32.warnings (x : Number.Binary32) : List Record :=
  match x.read with
  | .finite _ => []
  | r =>
    [⟨.warn, "Valeur non finie " ++ r.fixed 0 ++ " dans une expression, remplacée par 0.0"⟩]

namespace ExprCall

open Number Expression

/-- The radii that are written of a circle. A soft edge lies inside it. -/
def radii (radius : Binary32) (smooth : Bool) : List Binary32 :=
  if smooth then [radius - edge, radius] else [radius]

/-- The numbers that a call writes, in order. -/
def numbers : ExprCall → List Binary32
  | .typed _ => []
  | .expression _ => []
  | .circle x y radius smooth => [x, y] ++ radii radius smooth
  | .wave _ frequency speed => [frequency, speed]
  | .noise scale => [scale]

end ExprCall

namespace ExprSpec

/-- What is logged when an expression is asked for a value that it does not have. -/
def missingWarning (s : ExprSpec) : Record :=
  ⟨.warn, "ExpressionBuilder: VALUE invalide ou absente pour la variable '" ++ s.name ++ "'"⟩

/-- What is logged of an expression: its numbers as they are written, then its missing value. -/
def warnings (s : ExprSpec) : List Record :=
  (s.calls.flatMap ExprCall.numbers).flatMap Number.Binary32.warnings ++
    if s.Valued then [] else [s.missingWarning]

end ExprSpec

lemma Number.Binary32.severity_of_mem_warnings (x : Number.Binary32) :
    ∀ w ∈ x.warnings, w.severity = .warn := by
  intro w hw
  unfold warnings at hw
  split at hw
  · cases hw
  · rw [List.mem_singleton.mp hw]

lemma ExprSpec.severity_of_mem_warnings (s : ExprSpec) :
    ∀ w ∈ s.warnings, w.severity = .warn := by
  intro w hw
  rcases List.mem_append.mp hw with hw | hw
  · obtain ⟨x, -, hw⟩ := List.mem_flatMap.mp hw
    exact x.severity_of_mem_warnings w hw
  · split at hw
    · cases hw
    · rw [List.mem_singleton.mp hw, missingWarning]

/-- The notices that log the records. -/
def Notice.logs (rs : List Record) : List Notice := rs.map .log

namespace Notice

@[simp] lemma logs_nil : logs [] = [] := rfl
@[simp] lemma logs_append (xs ys : List Record) : logs (xs ++ ys) = logs xs ++ logs ys :=
  List.map_append

end Notice

namespace Expression

open Number

lemma notices_literal (x : Binary32) : (literal x).notices = Notice.logs x.warnings := by
  unfold literal Binary32.warnings
  cases x.read <;> simp [Notice.logs]

lemma notices_distanceText (x y : Binary32) :
    (distanceText x y).notices = Notice.logs ([x, y].flatMap Binary32.warnings) := by
  unfold distanceText
  rw [Journal.notices_bind, Journal.notices_bind, Journal.notices_pure, notices_literal,
    notices_literal, ← Notice.logs_nil, ← Notice.logs_append, ← Notice.logs_append]
  rfl

lemma notices_discText (radius : Binary32) (smooth : Bool) :
    (discText radius smooth).notices =
      Notice.logs ((ExprCall.radii radius smooth).flatMap Binary32.warnings) := by
  unfold discText ExprCall.radii
  cases smooth with
  | true =>
    rw [if_pos rfl, if_pos rfl, Journal.notices_bind, Journal.notices_bind, Journal.notices_pure,
      notices_literal, notices_literal, ← Notice.logs_nil, ← Notice.logs_append,
      ← Notice.logs_append]
    rfl
  | false =>
    rw [if_neg nofun, if_neg nofun, Journal.notices_bind, Journal.notices_pure, notices_literal,
      ← Notice.logs_nil, ← Notice.logs_append]
    rfl

/-- A call warns of its own numbers, whatever the expression was before. -/
lemma notices_call (e : Expression) (c : ExprCall) :
    (e.call c).notices = Notice.logs (c.numbers.flatMap Binary32.warnings) := by
  cases c with
  | typed type => rfl
  | expression text => rfl
  | circle x y radius smooth =>
    have h : (e.call (.circle x y radius smooth)).notices =
        (distanceText x y).notices ++ ((discText radius smooth).notices ++ []) := rfl
    rw [h, notices_distanceText, notices_discText, List.append_nil, ← Notice.logs_append,
      ← List.flatMap_append, ExprCall.numbers]
  | wave axis frequency speed =>
    simp [call, waveText, ExprCall.numbers, notices_literal]
  | noise scale => simp [call, hashText, ExprCall.numbers, notices_literal]

lemma notices_callAll (e : Expression) (cs : List ExprCall) :
    (e.callAll cs).notices =
      Notice.logs ((cs.flatMap ExprCall.numbers).flatMap Binary32.warnings) := by
  induction cs generalizing e with
  | nil => rfl
  | cons c cs ih =>
    have hcons : (e.callAll (c :: cs)).notices =
        (e.call c).notices ++ ((e.call c).value.callAll cs).notices := rfl
    rw [hcons, notices_call, ih, List.flatMap_cons, List.flatMap_append, Notice.logs_append]

end Expression

namespace ExprSpec

/-- Building an expression and asking it for its value logs its warnings, and nothing else. -/
lemma notices_toValue (s : ExprSpec) (n : NameSupply) :
    s.build.notices ++ (s.build.value.toValue n).notices = Notice.logs s.warnings := by
  have hbuild : s.build.notices = Notice.logs
      ((s.calls.flatMap ExprCall.numbers).flatMap Number.Binary32.warnings) :=
    Expression.notices_callAll _ _
  rw [hbuild, warnings, Notice.logs_append]
  congr 1
  unfold Expression.toValue
  by_cases h : s.Valued
  · obtain ⟨v, hv⟩ := exists_value h
    rw [hv, if_pos h]
    rfl
  · rw [value_none h, if_neg h]
    simp [Expression.missingValue, missingWarning, name_build, Notice.logs]

end ExprSpec

/-! ### What is said of a chain -/

/-- What is logged of a program when it is finished. -/
def Program.record (p : Program) : Record :=
  ⟨.debug, "Fonction de fragment générée:\n" ++ p.source⟩

namespace Step

def warnings (s : Step) : List Record := s.spec?.elim [] ExprSpec.warnings

end Step

namespace Chain

lemma notices_step (c : Chain) (s : Step) :
    (c.step s).notices = Notice.logs s.warnings := by
  cases s with
  | code text => rfl
  | header text => rfl
  | declare type spec =>
    have h : (c.step (.declare type spec)).notices =
        spec.build.notices ++ ((spec.build.value.toValue c.supply).notices ++ [] ++ []) := rfl
    rw [h, List.append_nil, List.append_nil, ExprSpec.notices_toValue]
    rfl
  | assign op spec =>
    have h : (c.step (.assign op spec)).notices =
        spec.build.notices ++ ((spec.build.value.toValue c.supply).notices ++ [] ++ []) := rfl
    rw [h, List.append_nil, List.append_nil, ExprSpec.notices_toValue]
    rfl

lemma notices_run (c : Chain) (steps : List Step) :
    (c.run steps).notices = Notice.logs (steps.flatMap Step.warnings) := by
  induction steps generalizing c with
  | nil => rfl
  | cons s steps ih =>
    have h : (c.run (s :: steps)).notices =
        (c.step s).notices ++ ((c.step s).value.run steps).notices := rfl
    rw [h, notices_step, ih, List.flatMap_cons, Notice.logs_append]

/-- The last notice of a chain: its fault, if there is one, or the text of its program. -/
def lastNotice : Except Fault Program → Notice
  | .error fault => .report fault
  | .ok p => .log p.record

lemma notices_finalize (c : Chain) (color : String) :
    (c.finalize color).notices = [lastNotice (c.finalize color).value] := by
  unfold finalize
  cases c.failure <;> rfl

/-- The colour is built and asked for its value before the chain ends. -/
lemma notices_finish (c : Chain) (color : Color) :
    (c.finish color).notices =
      Notice.logs (color.spec?.elim [] ExprSpec.warnings) ++
        [lastNotice (c.finish color).value] := by
  cases color with
  | text s => exact notices_finalize c s
  | expression spec =>
    have hvalue : (c.finish (.expression spec)).value =
        (c.finalizeWith spec.build.value).value := rfl
    have hnotices : (c.finish (.expression spec)).notices =
        spec.build.notices ++ (c.finalizeWith spec.build.value).notices := rfl
    have hwith : (c.finalizeWith spec.build.value).notices =
        (spec.build.value.toValue c.supply).notices ++
          [lastNotice (c.finalizeWith spec.build.value).value] := by
      -- a colour that fails is reported at once, and the chain is not finished after it
      rw [finalizeWith, Journal.notices_bind, Journal.value_bind]
      rcases (spec.build.value.toValue c.supply).value with ⟨fault | l, supply⟩
      · rfl
      · exact congrArg _ (notices_finalize _ _)
    rw [hvalue, hnotices, hwith, ← List.append_assoc, ExprSpec.notices_toValue]
    rfl

end Chain

namespace Recipe

/-- What is logged of the expressions of a recipe, in the order of their use. -/
def warnings (r : Recipe) : List Record := r.specs.flatMap ExprSpec.warnings

lemma warnings_eq (r : Recipe) :
    r.warnings =
      r.steps.flatMap Step.warnings ++ r.color.spec?.elim [] ExprSpec.warnings := by
  have hsteps (steps : List Step) :
      (steps.filterMap Step.spec?).flatMap ExprSpec.warnings = steps.flatMap Step.warnings := by
    induction steps with
    | nil => rfl
    | cons s steps ih =>
      rw [List.flatMap_cons, ← ih, Step.warnings]
      cases h : s.spec? <;> simp [h]
  rw [warnings, specs, List.flatMap_append, hsteps]
  cases r.color.spec? <;> simp

lemma severity_of_mem_warnings (r : Recipe) : ∀ w ∈ r.warnings, w.severity = .warn := by
  intro w hw
  obtain ⟨s, -, hw⟩ := List.mem_flatMap.mp hw
  exact s.severity_of_mem_warnings w hw

/-- All that is said while a recipe is assembled. -/
theorem notices_assemble (r : Recipe) :
    r.assemble.notices = Notice.logs r.warnings ++ [Chain.lastNotice r.assemble.value] := by
  have h : r.assemble.notices =
      (Chain.empty.run r.steps).notices ++
        ((Chain.empty.run r.steps).value.finish r.color).notices := rfl
  rw [h, Chain.notices_run, Chain.notices_finish, ← List.append_assoc, ← Notice.logs_append,
    ← warnings_eq]
  rfl

end Recipe

/-! ### What is made of it -/

namespace Ledger

variable {η : Type}

/-- Records that are heard are kept if they pass the ceiling, and do nothing else. -/
lemma hearAll_logs (habit : Sink.Habit η) (d : Ledger η) (rs : List Record) :
    d.hearAll habit (Notice.logs rs) =
      { d with records := d.records ++ rs.filter (·.severity.passes d.ceiling) } := by
  induction rs generalizing d with
  | nil => simp
  | cons r rs ih =>
    have hcons : Notice.logs (r :: rs) = .log r :: Notice.logs rs := rfl
    have hlog : d.hear habit (.log r) = d.log r := rfl
    rw [hcons, hearAll_cons, hlog, ih]
    cases h : r.severity.passes d.ceiling <;> simp [log, h]

/-- Every ceiling but that of errors lets warnings through. -/
lemma filter_passes_of_warn {rs : List Record} (h : ∀ r ∈ rs, r.severity = .warn)
    (ceiling : Severity) :
    rs.filter (·.severity.passes ceiling) = if ceiling = .error then [] else rs := by
  have hwarn : Severity.warn.passes ceiling = !decide (ceiling = .error) := by
    cases ceiling <;> rfl
  split
  · next herror =>
    refine List.filter_eq_nil_iff.mpr fun r hr => ?_
    rw [h r hr, hwarn, herror]
    decide
  · next hother =>
    refine List.filter_eq_self.mpr fun r hr => ?_
    rw [h r hr, hwarn, decide_eq_false hother, Bool.not_false]

/-- Warnings that are heard are kept, unless only errors are, and do nothing else. -/
lemma hearAll_warnings (habit : Sink.Habit η) (d : Ledger η) {rs : List Record}
    (h : ∀ r ∈ rs, r.severity = .warn) :
    d.hearAll habit (Notice.logs rs) =
      { d with records := d.records ++ if d.ceiling = .error then [] else rs } := by
  rw [hearAll_logs, filter_passes_of_warn h]

/-- The diagnostics after warnings and the report of one fault. The warnings are kept, unless
only errors are. The sink has recorded the fault once; its handler, if it has one, was called
once for it, and further calls come of what that handler did itself. -/
structure Reported (habit : Sink.Habit η) (d : Ledger η) (warnings : List Record) (fault : Fault)
    (d' : Ledger η) : Prop where
  ceiling : d'.ceiling = d.ceiling
  records : d'.records =
    d.records ++ (if d.ceiling = .error then [] else warnings) ++ [⟨.error, fault.message⟩]
  sink : d'.sink = (d.sink.record habit fault).1
  heard : d'.heard = d.heard ++ (d.sink.record habit fault).2
  called : (d.sink.record habit fault).2.head? = d.sink.handler.map (⟨·, fault, some fault⟩)
  plain : (∀ h, habit h fault = []) →
    d'.sink = { d.sink with last := some fault } ∧
      d'.heard = d.heard ++ (d.sink.handler.map (⟨·, fault, some fault⟩)).toList

lemma reported_hearAll (habit : Sink.Habit η) (d : Ledger η) {rs : List Record}
    (hwarn : ∀ r ∈ rs, r.severity = .warn) (fault : Fault) :
    d.Reported habit rs fault (d.hearAll habit (Notice.logs rs ++ [.report fault])) := by
  -- the warnings come first and leave the sink alone; an error passes every ceiling
  have hlast (e : Ledger η) : e.hearAll habit [.report fault] =
      { e with
        records := e.records ++ [⟨.error, fault.message⟩]
        sink := (e.sink.record habit fault).1
        heard := e.heard ++ (e.sink.record habit fault).2 } := by
    have herror : Severity.error.passes e.ceiling = true := by cases e.ceiling <;> rfl
    simp [hearAll, hear, log, record, herror]
  rw [hearAll_append, hearAll_warnings habit d hwarn, hlast]
  refine ⟨rfl, rfl, rfl, rfl, ?_, fun hquiet => ?_⟩
  · cases h : d.sink.handler <;> simp [Sink.record, Sink.perform, h]
  · cases h : d.sink.handler <;> simp [Sink.record, Sink.perform, h, hquiet]

end Ledger

/-! ### Failure -/

namespace Recipe

/-- The first expression without a value. -/
def firstMissing? (r : Recipe) : Option ExprSpec :=
  r.specs.find? fun s => !s.calls.any ExprCall.setsValue

lemma fault?_eq_firstMissing? (r : Recipe) :
    r.fault? = r.firstMissing?.map fun s => .malformed s.name .value := by
  rw [fault?, firstMissing?]
  induction r.specs with
  | nil => rfl
  | cons s ss ih =>
    rw [List.findSome?_cons, List.find?_cons, ih, ExprSpec.fault?]
    cases h : s.calls.any ExprCall.setsValue <;> simp [ExprSpec.Valued, h]

/-- **Failure of a chain**: it fails exactly when some expression has no call that sets a value,
and then with the first of them, reported once and after a warning of each; when it succeeds,
no more than records are kept of it. -/
theorem assemble_failure (r : Recipe) :
    ((∃ fault, r.assemble.value = .error fault) ↔
        ∃ s ∈ r.specs, ∀ c ∈ s.calls, c.setsValue = false) ∧
      match r.firstMissing? with
      | some s =>
        r.assemble.value = .error (.malformed s.name .value) ∧
          ∀ {η : Type} (habit : Sink.Habit η) (d : Ledger η),
            d.Reported habit r.warnings (.malformed s.name .value)
              (d.hearAll habit r.assemble.notices)
      | none =>
        r.assemble.value = .ok ⟨r.fragment.render⟩ ∧
          ∀ {η : Type} (habit : Sink.Habit η) (d : Ledger η),
            d.hearAll habit r.assemble.notices =
              { d with
                records := d.records ++ (if d.ceiling = .error then [] else r.warnings) ++
                  if d.ceiling = .debug ∨ d.ceiling = .trace then
                    [Program.record ⟨r.fragment.render⟩] else [] } := by
  have hvalue := r.assemble_value
  rw [fault?_eq_firstMissing?] at hvalue
  have hnotices := r.notices_assemble
  have hiff : r.firstMissing?.isSome ↔ ∃ s ∈ r.specs, ∀ c ∈ s.calls, c.setsValue = false := by
    simp [firstMissing?]
  cases h : r.firstMissing? with
  | some s =>
    rw [h] at hvalue
    replace hvalue : r.assemble.value = .error (.malformed s.name .value) := hvalue
    refine ⟨⟨fun _ => hiff.mp (by rw [h]; rfl), fun _ => ⟨_, hvalue⟩⟩, hvalue, fun habit d => ?_⟩
    rw [hnotices, hvalue]
    exact d.reported_hearAll habit r.severity_of_mem_warnings _
  | none =>
    rw [h] at hvalue
    replace hvalue : r.assemble.value = .ok ⟨r.fragment.render⟩ := hvalue
    refine ⟨⟨fun ⟨fault, hfault⟩ => ?_, fun hs => ?_⟩, hvalue, fun habit d => ?_⟩
    · rw [hvalue] at hfault
      cases hfault
    · rw [← hiff, h] at hs
      cases hs
    · have hall : r.assemble.notices =
          Notice.logs (r.warnings ++ [Program.record ⟨r.fragment.render⟩]) := by
        rw [hnotices, hvalue, Notice.logs_append]
        rfl
      have hrecord : [Program.record ⟨r.fragment.render⟩].filter (·.severity.passes d.ceiling) =
          if d.ceiling = .debug ∨ d.ceiling = .trace then
            [Program.record ⟨r.fragment.render⟩] else [] := by
        cases d.ceiling <;> rfl
      rw [hall, Ledger.hearAll_logs, List.filter_append,
        Ledger.filter_passes_of_warn r.severity_of_mem_warnings, hrecord, List.append_assoc]

example :
    (assemble ⟨[.declare .float ⟨"a", [.typed .float]⟩, .assign .add ⟨"b", []⟩],
        .expression ⟨"c", []⟩⟩).notices =
      [.log (ExprSpec.missingWarning ⟨"a", []⟩), .log (ExprSpec.missingWarning ⟨"b", []⟩),
        .log (ExprSpec.missingWarning ⟨"c", []⟩), .report (.malformed "a" .value)] := by decide

end Recipe

end ShaderLoom
