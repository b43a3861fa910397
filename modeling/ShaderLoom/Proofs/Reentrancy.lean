import Mathlib.Data.List.Basic
import Mathlib.Tactic.Lemma
import ShaderLoom.Diagnostics.Sink

/-!
An error sink whose handlers act on it while they are called.

Acts are nested in each other, but they happen one after the other. The past of a sink lists what
happened to it in the order of time: a record stands where it started, before all that its handler
did in the call. Everything about the sink is read off its past, and the call of a record off
what stands before the record.
-/

namespace ShaderLoom

/-! ### The past of a sink -/

/-- Something that happens to a sink. A record happens when it starts. -/
inductive Moment (η : Type) where
  | recorded (fault : Fault)
  | installed (handler : η)
  | cleared

namespace Moment

variable {η : Type}

def fault? : Moment η → Option Fault
  | recorded fault => some fault
  | _ => none

/-- What a moment does to the handler, if it does anything to it. -/
def change? : Moment η → Option (Option η)
  | recorded _ => none
  | installed handler => some (some handler)
  | cleared => some none

/-- The fault of the record that started last. -/
def lastFault (past : List (Moment η)) : Option Fault := (past.filterMap fault?).getLast?

/-- The handler that was installed last, unless it was cleared since. -/
def inForce (past : List (Moment η)) : Option η := (past.filterMap change?).getLast?.join

/-- What a sink with this past holds. -/
def state (past : List (Moment η)) : Sink η := ⟨lastFault past, inForce past⟩

/-- The call that a moment gives rise to: a record calls the handler in force, and the sink then
shows the fault of that record. -/
def call? (past : List (Moment η)) : Moment η → Option (Heard η)
  | recorded fault => (inForce past).map (⟨·, fault, some fault⟩)
  | _ => none

/-- The calls that moments give rise to behind a past. -/
def callsFrom (past : List (Moment η)) : List (Moment η) → List (Heard η)
  | [] => []
  | m :: later => (call? past m).toList ++ callsFrom (past ++ [m]) later

def calls (past : List (Moment η)) : List (Heard η) := callsFrom [] past

lemma lastFault_eq_none {past : List (Moment η)} :
    lastFault past = none ↔ ∀ m ∈ past, ∀ fault, m ≠ .recorded fault := by
  rw [lastFault, List.getLast?_eq_none_iff, List.filterMap_eq_nil_iff]
  refine forall₂_congr fun m _ => ?_
  cases m <;> simp [fault?]

lemma state_recorded (past : List (Moment η)) (fault : Fault) :
    state (past ++ [.recorded fault]) = { state past with last := some fault } := by
  simp [state, lastFault, inForce, fault?, change?]

lemma state_installed (past : List (Moment η)) (handler : η) :
    state (past ++ [.installed handler]) = { state past with handler := some handler } := by
  simp [state, lastFault, inForce, fault?, change?]

lemma state_cleared (past : List (Moment η)) :
    state (past ++ [.cleared]) = { state past with handler := none } := by
  simp [state, lastFault, inForce, fault?, change?]

lemma callsFrom_append (past earlier later : List (Moment η)) :
    callsFrom past (earlier ++ later) =
      callsFrom past earlier ++ callsFrom (past ++ earlier) later := by
  induction earlier generalizing past with
  | nil => simp [callsFrom]
  | cons m earlier ih => simp [callsFrom, ih]

lemma calls_snoc (past : List (Moment η)) (m : Moment η) :
    calls (past ++ [m]) = calls past ++ (call? past m).toList := by
  rw [calls, callsFrom_append]
  simp [calls, callsFrom]

end Moment

/-! ### Acts in the order of time -/

namespace Act

open Moment

variable {η : Type}

mutual

/-- The past with an act added to it. What a handler does in a call comes after the record. -/
def after (past : List (Moment η)) : Act η → List (Moment η)
  | .record fault inside =>
    match inForce past with
    | none => past ++ [.recorded fault]
    | some _ => afterAll (past ++ [.recorded fault]) inside
  | .install handler => past ++ [.installed handler]
  | .clear => past ++ [.cleared]

def afterAll (past : List (Moment η)) : List (Act η) → List (Moment η)
  | [] => past
  | a :: rest => afterAll (after past a) rest

end

def isRecord : Act η → Bool
  | .record _ _ => true
  | _ => false

mutual

/-- What happened stays in the past. -/
lemma prefix_after (past : List (Moment η)) (a : Act η) : past <+: a.after past := by
  match a with
  | .install handler => exact List.prefix_append _ _
  | .clear => exact List.prefix_append _ _
  | .record fault inside =>
    rw [after]
    split
    · exact List.prefix_append _ _
    · exact (List.prefix_append _ _).trans (prefix_afterAll _ inside)

lemma prefix_afterAll (past : List (Moment η)) (acts : List (Act η)) :
    past <+: afterAll past acts := by
  match acts with
  | [] => exact List.prefix_refl past
  | a :: rest => exact (prefix_after past a).trans (prefix_afterAll (a.after past) rest)

end

/-- A record is in the past once it has started, whether it is heard or not. -/
lemma recorded_mem_after (past : List (Moment η)) (fault : Fault) (inside : List (Act η)) :
    .recorded fault ∈ (Act.record fault inside).after past := by
  have hmem : .recorded fault ∈ past ++ [.recorded fault] := by simp
  rw [after]
  split
  · exact hmem
  · exact (prefix_afterAll _ inside).subset hmem

lemma lastFault_after (past : List (Moment η)) (a : Act η) :
    lastFault (a.after past) = none ↔ lastFault past = none ∧ a.isRecord = false := by
  cases a with
  | install handler =>
    have hlast := congrArg Sink.last (state_installed past handler)
    exact ⟨fun h => ⟨hlast.symm.trans h, rfl⟩, fun h => hlast.trans h.1⟩
  | clear =>
    have hlast := congrArg Sink.last (state_cleared past)
    exact ⟨fun h => ⟨hlast.symm.trans h, rfl⟩, fun h => hlast.trans h.1⟩
  | record fault inside =>
    refine ⟨fun h => ?_, fun h => absurd h.2 nofun⟩
    exact absurd rfl (lastFault_eq_none.mp h _ (recorded_mem_after past fault inside) fault)

lemma lastFault_afterAll (past : List (Moment η)) (acts : List (Act η)) :
    lastFault (afterAll past acts) = none ↔
      lastFault past = none ∧ ∀ a ∈ acts, a.isRecord = false := by
  induction acts generalizing past with
  | nil => simp [afterAll]
  | cons a rest ih => rw [afterAll, ih, lastFault_after, List.forall_mem_cons, and_assoc]

end Act

namespace Sink

open Moment

variable {η : Type}

/-- Nobody hears of the record. -/
lemma perform_unheard {s : Sink η} (hs : s.handler = none) (fault : Fault)
    (inside : List (Act η)) :
    s.perform (.record fault inside) = ({ s with last := some fault }, []) := by
  simp [perform, hs]

/-- One handler hears of the record and then does what it does. -/
lemma perform_heard {s : Sink η} {handler : η} (hs : s.handler = some handler) (fault : Fault)
    (inside : List (Act η)) :
    s.perform (.record fault inside) =
      (({ s with last := some fault }.performAll inside).1,
        ⟨handler, fault, some fault⟩ :: ({ s with last := some fault }.performAll inside).2) := by
  simp [perform, hs]

mutual

/-- An act leaves the sink in the state of the past with the act, and makes its calls. -/
lemma perform_state (past : List (Moment η)) (a : Act η) :
    ((state past).perform a).1 = state (a.after past) ∧
      calls (a.after past) = calls past ++ ((state past).perform a).2 := by
  match a with
  | .install handler =>
    rw [perform_install, Act.after, state_installed, calls_snoc]
    exact ⟨rfl, rfl⟩
  | .clear =>
    rw [perform_clear, Act.after, state_cleared, calls_snoc]
    exact ⟨rfl, rfl⟩
  | .record fault inside =>
    have hcalls := calls_snoc past (.recorded fault)
    cases hforce : inForce past with
    | none =>
      have hperform := perform_unheard (s := state past) hforce fault inside
      rw [call?, hforce] at hcalls
      rw [hperform, Act.after, hforce, state_recorded]
      exact ⟨rfl, hcalls⟩
    | some handler =>
      -- what the handler does begins with the record in the past
      have hperform := perform_heard (s := state past) hforce fault inside
      obtain ⟨hsink, hinside⟩ := performAll_state (past ++ [.recorded fault]) inside
      rw [state_recorded] at hsink hinside
      rw [call?, hforce] at hcalls
      rw [hperform, Act.after, hforce]
      refine ⟨hsink, ?_⟩
      rw [hinside, hcalls, List.append_assoc]
      rfl

lemma performAll_state (past : List (Moment η)) (acts : List (Act η)) :
    ((state past).performAll acts).1 = state (Act.afterAll past acts) ∧
      calls (Act.afterAll past acts) = calls past ++ ((state past).performAll acts).2 := by
  match acts with
  | [] => simp [Act.afterAll]
  | a :: rest =>
    obtain ⟨hfirst, hcalls⟩ := perform_state past a
    obtain ⟨hrest, hlater⟩ := performAll_state (a.after past) rest
    rw [performAll_cons, hfirst, Act.afterAll, hlater, hcalls]
    exact ⟨hrest, List.append_assoc _ _ _⟩

end

/-- **Re-entrancy**: however acts are nested, the sink holds the fault of the record that started
last, and each record makes one call, of the handler that was in force when it started, or none
if there was none. What the handler finds is the fault it is called for, and what it does to the
handler counts for later records only. -/
theorem reentrant_calls (acts : List (Act η)) :
    let past := Act.afterAll [] acts
    let r := empty.performAll acts
    r.1.last = lastFault past ∧ r.1.handler = inForce past ∧ r.2 = calls past ∧
      (∀ before fault later, past = before ++ .recorded fault :: later →
        r.2 = calls before ++ ((inForce before).map (⟨·, fault, some fault⟩)).toList ++
          callsFrom (before ++ [.recorded fault]) later) ∧
      (r.1.last = none ↔ ∀ a ∈ acts, a.isRecord = false) ∧
      ∀ s : Sink η, (s.perform .clear).1.last = s.last ∧
        ∀ handler, (s.perform (.install handler)).1.last = s.last := by
  intro past r
  obtain ⟨hsink, hcalls⟩ := performAll_state [] acts
  have hstate : r.1 = state past := hsink
  have hheard : r.2 = calls past := hcalls.symm
  have hlast : r.1.last = lastFault past := by rw [hstate]; rfl
  have hforce : r.1.handler = inForce past := by rw [hstate]; rfl
  refine ⟨hlast, hforce, hheard, ?_, ?_, fun s => ⟨?_, fun handler => ?_⟩⟩
  · intro before fault later hpast
    rw [hheard, hpast, calls, callsFrom_append, List.append_assoc]
    rfl
  · have hnone := Act.lastFault_afterAll [] acts
    rw [hlast]
    exact hnone.trans ⟨And.right, fun h => ⟨rfl, h⟩⟩
  · rw [perform_clear]
  · rw [perform_install]

/-- A handler that clears itself in a call, records twice, and installs another in between. -/
def restless : List (Act Nat) :=
  let fault (text : String) : Fault := .config (.stated text)
  [.install 1,
    .record (fault "a") [.clear, .record (fault "b") [], .install 2, .record (fault "c") []],
    .record (fault "d") []]

theorem reentrant_calls_restless :
    let fault (text : String) : Fault := .config (.stated text)
    let r := empty.performAll restless
    r.1.last = some (fault "d") ∧ r.1.handler = some 2 ∧
      r.2 = [⟨1, fault "a", some (fault "a")⟩, ⟨2, fault "c", some (fault "c")⟩,
        ⟨2, fault "d", some (fault "d")⟩] := by
  intro fault r
  obtain ⟨hlast, hhandler, -, hrecord, -⟩ := reentrant_calls restless
  have hd := hrecord [.installed 1, .recorded (fault "a"), .cleared, .recorded (fault "b"),
    .installed 2, .recorded (fault "c")] (fault "d") [] rfl
  exact ⟨hlast, hhandler, hd⟩

end Sink

end ShaderLoom
