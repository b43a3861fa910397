import Mathlib.Data.List.Basic
import ShaderLoom.Diagnostics.Ledger
import ShaderLoom.Frame.Playback
import ShaderLoom.Proofs.Operations

/-!
What compilation comes to over a history: the requests that reach the backend, and how the
phase, the handle, the fault and the events follow from them.

All of it is told by the list of requests. The last one decides the stage, and only the last
one can be an accepted one, because nothing is asked after it.
-/

namespace ShaderLoom

/-- A module that the backend is asked for, and the fault with which it refuses it, if it
does. -/
structure Request where
  source : String
  fault : Option Fault

/-- The requests up to the first one that is accepted. -/
def Request.untilAccepted : List Request → List Request
  | [] => []
  | r :: rs => if r.fault.isNone then [r] else r :: untilAccepted rs

/-- The stage that the last request leads to. -/
def Stage.after (asked : List Request) : Stage :=
  match asked.getLast? with
  | none => .untried
  | some ⟨_, some fault⟩ => .failed fault
  | some ⟨_, none⟩ => .ready (asked.length - 1)

namespace Stage

@[simp] lemma after_nil : after [] = .untried := rfl

@[simp] lemma after_refused (asked : List Request) (source : String) (fault : Fault) :
    after (asked ++ [⟨source, some fault⟩]) = .failed fault := by
  simp [after]

@[simp] lemma after_accepted (asked : List Request) (source : String) :
    after (asked ++ [⟨source, none⟩]) = .ready asked.length := by
  simp [after]

lemma fault?_after (asked : List Request) :
    (after asked).fault? = asked.getLast?.bind Request.fault := by
  rcases asked.eq_nil_or_concat' with rfl | ⟨asked, ⟨source, _ | fault⟩, rfl⟩ <;>
    simp [Stage.fault?]

lemma phase_after_eq_untried (asked : List Request) :
    (after asked).phase = .untried ↔ asked = [] := by
  rcases asked.eq_nil_or_concat' with rfl | ⟨asked, ⟨source, _ | fault⟩, rfl⟩ <;>
    simp [Stage.phase]

/-- When all requests but the last are refused, the handle is the number of the accepted one. -/
lemma handle?_after {asked : List Request} (h : ∀ r ∈ asked.dropLast, r.fault.isSome) (n : Nat) :
    (after asked).handle? = some n ↔ ∃ source, asked[n]? = some ⟨source, none⟩ := by
  rcases asked.eq_nil_or_concat' with rfl | ⟨asked, last, rfl⟩
  · simp [Stage.handle?]
  · rw [List.dropLast_concat] at h
    have hearlier (source : String) : asked[n]? ≠ some ⟨source, none⟩ := fun hn => by
      simpa using h _ (List.mem_of_getElem? hn)
    rcases Nat.lt_trichotomy n asked.length with hn | rfl | hn
    · rw [List.getElem?_append_left hn]
      obtain ⟨source, _ | fault⟩ := last <;> simp [Stage.handle?, hearlier]
      omega
    · obtain ⟨source, _ | fault⟩ := last <;> simp [Stage.handle?]
    · have hnone : (asked ++ [last])[n]? = none := List.getElem?_eq_none (by simp; omega)
      have hne : asked.length ≠ n := Nat.ne_of_lt hn
      rw [hnone]
      obtain ⟨source, _ | fault⟩ := last <;> simp [Stage.handle?, hne]

end Stage

/-! ### What is asked -/

/-- What a compilation asks for, if it asks at all: the vertex stage, a newline and the
program. -/
def Operation.request? {τ : Type} : Operation τ → Option Request
  | .compile program backend =>
    let source := Program.vertexStage ++ "\n" ++ program.source
    some ⟨source, backend source⟩
  | _ => none

lemma Operation.request?_compile {τ : Type} (program : Program) (backend : Backend) :
    (compile program backend : Operation τ).request? =
      some ⟨program.moduleText, backend program.moduleText⟩ := rfl

namespace Pipeline

variable {τ : Type} [Timescale τ]

/-- What an operation asks of the backend. -/
def asksFor (p : Pipeline τ) (op : Operation τ) : List Request :=
  if p.phase = .ready then [] else op.request?.toList

/-- What a history asks of the backend. -/
def asked (p : Pipeline τ) : List (Operation τ) → List Request
  | [] => []
  | op :: ops => p.asksFor op ++ asked (p.step op).1 ops

/-- An operation that compiles nothing leaves alone what compilation has come to, and draws
with nothing but the compiled program. -/
lemma step_uncompiled (p : Pipeline τ) {op : Operation τ} (hop : op.request? = none) :
    (p.step op).1.phase = p.phase ∧ (p.step op).1.handle = p.handle ∧
      (p.step op).1.fault = p.fault ∧ (p.step op).1.requests = p.requests ∧
      (p.step op).2.filterMap Event.request? = [] ∧
      (p.step op).2.filterMap Event.refusal? = [] ∧
      (p.step op).2.countP Event.makesUniforms = 0 ∧
      ∀ frame ∈ (p.step op).2.filterMap Event.frame?, p.handle = some frame.handle := by
  cases op with
  | compile program backend => cases hop
  | tick now =>
    rcases p.tick_cases now with ⟨rates, h⟩ | ⟨handle, -, hh, -, h⟩ <;> rw [step, h]
    · simp
    · simp [present, hh, frameAt]
  | attach => rcases p.attach_cases with ⟨-, h⟩ | ⟨-, h⟩ <;> rw [step, h] <;> simp
  | detach => rcases p.detach_cases with ⟨-, h⟩ | ⟨-, h⟩ <;> rw [step, h] <;> simp
  | installTicks source =>
    rcases p.installTicks_cases source with ⟨-, h⟩ | ⟨-, h⟩ <;> rw [step, h] <;> simp
  | drop => rcases p.detach_cases with ⟨-, h⟩ | ⟨-, h⟩ <;> rw [step, h] <;> simp
  | _ => simp [step]

end Pipeline

/-! ### Where compilation stands -/

namespace Pipeline

section

variable {τ : Type} [Timescale τ]

/-- The phase, the handle and the fault of the pipeline are those of the stage. -/
structure Stands (p : Pipeline τ) (s : Stage) : Prop where
  phase : p.phase = s.phase
  handle : p.handle = s.handle?
  fault : p.fault = s.fault?

/-- The events of a history that asked for `asked` and left the pipeline as it is. -/
structure Records (p : Pipeline τ) (asked : List Request) (events : List (Event τ)) : Prop where
  once : ∀ r ∈ asked.dropLast, r.fault.isSome
  requested : events.filterMap Event.request? = asked.map Request.source
  refused : events.filterMap Event.refusal? = asked.filterMap Request.fault
  drawn : ∀ frame ∈ events.filterMap Event.frame?, p.handle = some frame.handle
  uniforms : events.countP Event.makesUniforms = 1

/-- What every operation preserves. -/
structure Tracks (p : Pipeline τ) (asked : List Request) (events : List (Event τ)) : Prop
    extends Records p asked events where
  stands : p.Stands (.after asked)
  requests : p.requests = asked.length

variable {p : Pipeline τ} {asked : List Request} {events : List (Event τ)}

/-- Before the pipeline is ready, everything that was asked for was refused. -/
lemma Tracks.refused_of_not_ready (h : p.Tracks asked events) (hp : p.phase ≠ .ready) :
    ∀ r ∈ asked, r.fault.isSome := by
  have hphase := h.stands.phase
  have honce := h.once
  rcases asked.eq_nil_or_concat' with rfl | ⟨asked, ⟨source, _ | fault⟩, rfl⟩
  · simp
  · rw [Stage.after_accepted] at hphase
    exact absurd hphase hp
  · rw [List.dropLast_concat] at honce
    simpa [or_imp, forall_and] using honce

/-- Before the pipeline is ready, nothing was drawn. -/
lemma Tracks.undrawn_of_not_ready (h : p.Tracks asked events) (hp : p.phase ≠ .ready) :
    events.filterMap Event.frame? = [] := by
  have hhandle : p.handle = none := by
    rw [h.stands.handle]
    rw [h.stands.phase] at hp
    cases hs : Stage.after asked with
    | ready handle => exact absurd (by rw [hs]; rfl) hp
    | _ => rfl
  refine List.eq_nil_iff_forall_not_mem.mpr fun frame hframe => ?_
  simpa [hhandle] using h.drawn frame hframe

/-- One request more, of a pipeline that is not ready. -/
lemma Tracks.ask (h : p.Tracks asked events) (hp : p.phase ≠ .ready) (r : Request)
    {q : Pipeline τ} {es : List (Event τ)} (hq : q.Stands (.after (asked ++ [r])))
    (hcount : q.requests = p.requests + 1) (hrequest : es.filterMap Event.request? = [r.source])
    (hrefusal : es.filterMap Event.refusal? = r.fault.toList)
    (hframe : es.filterMap Event.frame? = []) (hmade : es.countP Event.makesUniforms = 0) :
    q.Tracks (asked ++ [r]) (events ++ es) where
  once := by rw [List.dropLast_concat]; exact h.refused_of_not_ready hp
  requested := by simp [h.requested, hrequest]
  refused := by cases hr : r.fault <;> simp [h.refused, hrefusal, hr]
  drawn := by simp [List.filterMap_append, h.undrawn_of_not_ready hp, hframe]
  uniforms := by rw [List.countP_append, h.uniforms, hmade]
  stands := hq
  requests := by simp [hcount, h.requests]

/-- A compilation is one request more, or none if the pipeline is ready. -/
lemma Tracks.compile (h : p.Tracks asked events) (program : Program) (backend : Backend) :
    (p.compile program backend).1.Tracks (asked ++ p.asksFor (.compile program backend))
      (events ++ (p.compile program backend).2) := by
  rcases p.compile_cases program backend with ⟨hp, hc⟩ | ⟨hp, hb, hc⟩ | ⟨fault, hp, hb, hc⟩
  · have hasked : p.asksFor (.compile program backend) = [] := by simp [asksFor, hp]
    rw [hasked, List.append_nil, hc]
    exact ⟨⟨h.once, by simp [h.requested], by simp [h.refused], by simpa using h.drawn,
      by simp [h.uniforms]⟩, h.stands, h.requests⟩
  · have hasked : p.asksFor (.compile program backend) = [⟨program.moduleText, none⟩] := by
      simp [asksFor, hp, Operation.request?_compile, hb]
    have hhandle : some p.requests = some asked.length := congrArg some h.requests
    rw [hasked, hc]
    exact h.ask hp _ (by rw [Stage.after_accepted]; exact ⟨rfl, hhandle, rfl⟩) rfl rfl rfl rfl rfl
  · have hasked : p.asksFor (.compile program backend) = [⟨program.moduleText, some fault⟩] := by
      simp [asksFor, hp, Operation.request?_compile, hb]
    rw [hasked, hc]
    exact h.ask hp _ (by rw [Stage.after_refused]; exact ⟨rfl, rfl, rfl⟩) rfl rfl rfl rfl rfl

end

variable {τ : Type} [Timescale τ]

lemma tracks_make (surface : Surface) (rate : UInt32) (now : τ) :
    (make surface rate now).Tracks [] (makeEvents rate) := by
  have hevents : makeEvents (τ := τ) rate = [.rateRaised, .uniformsMade] ∨
      makeEvents (τ := τ) rate = [.uniformsMade] := by
    unfold makeEvents
    split
    · exact .inl rfl
    · exact .inr rfl
  refine ⟨⟨by simp, ?_, ?_, ?_, ?_⟩, ⟨rfl, rfl, rfl⟩, rfl⟩ <;>
    rcases hevents with h | h <;> simp [h]

variable {p : Pipeline τ} {asked : List Request} {events : List (Event τ)}

lemma Tracks.keep (h : p.Tracks asked events) {op : Operation τ} (hop : op.request? = none) :
    (p.step op).1.Tracks asked (events ++ (p.step op).2) := by
  obtain ⟨hphase, hhandle, hfault, hcount, hrequest, hrefusal, hmade, hdrawn⟩ :=
    p.step_uncompiled hop
  refine ⟨⟨h.once, ?_, ?_, ?_, ?_⟩, ⟨?_, ?_, ?_⟩, ?_⟩
  · simp [h.requested, hrequest]
  · simp [h.refused, hrefusal]
  · intro frame hframe
    rw [List.filterMap_append, List.mem_append] at hframe
    rw [hhandle]
    exact hframe.elim (h.drawn frame) (hdrawn frame)
  · rw [List.countP_append, h.uniforms, hmade]
  · rw [hphase, h.stands.phase]
  · rw [hhandle, h.stands.handle]
  · rw [hfault, h.stands.fault]
  · rw [hcount, h.requests]

/-- Every operation keeps pipeline and events in step with what was asked. -/
theorem Tracks.step (h : p.Tracks asked events) (op : Operation τ) :
    (p.step op).1.Tracks (asked ++ p.asksFor op) (events ++ (p.step op).2) := by
  cases hop : op.request? with
  | none => simpa [asksFor, hop] using h.keep hop
  | some r =>
    cases op with
    | compile program backend => exact h.compile program backend
    | _ => cases hop

theorem Tracks.run (h : p.Tracks asked events) (ops : List (Operation τ)) :
    (p.run ops).1.Tracks (asked ++ p.asked ops) (events ++ (p.run ops).2) := by
  induction ops generalizing p asked events with
  | nil => simpa [Pipeline.asked] using h
  | cons op ops ih => simpa [Pipeline.asked] using ih (h.step op)

/-- What is asked does not depend on anything but the compilations: it is the requests of the
history up to the first one that is accepted. -/
theorem asked_eq (p : Pipeline τ) (ops : List (Operation τ)) :
    p.asked ops =
      if p.phase = .ready then []
      else Request.untilAccepted (ops.filterMap Operation.request?) := by
  induction ops generalizing p with
  | nil => simp [Pipeline.asked, Request.untilAccepted]
  | cons op ops ih =>
    rw [Pipeline.asked, ih]
    cases hop : op.request? with
    | none => simp [asksFor, hop, (p.step_uncompiled hop).1]
    | some r =>
      cases op with
      | compile program backend =>
        cases hop
        rcases p.compile_cases program backend with ⟨hp, hc⟩ | ⟨hp, hb, hc⟩ | ⟨fault, hp, hb, hc⟩
        · simp [asksFor, Pipeline.step, hp, hc]
        · simp [asksFor, Pipeline.step, hp, hc, hb, Operation.request?_compile,
            Request.untilAccepted]
        · simp [asksFor, Pipeline.step, hp, hc, hb, Operation.request?_compile,
            Request.untilAccepted]
      | _ => cases hop

end Pipeline

/-! ### What is reported -/

/-- The fault that a notice reports. -/
@[simp] def Notice.report? : Notice → Option Fault
  | report fault => some fault
  | _ => none

/-- Nothing is reported but refusals. -/
lemma Event.reports_notices (events : List (Event Float)) :
    (events.flatMap Event.notices).filterMap Notice.report? =
      events.filterMap Event.refusal? := by
  induction events with
  | nil => rfl
  | cons e es ih =>
    rw [List.flatMap_cons, List.filterMap_append, ih]
    cases e <;> rfl

/-- The sink records what is reported, one fault after the other. -/
lemma Ledger.sink_hearAll {η : Type} (habit : Sink.Habit η) (d : Ledger η) (ns : List Notice) :
    (d.hearAll habit ns).sink =
      (ns.filterMap Notice.report?).foldl (fun s fault => (s.record habit fault).1) d.sink := by
  have hlog (d : Ledger η) (r : Record) : (d.log r).sink = d.sink := by
    unfold Ledger.log
    split <;> rfl
  induction ns generalizing d with
  | nil => rfl
  | cons n ns ih =>
    rw [hearAll_cons, ih]
    cases n with
    | log r => rw [hear, hlog, List.filterMap_cons_none rfl]
    | report fault =>
      have hcons : (Notice.report fault :: ns).filterMap Notice.report? =
          fault :: ns.filterMap Notice.report? := rfl
      rw [hcons, List.foldl_cons, hear, record, hlog]

/-! ### The lifecycle -/

/-- A pipeline after a history of events in which the backend was asked for `asked`. -/
structure Pipeline.Lifecycle (p : Pipeline Float) (asked : List Request)
    (events : List (Event Float)) : Prop extends p.Records asked events where
  settled : p.phase ≠ .compiling
  ready_iff : p.phase = .ready ↔ p.handle.isSome
  failed_iff : p.phase = .failed ↔ p.fault.isSome
  untried_iff : p.phase = .untried ↔ asked = []
  fault_eq : p.fault = asked.getLast?.bind Request.fault
  handle_iff : ∀ n, p.handle = some n ↔ ∃ source, asked[n]? = some ⟨source, none⟩
  reported : (events.flatMap Event.notices).filterMap Notice.report? =
    asked.filterMap Request.fault
  recorded : ∀ {η : Type} (habit : Sink.Habit η) (d : Ledger η),
    (d.hearAll habit (events.flatMap Event.notices)).sink =
      (asked.filterMap Request.fault).foldl (fun s fault => (s.record habit fault).1) d.sink

namespace Pipeline

lemma Tracks.lifecycle {p : Pipeline Float} {asked : List Request} {events : List (Event Float)}
    (h : p.Tracks asked events) : p.Lifecycle asked events where
  toRecords := h.toRecords
  settled := by rw [h.stands.phase]; cases Stage.after asked <;> simp [Stage.phase]
  ready_iff := by
    rw [h.stands.phase, h.stands.handle]
    cases Stage.after asked <;> simp [Stage.phase, Stage.handle?]
  failed_iff := by
    rw [h.stands.phase, h.stands.fault]
    cases Stage.after asked <;> simp [Stage.phase, Stage.fault?]
  untried_iff := by rw [h.stands.phase, Stage.phase_after_eq_untried]
  fault_eq := by rw [h.stands.fault, Stage.fault?_after]
  handle_iff n := by rw [h.stands.handle, Stage.handle?_after h.once]
  reported := by rw [Event.reports_notices, h.refused]
  recorded habit d := by rw [Ledger.sink_hearAll, Event.reports_notices, h.refused]

/-- **Compile once**: whatever happens to a pipeline, its phase, handle and fault are what the
requests to the backend came to, each compilation before the first accepted one is a request,
and no later one is. -/
theorem compile_once (surface : Surface) (rate : UInt32) (start : Float)
    (ops : List (Operation Float)) :
    let p := make surface rate start
    (p.run ops).1.Lifecycle (p.asked ops) (makeEvents rate ++ (p.run ops).2) ∧
      p.asked ops = Request.untilAccepted (ops.filterMap Operation.request?) := by
  intro p
  exact ⟨((tracks_make surface rate start).run ops).lifecycle, by rw [asked_eq, if_neg nofun]⟩

end Pipeline

end ShaderLoom
