import ShaderLoom.Proofs.Compilation
import ShaderLoom.Proofs.TickSources

/-!
Compilation and attachment do not depend on each other.

What compilation has come to is four fields of the pipeline. A compilation reads and writes these
alone, and writes them from the answer of the backend; what attaches, detaches or exchanges
something writes none of them and reads none. So the two commute, and over a history either is
told by its own operations.
-/

namespace ShaderLoom

/-- What compilation has come to. -/
structure Progress where
  phase : Phase
  handle : Option Nat
  fault : Option Fault
  requests : Nat
  deriving DecidableEq, Repr

namespace Progress

/-- What one request more makes of it. Nothing is asked of a program that is ready. -/
def ask (x : Progress) (r : Request) : Progress :=
  if x.phase = .ready then x
  else
    match r.fault with
    | none => ⟨.ready, some x.requests, none, x.requests + 1⟩
    | some fault => ⟨.failed, none, some fault, x.requests + 1⟩

variable {x : Progress}

lemma ask_ready (h : x.phase = .ready) (r : Request) : x.ask r = x := if_pos h

lemma ask_accepted (h : x.phase ≠ .ready) (source : String) :
    x.ask ⟨source, none⟩ = ⟨.ready, some x.requests, none, x.requests + 1⟩ := if_neg h

lemma ask_refused (h : x.phase ≠ .ready) (source : String) (fault : Fault) :
    x.ask ⟨source, some fault⟩ = ⟨.failed, none, some fault, x.requests + 1⟩ := if_neg h

end Progress

namespace Operation

variable {τ : Type}

/-- Neither a tick nor a compilation. -/
def isOutward : Operation τ → Bool
  | .tick _ => false
  | .compile _ _ => false
  | _ => true

/-- Whether the pipeline is attached after the operation, if that is for the operation to say. -/
def attaches? : Operation τ → Option Bool
  | .attach => some true
  | .detach => some false
  | .drop => some false
  | _ => none

lemma request?_of_isOutward {op : Operation τ} (hop : op.isOutward = true) :
    op.request? = none := by
  cases op with
  | compile program backend => cases hop
  | _ => rfl

end Operation

namespace Pipeline

/-! ### One compilation -/

variable {τ : Type} [Timescale τ]

def progress (p : Pipeline τ) : Progress := ⟨p.phase, p.handle, p.fault, p.requests⟩

/-- The pipeline when compilation has come to something else. -/
def withProgress (p : Pipeline τ) (x : Progress) : Pipeline τ :=
  { p with phase := x.phase, handle := x.handle, fault := x.fault, requests := x.requests }

/-- What happens when a request is to be made. -/
def requestEvents (p : Pipeline τ) (r : Request) : List (Event τ) :=
  if p.phase = .ready then [.ignored]
  else
    match r.fault with
    | none => [.requested r.source, .compiled p.rate]
    | some fault => [.requested r.source, .refused fault]

/-- A compilation changes nothing but what compilation has come to. -/
lemma compile_eq (p : Pipeline τ) (program : Program) (backend : Backend) {r : Request}
    (hr : r = ⟨program.moduleText, backend program.moduleText⟩) :
    p.compile program backend = (p.withProgress (p.progress.ask r), p.requestEvents r) := by
  rcases p.compile_cases program backend with ⟨hp, hc⟩ | ⟨hp, hb, hc⟩ | ⟨fault, hp, hb, hc⟩
  · rw [hc, Progress.ask_ready (x := p.progress) hp, requestEvents, if_pos hp]
    rfl
  · rw [hb] at hr
    rw [hc, hr, Progress.ask_accepted (x := p.progress) hp, requestEvents, if_neg hp]
    rfl
  · rw [hb] at hr
    rw [hc, hr, Progress.ask_refused (x := p.progress) hp, requestEvents, if_neg hp]
    rfl

/-- Pipelines in which compilation has come to the same compile alike. -/
lemma compile_of_progress_eq {p q : Pipeline τ} (hprogress : q.progress = p.progress)
    (hrate : q.rate = p.rate) (program : Program) (backend : Backend) :
    ∃ x events, p.compile program backend = (p.withProgress x, events) ∧
      q.compile program backend = (q.withProgress x, events) := by
  refine ⟨_, _, p.compile_eq program backend rfl, ?_⟩
  have hphase : q.phase = p.phase := congrArg Progress.phase hprogress
  rw [q.compile_eq program backend rfl, hprogress, requestEvents, requestEvents, hphase, hrate]

lemma attach_withProgress (p : Pipeline τ) (x : Progress) :
    (p.withProgress x).attach = (p.attach.1.withProgress x, p.attach.2) := by
  cases hon : p.isAttached <;> simp [attach, withProgress, hon]

lemma detach_withProgress (p : Pipeline τ) (x : Progress) :
    (p.withProgress x).detach = (p.detach.1.withProgress x, p.detach.2) := by
  cases hon : p.isAttached <;> simp [detach, withProgress, hon]

lemma installTicks_withProgress (p : Pipeline τ) (source : TickSource) (x : Progress) :
    (p.withProgress x).installTicks source =
      ((p.installTicks source).1.withProgress x, (p.installTicks source).2) := by
  cases hon : p.isAttached <;> simp [installTicks, withProgress, hon]

/-- Outward operations do the same whatever compilation has come to. -/
lemma step_withProgress (p : Pipeline τ) {op : Operation τ} (hop : op.isOutward = true)
    (x : Progress) :
    (p.withProgress x).step op = ((p.step op).1.withProgress x, (p.step op).2) := by
  cases op with
  | attach => exact p.attach_withProgress x
  | detach => exact p.detach_withProgress x
  | drop => exact p.detach_withProgress x
  | installTicks source => exact p.installTicks_withProgress source x
  | tick now => cases hop
  | compile program backend => cases hop
  | _ => rfl

/-- Only compilations change what compilation has come to. -/
lemma step_progress (p : Pipeline τ) {op : Operation τ} (hop : op.request? = none) :
    (p.step op).1.progress = p.progress := by
  obtain ⟨hphase, hhandle, hfault, hrequests, -⟩ := p.step_uncompiled hop
  simp only [progress, hphase, hhandle, hfault, hrequests]

/-- A compilation and an outward operation commute, each with the events that it has by itself. -/
theorem compile_step_comm (p : Pipeline τ) {op : Operation τ} (hop : op.isOutward = true)
    (program : Program) (backend : Backend) :
    (p.step op).1.compile program backend =
        (((p.compile program backend).1.step op).1, (p.compile program backend).2) ∧
      ((p.compile program backend).1.step op).2 = (p.step op).2 := by
  have hprogress : (p.step op).1.progress = p.progress :=
    p.step_progress (Operation.request?_of_isOutward hop)
  obtain ⟨x, events, hp, hq⟩ :=
    compile_of_progress_eq hprogress (p.step_pace op).2 program backend
  rw [hp, hq, p.step_withProgress hop]
  exact ⟨rfl, rfl⟩

/-! ### Histories -/

/-- What compilation has come to is told by the requests alone. -/
lemma run_progress (p : Pipeline τ) (ops : List (Operation τ)) :
    (p.run ops).1.progress = (ops.filterMap Operation.request?).foldl Progress.ask p.progress := by
  induction ops generalizing p with
  | nil => rfl
  | cons op ops ih =>
    rw [run_cons, ih]
    cases hop : op.request? with
    | none => rw [List.filterMap_cons_none hop, p.step_progress hop]
    | some r =>
      rw [List.filterMap_cons_some hop, List.foldl_cons]
      cases op with
      | compile program backend =>
        obtain rfl : ⟨program.moduleText, backend program.moduleText⟩ = r := Option.some.inj hop
        rw [step, p.compile_eq program backend rfl]
        rfl
      | _ => cases hop

/-- What the backend hears of an operation, and what it refuses, is what is asked of it. -/
lemma step_asks (p : Pipeline τ) (op : Operation τ) :
    (p.step op).2.filterMap Event.request? = (p.asksFor op).map Request.source ∧
      (p.step op).2.filterMap Event.refusal? = (p.asksFor op).filterMap Request.fault := by
  cases hop : op.request? with
  | none =>
    obtain ⟨-, -, -, -, hrequest, hrefusal, -⟩ := p.step_uncompiled hop
    simp [asksFor, hop, hrequest, hrefusal]
  | some r =>
    cases op with
    | compile program backend =>
      have hasked (hp : p.phase ≠ .ready) : p.asksFor (.compile program backend) =
          [⟨program.moduleText, backend program.moduleText⟩] := if_neg hp
      rcases p.compile_cases program backend with ⟨hp, hc⟩ | ⟨hp, hb, hc⟩ | ⟨fault, hp, hb, hc⟩
      · simp [asksFor, step, hc, hp]
      · rw [hasked hp, hb, step, hc]
        exact ⟨rfl, rfl⟩
      · rw [hasked hp, hb, step, hc]
        exact ⟨rfl, rfl⟩
    | _ => cases hop

lemma run_asks (p : Pipeline τ) (ops : List (Operation τ)) :
    (p.run ops).2.filterMap Event.request? = (p.asked ops).map Request.source ∧
      (p.run ops).2.filterMap Event.refusal? = (p.asked ops).filterMap Request.fault := by
  induction ops generalizing p with
  | nil => exact ⟨rfl, rfl⟩
  | cons op ops ih =>
    obtain ⟨hrequest, hrefusal⟩ := p.step_asks op
    obtain ⟨hrequests, hrefusals⟩ := ih (p.step op).1
    rw [run_cons, asked, List.filterMap_append, List.filterMap_append, List.map_append,
      List.filterMap_append, hrequest, hrefusal, hrequests, hrefusals]
    exact ⟨rfl, rfl⟩

lemma step_attached (p : Pipeline τ) (op : Operation τ) :
    (p.step op).1.isAttached = op.attaches?.getD p.isAttached := by
  cases op with
  | attach => exact p.attach_isAttached
  | detach => exact p.detach_isAttached
  | drop => exact p.detach_isAttached
  | installTicks source =>
    rcases p.installTicks_cases source with ⟨-, h⟩ | ⟨-, h⟩ <;> rw [step, h] <;> rfl
  | compile program backend => rw [step, p.compile_eq program backend rfl]; rfl
  | tick now =>
    rcases p.tick_cases now with ⟨rates, h⟩ | ⟨handle, -, -, -, h⟩ <;> rw [step, h] <;> rfl
  | _ => rfl

/-- A pipeline is attached if the last attachment or detachment says so. -/
lemma run_attached (p : Pipeline τ) (ops : List (Operation τ)) :
    (p.run ops).1.isAttached = (ops.filterMap Operation.attaches?).getLastD p.isAttached := by
  induction ops generalizing p with
  | nil => rfl
  | cons op ops ih =>
    rw [run_cons, ih, step_attached]
    cases hop : op.attaches? with
    | none => rw [List.filterMap_cons_none hop, Option.getD_none]
    | some on => rw [List.filterMap_cons_some hop, List.getLastD_cons, Option.getD_some]

end Pipeline

/-! ### Both at once -/

/-- The faults that events report. -/
def Event.reports (events : List (Event Float)) : List Fault :=
  (events.flatMap Event.notices).filterMap Notice.report?

/-- What the tick sources, the backend and the global sink hear of events. -/
structure Event.HeardAlike (xs ys : List (Event Float)) : Prop where
  signals : ∀ k, ShaderLoom.signals k xs = ShaderLoom.signals k ys
  requests : xs.filterMap Event.request? = ys.filterMap Event.request?
  reports : Event.reports xs = Event.reports ys

namespace Pipeline

/-- A compilation tells the tick sources nothing. -/
lemma signals_compile (p : Pipeline Float) (program : Program) (backend : Backend) (k : Nat) :
    signals k (p.compile program backend).2 = [] := by
  rcases p.compile_cases program backend with ⟨-, hc⟩ | ⟨-, -, hc⟩ | ⟨fault, -, -, hc⟩ <;>
    rw [hc] <;> rfl

/-- The events of an operation that compiles nothing are heard apart from those of one that
does. -/
lemma heardAlike_swap (p : Pipeline Float) {op : Operation Float} (hop : op.request? = none)
    (q : Pipeline Float) (program : Program) (backend : Backend) :
    Event.HeardAlike ((p.step op).2 ++ (q.compile program backend).2)
      ((q.compile program backend).2 ++ (p.step op).2) := by
  obtain ⟨-, -, -, -, hrequest, hrefusal, -⟩ := p.step_uncompiled hop
  refine ⟨fun k => ?_, ?_, ?_⟩
  · rw [signals_append, signals_append, signals_compile, List.append_nil, List.nil_append]
  · rw [List.filterMap_append, List.filterMap_append, hrequest, List.append_nil, List.nil_append]
  · rw [Event.reports, Event.reports, Event.reports_notices, Event.reports_notices,
      List.filterMap_append, List.filterMap_append, hrefusal, List.append_nil, List.nil_append]

/-- **Compilation is orthogonal to attachment**: a compilation commutes with every operation that
neither compiles nor ticks, and what is heard of both is the same. Over a history, what
compilation comes to and what is heard of it depend on the requests alone, with their answers, and
whether the pipeline is attached depends on attachments and detachments alone. -/
theorem compilation_orthogonal (p : Pipeline Float) :
    (∀ program backend op, op.isOutward = true →
      let first := p.run [op, .compile program backend]
      let last := p.run [.compile program backend, op]
      first.1 = last.1 ∧ Event.HeardAlike first.2 last.2) ∧
    (∀ ops ops', ops.filterMap Operation.request? = ops'.filterMap Operation.request? →
      (p.run ops).1.progress = (p.run ops').1.progress ∧
        (p.run ops).2.filterMap Event.request? = (p.run ops').2.filterMap Event.request? ∧
        Event.reports (p.run ops).2 = Event.reports (p.run ops').2) ∧
    ∀ ops ops', ops.filterMap Operation.attaches? = ops'.filterMap Operation.attaches? →
      (p.run ops).1.isAttached = (p.run ops').1.isAttached := by
  refine ⟨fun program backend op hop => ?_, fun ops ops' hsame => ?_, fun ops ops' hsame => ?_⟩
  · obtain ⟨hcompile, hstep⟩ := p.compile_step_comm hop program backend
    have hfirst : p.run [op, .compile program backend] =
        (((p.step op).1.compile program backend).1,
          (p.step op).2 ++ (((p.step op).1.compile program backend).2 ++ [])) := rfl
    have hlast : p.run [.compile program backend, op] =
        (((p.compile program backend).1.step op).1,
          (p.compile program backend).2 ++ (((p.compile program backend).1.step op).2 ++ [])) := rfl
    rw [hfirst, hlast, hcompile, hstep, List.append_nil, List.append_nil]
    exact ⟨rfl, p.heardAlike_swap (Operation.request?_of_isOutward hop) p program backend⟩
  · have hasked : p.asked ops = p.asked ops' := by rw [asked_eq, asked_eq, hsame]
    obtain ⟨hrequests, hrefusals⟩ := p.run_asks ops
    obtain ⟨hrequests', hrefusals'⟩ := p.run_asks ops'
    refine ⟨by rw [run_progress, run_progress, hsame], ?_, ?_⟩
    · rw [hrequests, hrequests', hasked]
    · rw [Event.reports, Event.reports, Event.reports_notices, Event.reports_notices, hrefusals,
        hrefusals', hasked]
  · rw [run_attached, run_attached, hsame]

/-- A backend that accepts nothing. -/
def refusing : Backend := fun source => some (.compilation (.diagnostic source))

/-- An attached pipeline gets another source of ticks, before or after a program is refused; and
two histories with one request and one attachment each. -/
theorem compilation_orthogonal_exchange :
    let p := make ⟨8, 6, true⟩ 10 (0 : Float)
    let exchange : Operation Float := .installTicks .idle
    let compilation : Operation Float := .compile ⟨"a"⟩ refusing
    let q := (p.run [.attach]).1
    exchange.isOutward = true ∧ q.isAttached = true ∧
      (q.run [exchange, compilation]).1 = (q.run [compilation, exchange]).1 ∧
      (∀ k, signals k (q.run [exchange, compilation]).2 =
        signals k (q.run [compilation, exchange]).2) ∧
      (List.range 2).map (fun k => signals k (q.run [exchange, compilation]).2) =
        [[.stop], [.start 10]] ∧
      (p.run [.attach, compilation, .tick 0]).1.progress =
        (p.run [.detach, .resize 0 0, compilation]).1.progress ∧
      (p.run [compilation, .tick 0, .attach]).1.isAttached =
        (p.run [.attach, .resize 0 0]).1.isAttached := by
  intro p exchange compilation q
  have hexchange : exchange.isOutward = true := rfl
  obtain ⟨hcommute, -, -⟩ := compilation_orthogonal q
  obtain ⟨-, hrequests, hattached⟩ := compilation_orthogonal p
  obtain ⟨hstate, hheard⟩ := hcommute ⟨"a"⟩ refusing exchange hexchange
  exact ⟨hexchange, rfl, hstate, hheard.signals, by decide +kernel, (hrequests _ _ rfl).1,
    hattached _ _ rfl⟩

end Pipeline

end ShaderLoom
