import ShaderLoom.Proofs.Compilation
import ShaderLoom.Proofs.FrameContent
import ShaderLoom.Proofs.Statistics

/-!
A session does not depend on what came before it.

Two pipelines are alike if they agree in what decides about ticks and frames. The instant of the
attachment and the mark of the gate belong to a session, so they have to agree only while there
is one; the statistics, the last fault and the number of requests never decide anything. Detached
pipelines that agree in the rest are alike, and every operation keeps them alike.
-/

namespace ShaderLoom

namespace Pipeline

variable {τ : Type} [Timescale τ]

/-- The two pipelines agree in all that decides about ticks and frames. -/
structure Alike (p q : Pipeline τ) : Prop where
  surface : p.surface = q.surface
  clock : p.clock.now = q.clock.now
  interval : p.gate.interval = q.gate.interval
  attached : p.isAttached = q.isAttached
  compiled : p.handle.isSome = q.handle.isSome
  ready : p.phase = .ready ↔ q.phase = .ready
  session : p.isAttached = true → p.since = q.since ∧ p.gate.last = q.gate.last

variable {p q : Pipeline τ}

namespace Alike

/-- While they are attached, the gates are equal. -/
lemma gate (h : Alike p q) (hon : p.isAttached = true) : p.gate = q.gate := by
  obtain ⟨-, hlast⟩ := h.session hon
  have hinterval := h.interval
  cases hp : p.gate
  cases hq : q.gate
  simp_all

lemma attach (h : Alike p q) : Alike p.attach.1 q.attach.1 := by
  have hattached := h.attached
  rcases p.attach_cases with ⟨hon, hp⟩ | ⟨hoff, hp⟩ <;>
    rcases q.attach_cases with ⟨hon', hq⟩ | ⟨hoff', hq⟩
  · rwa [hp, hq]
  · simp [hon, hoff'] at hattached
  · simp [hoff, hon'] at hattached
  · rw [hp, hq]
    exact ⟨h.surface, h.clock, h.interval, rfl, h.compiled, h.ready, fun _ => ⟨h.clock, rfl⟩⟩

lemma detach (h : Alike p q) : Alike p.detach.1 q.detach.1 := by
  have hattached := h.attached
  rcases p.detach_cases with ⟨hoff, hp⟩ | ⟨hon, hp⟩ <;>
    rcases q.detach_cases with ⟨hoff', hq⟩ | ⟨hon', hq⟩
  · rwa [hp, hq]
  · simp [hoff, hon'] at hattached
  · simp [hon, hoff'] at hattached
  · rw [hp, hq]
    exact ⟨h.surface, h.clock, h.interval, rfl, h.compiled, h.ready, nofun⟩

lemma installTicks (h : Alike p q) (source : TickSource) :
    Alike (p.installTicks source).1 (q.installTicks source).1 := by
  rcases p.installTicks_cases source with ⟨-, hp⟩ | ⟨-, hp⟩ <;>
    rcases q.installTicks_cases source with ⟨-, hq⟩ | ⟨-, hq⟩ <;> rw [hp, hq] <;>
    exact ⟨h.surface, h.clock, h.interval, h.attached, h.compiled, h.ready, h.session⟩

/-- The backend gives both the same answer, and neither is asked when one is not. -/
lemma compile (h : Alike p q) (program : Program) (backend : Backend) :
    Alike (p.compile program backend).1 (q.compile program backend).1 := by
  have hready := h.ready
  rcases p.compile_cases program backend with ⟨hp, hc⟩ | ⟨hp, hb, hc⟩ | ⟨fault, hp, hb, hc⟩ <;>
    rcases q.compile_cases program backend with
      ⟨hq, hc'⟩ | ⟨hq, hb', hc'⟩ | ⟨fault', hq, hb', hc'⟩
  · rwa [hc, hc']
  · exact absurd (hready.mp hp) hq
  · exact absurd (hready.mp hp) hq
  · exact absurd (hready.mpr hq) hp
  · rw [hc, hc']
    exact ⟨h.surface, h.clock, h.interval, h.attached, rfl, Iff.rfl, h.session⟩
  · simp [hb] at hb'
  · exact absurd (hready.mpr hq) hp
  · simp [hb] at hb'
  · rw [hc, hc']
    exact ⟨h.surface, h.clock, h.interval, h.attached, rfl, Iff.rfl, h.session⟩

end Alike

/-! ### What a tick depends on -/

/-- Without a tick no frame is presented. -/
lemma shots_eq_nil (p : Pipeline τ) {ops : List (Operation τ)}
    (hops : ∀ op ∈ ops, ∀ now, op ≠ .tick now) : p.shots ops = [] := by
  induction ops generalizing p with
  | nil => rfl
  | cons op ops ih =>
    rcases p.shotsOf_cases op with hnone | ⟨now, -, htick, -⟩
    · rw [shots, hnone, ih _ fun o ho => hops o (by simp [ho]), List.nil_append]
    · exact absurd htick (hops op (by simp) now)

/-- The outcome of a tick, by what it depends on. -/
lemma outcome_eq (p : Pipeline τ) (now : τ) :
    p.outcome now =
      if p.isAttached then
        if p.handle.isSome then
          if p.gate.isDue now then if p.surface.drawable then .presented else .noDrawable
          else .throttled
        else .notCompiled
      else .detached := by
  rcases p.answer_cases now with ⟨hoff, h⟩ | ⟨hon, hnone, h⟩ | ⟨handle, hon, hhandle, hc⟩
  · simp [outcome, h, hoff]
  · simp [outcome, h, hon, hnone]
  · rcases hc with ⟨hd, h⟩ | ⟨hd, hs, h⟩ | ⟨hd, hs, h⟩ <;> simp [outcome, *]

/-- A tick marks the gate if it presents a frame, and changes nothing else that decides. -/
lemma tick_state (p : Pipeline τ) (now : τ) :
    ∃ rates, (p.tick now).1 =
      { p with
        rates := rates
        gate := if p.outcome now = .presented then p.gate.mark now else p.gate } := by
  rcases p.answer_cases now with ⟨-, h⟩ | ⟨-, -, h⟩ | ⟨handle, -, -, hc⟩
  · exact ⟨p.rates, by simp [tick, outcome, h]⟩
  · exact ⟨p.rates, by simp [tick, outcome, h]⟩
  · rcases hc with ⟨-, h⟩ | ⟨-, -, h⟩ | ⟨-, -, h⟩
    · exact ⟨_, by simp [tick, outcome, h]; rfl⟩
    · exact ⟨_, by simp [tick, outcome, h]; rfl⟩
    · exact ⟨_, by simp [tick, outcome, h, present]; rfl⟩

namespace Alike

lemma outcome (h : Alike p q) (now : τ) : p.outcome now = q.outcome now := by
  rw [outcome_eq, outcome_eq, ← h.attached, ← h.compiled, ← h.surface]
  cases hon : p.isAttached with
  | false => rfl
  | true => rw [h.gate hon]

lemma nextDue (h : Alike p q) : p.nextDue = q.nextDue := by
  have hnone : p.handle.isNone = q.handle.isNone := by
    rw [← Option.not_isSome, h.compiled, Option.not_isSome]
  rw [Pipeline.nextDue, Pipeline.nextDue, ← h.attached, hnone]
  cases hon : p.isAttached with
  | false => rfl
  | true => rw [h.gate hon, (h.session hon).1]

/-! ### What keeps pipelines alike -/

lemma tick (h : Alike p q) (now : τ) : Alike (p.tick now).1 (q.tick now).1 := by
  obtain ⟨rates, hp⟩ := p.tick_state now
  obtain ⟨rates', hq⟩ := q.tick_state now
  rw [hp, hq, ← h.outcome]
  refine ⟨h.surface, h.clock, ?_, h.attached, h.compiled, h.ready,
    fun hon => ⟨(h.session hon).1, ?_⟩⟩
  · split
    · exact h.interval
    · exact h.interval
  · split
    · rfl
    · exact (h.session hon).2

lemma step (h : Alike p q) (op : Operation τ) : Alike (p.step op).1 (q.step op).1 := by
  cases op with
  | tick now => exact h.tick now
  | attach => exact h.attach
  | detach => exact h.detach
  | drop => exact h.detach
  | installTicks source => exact h.installTicks source
  | compile program backend => exact h.compile program backend
  | resize width height =>
    refine ⟨?_, h.clock, h.interval, h.attached, h.compiled, h.ready, h.session⟩
    simp [Pipeline.step, h.surface]
  | setDrawable on =>
    refine ⟨?_, h.clock, h.interval, h.attached, h.compiled, h.ready, h.session⟩
    simp [Pipeline.step, h.surface]
  | setClock now =>
    exact ⟨h.surface, rfl, h.interval, h.attached, h.compiled, h.ready, h.session⟩
  | advanceClock dt =>
    exact ⟨h.surface, congrArg (· + dt) h.clock, h.interval, h.attached, h.compiled, h.ready,
      h.session⟩

lemma outcome? (h : Alike p q) (op : Operation τ) : p.outcome? op = q.outcome? op := by
  cases op with
  | tick now => exact congrArg some (h.outcome now)
  | _ => rfl

end Alike

end Pipeline

/-! ### What is seen of a session -/

/-- What is seen of an operation: what comes of it if it is a tick, the uniforms of its frames,
when the next frame is due after it, and by how much it raises the counters. -/
structure Sight where
  outcome? : Option Outcome
  uniforms : List Uniforms
  due : Option Float
  frames : Int
  throttled : Int
  undrawn : Int

namespace Pipeline

/-- What is seen of an operation. -/
def sight (p : Pipeline Float) (op : Operation Float) : Sight :=
  let q := (p.step op).1
  { outcome? := p.outcome? op
    uniforms := ((p.step op).2.filterMap Event.frame?).map Frame.uniforms
    due := q.nextDue
    frames := q.rates.frames - p.rates.frames
    throttled := q.rates.throttled - p.rates.throttled
    undrawn := q.rates.undrawn - p.rates.undrawn }

/-- What is seen of a history, operation by operation. -/
def sights (p : Pipeline Float) : List (Operation Float) → List Sight
  | [] => []
  | op :: ops => p.sight op :: sights (p.step op).1 ops

variable {p q : Pipeline Float}

namespace Alike

/-- The program has no part in the uniforms, and so neither has its number. -/
lemma uniforms (h : Alike p q) (op : Operation Float) :
    ((p.step op).2.filterMap Event.frame?).map Frame.uniforms =
      ((q.step op).2.filterMap Event.frame?).map Frame.uniforms := by
  rw [frames_step, frames_step]
  cases op with
  | tick now =>
    have hout := h.outcome now
    rcases p.outcome_cases now with ⟨hp, hshot⟩ | ⟨handle, hon, hp, hshot⟩ <;>
      rcases q.outcome_cases now with ⟨hq, hshot'⟩ | ⟨handle', -, hq, hshot'⟩
    · rw [hshot, hshot']
    · exact absurd (hout.trans hq) hp
    · exact absurd (hout.symm.trans hp) hq
    · rw [hshot, hshot']
      have hsince := (h.session hon).1
      simp [frameAt, Frame.uniforms, hsince, h.surface]
  | _ => rfl

lemma sight (h : Alike p q) (op : Operation Float) : p.sight op = q.sight op := by
  have hp := p.counted_step op
  have hq := q.counted_step op
  have hrise (a b : Nat) : ((a + b : Nat) : Int) - a = b := by omega
  rw [← h.outcome? op] at hq
  rw [Pipeline.sight, Pipeline.sight, h.outcome? op, h.uniforms op, (h.step op).nextDue,
    hp.frames, hq.frames, hp.throttled, hq.throttled, hp.undrawn, hq.undrawn]
  simp only [hrise]

lemma sights (h : Alike p q) (ops : List (Operation Float)) : p.sights ops = q.sights ops := by
  induction ops generalizing p q with
  | nil => rfl
  | cons op ops ih => rw [Pipeline.sights, Pipeline.sights, h.sight op, ih (h.step op)]

end Alike

/-- Detached pipelines are alike, whatever their histories, if they agree in the rate, the
surface, the clock, and in whether they hold a compiled program. -/
lemma alike_of_detached {surface surface' : Surface} {rate rate' : UInt32} {start start' : Float}
    {before before' : List (Operation Float)}
    (hp : p = ((make surface rate start).run before).1)
    (hq : q = ((make surface' rate' start').run before').1)
    (hoff : p.isAttached = false) (hoff' : q.isAttached = false) (hrate : p.rate = q.rate)
    (hcompiled : p.handle.isSome = q.handle.isSome) (hsurface : p.surface = q.surface)
    (hclock : p.clock.now = q.clock.now) : Alike p q := by
  have hpace := run_pace (make surface rate start) before
  have hpace' := run_pace (make surface' rate' start') before'
  have hready := ((tracks_make surface rate start).run before).lifecycle.ready_iff
  have hready' := ((tracks_make surface' rate' start').run before').lifecycle.ready_iff
  rw [← hp] at hpace hready
  rw [← hq] at hpace' hready'
  have hclamped : Gate.clampRate rate = Gate.clampRate rate' :=
    hpace.2.symm.trans (hrate.trans hpace'.2)
  have hinterval : p.gate.interval = q.gate.interval := by
    rw [hpace.1, hpace'.1]
    exact congrArg (fun r => (Gate.ofRate r).interval) hclamped
  refine ⟨hsurface, hclock, hinterval, hoff.trans hoff'.symm, hcompiled, ?_, fun hon => ?_⟩
  · rw [hready, hready', hcompiled]
  · rw [hoff] at hon
    cases hon

/-- Until the first tick of a session the gate is open. -/
lemma outcome_first_tick (hoff : p.isAttached = false) {quiet : List (Operation Float)}
    (hquiet : ∀ op ∈ quiet, op.endsSession = false ∧ ∀ now, op ≠ .tick now)
    (hcompiled : (p.run (.attach :: quiet)).1.handle.isSome)
    (hdrawable : (p.run (.attach :: quiet)).1.surface.drawable = true) (now : Float) :
    (p.run (.attach :: quiet)).1.outcome now = .presented := by
  obtain ⟨hon, hlast⟩ := run_attach hoff (fun op hop => (hquiet op hop).1) rfl
  have hattach : ∀ now, (.attach : Operation Float) ≠ .tick now := nofun
  have hnone : p.shots (.attach :: quiet) = [] :=
    shots_eq_nil p (List.forall_mem_cons.mpr ⟨hattach, fun op hop => (hquiet op hop).2⟩)
  rw [hnone] at hlast
  rw [outcome_eq, if_pos hon, if_pos hcompiled, Gate.isDue, hlast]
  exact if_pos hdrawable

/-- **Sessions are independent**: of two detached pipelines that agree in the rate, the surface,
the clock, and in whether they hold a compiled program, the same is seen after an attachment,
whatever was done to them before. The first tick of a session presents a frame at any instant, if
there is a program and something to draw on. -/
theorem sessions_independent {surface surface' : Surface} {rate rate' : UInt32}
    {start start' : Float} {before before' : List (Operation Float)}
    (hp : p = ((make surface rate start).run before).1)
    (hq : q = ((make surface' rate' start').run before').1)
    (hoff : p.isAttached = false) (hoff' : q.isAttached = false) (hrate : p.rate = q.rate)
    (hcompiled : p.handle.isSome = q.handle.isSome) (hsurface : p.surface = q.surface)
    (hclock : p.clock.now = q.clock.now) :
    (∀ ops, p.sights (.attach :: ops) = q.sights (.attach :: ops)) ∧
      ∀ quiet r, (∀ op ∈ quiet, op.endsSession = false ∧ ∀ now, op ≠ .tick now) →
        r = (p.run (.attach :: quiet)).1 → r.handle.isSome → r.surface.drawable = true →
          ∀ now, r.outcome now = .presented := by
  have halike : Alike p q :=
    alike_of_detached hp hq hoff hoff' hrate hcompiled hsurface hclock
  refine ⟨fun ops => halike.sights _, fun quiet r hquiet hr hhandle hdrawable now => ?_⟩
  rw [hr] at hhandle hdrawable ⊢
  exact outcome_first_tick hoff hquiet hhandle hdrawable now

/-- Detached after frames, an early tick, a tick without surface and a change of size. -/
def used : Pipeline Float :=
  ((make ⟨4, 4, true⟩ 0 (0 : Float)).run
    [.compile ⟨"a"⟩ fun _ => none, .attach, .tick 5, .tick 5.5, .tick 9, .setDrawable false,
      .tick 11, .setDrawable true, .resize 8 6, .detach, .setClock 9.25]).1

/-- Refused once, compiled then, and never attached. -/
def unused : Pipeline Float :=
  ((make ⟨8, 6, true⟩ 1 (9.25 : Float)).run
    [.compile ⟨"b"⟩ fun source => some (.compilation (.diagnostic source)),
      .compile ⟨"b"⟩ fun _ => none]).1

/-- A frame is presented at once, though another was a moment ago. -/
theorem sessions_independent_used :
    used.gate.last = some 9 ∧ used.handle ≠ unused.handle ∧ used.rates.frames = 2 ∧
      used.sights [.attach, .tick 9.25, .tick 9.5, .detach, .tick 9.75] =
        unused.sights [.attach, .tick 9.25, .tick 9.5, .detach, .tick 9.75] ∧
      (used.run [.attach]).1.outcome 9.25 = .presented := by
  obtain ⟨hsame, hfirst⟩ := sessions_independent (p := used) (q := unused) rfl rfl (by decide)
    (by decide) (by decide) (by decide) (by decide +kernel) (by decide +kernel)
  exact ⟨by decide +kernel, by decide +kernel, by decide +kernel, hsame _,
    hfirst [] _ (by simp) rfl (by decide) (by decide) 9.25⟩

end Pipeline

end ShaderLoom
