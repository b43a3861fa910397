import ShaderLoom.Proofs.Statistics

/-!
Ticks that present nothing leave no trace.

Such a tick raises one of two counts at most, and no operation reads a count. So a history may do
without any of them: every other operation comes to the same, and the pipelines after it differ in
the two counts alone.
-/

namespace ShaderLoom

/-- An operation of a history, or a tick that a shorter history does without. -/
inductive Pick (τ : Type) where
  | kept (op : Operation τ)
  | omitted (now : τ)

namespace Pick

variable {τ : Type}

def operation : Pick τ → Operation τ
  | kept op => op
  | omitted now => .tick now

def kept? : Pick τ → Option (Operation τ)
  | kept op => some op
  | omitted _ => none

/-- The whole history. -/
def whole (picks : List (Pick τ)) : List (Operation τ) := picks.map operation

/-- The history without the omitted ticks. -/
def rest (picks : List (Pick τ)) : List (Operation τ) := picks.filterMap kept?

end Pick

/-! ### Counts -/

namespace Pipeline

variable {τ : Type} [Timescale τ]

/-- The pipeline with more ticks counted that came early or found nothing to draw on. -/
def counting (p : Pipeline τ) (early undrawn : Nat) : Pipeline τ :=
  { p with
    rates :=
      { p.rates with
        throttled := p.rates.throttled + early
        undrawn := p.rates.undrawn + undrawn } }

/-- The pipeline without these two counts. -/
def uncounted (p : Pipeline τ) : Pipeline τ :=
  { p with rates := { p.rates with throttled := 0, undrawn := 0 } }

lemma counting_counting (p : Pipeline τ) (a b c d : Nat) :
    (p.counting a b).counting c d = p.counting (a + c) (b + d) := by
  simp only [counting, Nat.add_assoc]

lemma attach_counting (p : Pipeline τ) (a b : Nat) :
    (p.counting a b).attach = (p.attach.1.counting a b, p.attach.2) := by
  cases hon : p.isAttached <;> simp [attach, counting, hon]

lemma detach_counting (p : Pipeline τ) (a b : Nat) :
    (p.counting a b).detach = (p.detach.1.counting a b, p.detach.2) := by
  cases hon : p.isAttached <;> simp [detach, counting, hon]

lemma installTicks_counting (p : Pipeline τ) (source : TickSource) (a b : Nat) :
    (p.counting a b).installTicks source =
      ((p.installTicks source).1.counting a b, (p.installTicks source).2) := by
  cases hon : p.isAttached <;> simp [installTicks, counting, hon]

lemma compile_counting (p : Pipeline τ) (program : Program) (backend : Backend) (a b : Nat) :
    (p.counting a b).compile program backend =
      ((p.compile program backend).1.counting a b, (p.compile program backend).2) := by
  by_cases hready : p.phase = .ready
  · simp [compile, counting, hready]
  · cases hb : backend program.moduleText <;> simp [compile, counting, hready, hb]

/-- The counts decide nothing about a tick. -/
lemma answer_counting (p : Pipeline τ) (now : τ) (a b : Nat) :
    (p.counting a b).answer now =
      ((p.answer now).1, (p.answer now).2.1.counting a b, (p.answer now).2.2) := by
  cases hon : p.isAttached with
  | false => simp [answer, counting, hon]
  | true =>
    cases hhandle : p.handle with
    | none => simp [answer, counting, hon, hhandle]
    | some handle =>
      cases hdue : p.gate.isDue now with
      | false =>
        simp [answer, counting, hon, hhandle, hdue, Rates.throttle, Nat.add_right_comm]
      | true =>
        cases hsurface : p.surface.drawable with
        | false =>
          simp [answer, counting, hon, hhandle, hdue, hsurface, Rates.skip, Nat.add_right_comm]
        | true =>
          cases hlast : p.gate.last <;>
            simp [answer, counting, hon, hhandle, hdue, hsurface, hlast, present, Rates.record,
              frameAt]

lemma outcome_counting (p : Pipeline τ) (now : τ) (a b : Nat) :
    (p.counting a b).outcome now = p.outcome now := by
  rw [outcome, answer_counting, outcome]

lemma step_counting (p : Pipeline τ) (op : Operation τ) (a b : Nat) :
    (p.counting a b).step op = ((p.step op).1.counting a b, (p.step op).2) := by
  cases op with
  | tick now => rw [step, tick, answer_counting]; rfl
  | attach => exact p.attach_counting a b
  | detach => exact p.detach_counting a b
  | drop => exact p.detach_counting a b
  | installTicks source => exact p.installTicks_counting source a b
  | compile program backend => exact p.compile_counting program backend a b
  | _ => rfl

/-- And so they decide nothing about a history. -/
lemma run_counting (p : Pipeline τ) (ops : List (Operation τ)) (a b : Nat) :
    (p.counting a b).run ops = ((p.run ops).1.counting a b, (p.run ops).2) := by
  induction ops generalizing p with
  | nil => rfl
  | cons op ops ih => rw [run_cons, run_cons, step_counting, ih]

/-- A tick that presents nothing has no event, and counts itself at most. -/
lemma tick_unpresented (p : Pipeline τ) {now : τ} (h : p.outcome now ≠ .presented) :
    p.tick now =
      (p.counting ([p.outcome now].count .throttled) ([p.outcome now].count .noDrawable), []) := by
  rw [outcome] at h ⊢
  rw [tick]
  rcases p.answer_cases now with ⟨-, ha⟩ | ⟨-, -, ha⟩ | ⟨handle, -, -, hc⟩
  · rw [ha]; rfl
  · rw [ha]; rfl
  · rcases hc with ⟨-, ha⟩ | ⟨-, -, ha⟩ | ⟨-, -, ha⟩
    · rw [ha]; rfl
    · rw [ha]; rfl
    · exact absurd (by rw [ha]) h

end Pipeline

/-! ### Histories with and without the ticks -/

/-- What an operation comes to: its outcome if it is a tick, the pipeline after it, which tells
the phase that a compilation leads to, and what happened. -/
structure Reply (τ : Type) [Timescale τ] where
  outcome? : Option Outcome
  after : Pipeline τ
  events : List (Event τ)

def Reply.uncounted {τ : Type} [Timescale τ] (r : Reply τ) : Reply τ :=
  { r with after := r.after.uncounted }

namespace Pipeline

variable {τ : Type} [Timescale τ]

def reply (p : Pipeline τ) (op : Operation τ) : Reply τ :=
  ⟨p.outcome? op, (p.step op).1, (p.step op).2⟩

/-- What the operations of a history come to. -/
def replies (p : Pipeline τ) : List (Operation τ) → List (Reply τ)
  | [] => []
  | op :: ops => p.reply op :: replies (p.step op).1 ops

/-- What the kept operations come to in the course of the whole history. -/
def keptReplies (p : Pipeline τ) : List (Pick τ) → List (Reply τ)
  | [] => []
  | .kept op :: picks => p.reply op :: keptReplies (p.step op).1 picks
  | .omitted now :: picks => keptReplies (p.tick now).1 picks

/-- What comes of the omitted ticks in the course of the whole history. -/
def omissions (p : Pipeline τ) : List (Pick τ) → List Outcome
  | [] => []
  | .kept op :: picks => omissions (p.step op).1 picks
  | .omitted now :: picks => p.outcome now :: omissions (p.tick now).1 picks

lemma replies_counting (p : Pipeline τ) (ops : List (Operation τ)) (a b : Nat) :
    ((p.counting a b).replies ops).map Reply.uncounted = (p.replies ops).map Reply.uncounted := by
  induction ops generalizing p with
  | nil => rfl
  | cons op ops ih =>
    have hout : (p.counting a b).outcome? op = p.outcome? op := by
      cases op with
      | tick now => exact congrArg some (p.outcome_counting now a b)
      | _ => rfl
    have hreply : ((p.counting a b).reply op).uncounted = (p.reply op).uncounted := by
      rw [reply, reply, hout, step_counting]
      rfl
    rw [replies, replies, step_counting, List.map_cons, List.map_cons, hreply, ih]

/-- The whole history ends like the rest of it, with the omitted ticks counted. -/
lemma run_whole (p : Pipeline τ) {picks : List (Pick τ)}
    (h : ∀ outcome ∈ p.omissions picks, outcome ≠ .presented) :
    p.run (Pick.whole picks) =
      ((p.run (Pick.rest picks)).1.counting ((p.omissions picks).count .throttled)
          ((p.omissions picks).count .noDrawable),
        (p.run (Pick.rest picks)).2) := by
  induction picks generalizing p with
  | nil => rfl
  | cons pick picks ih =>
    cases pick with
    | kept op =>
      have hrest := ih (p.step op).1 h
      change p.run (op :: Pick.whole picks) =
        ((p.run (op :: Pick.rest picks)).1.counting _ _, (p.run (op :: Pick.rest picks)).2)
      rw [run_cons, run_cons, hrest]
      rfl
    | omitted now =>
      obtain ⟨hnow, hlater⟩ := List.forall_mem_cons.mp h
      have hcount (outcome : Outcome) : (p.omissions (.omitted now :: picks)).count outcome =
          [p.outcome now].count outcome + ((p.tick now).1.omissions picks).count outcome := by
        rw [← List.count_append]
        rfl
      have hwhole : p.run (Pick.whole (.omitted now :: picks)) =
          (((p.tick now).1.run (Pick.whole picks)).1,
            (p.tick now).2 ++ ((p.tick now).1.run (Pick.whole picks)).2) := rfl
      have hrest : Pick.rest (.omitted now :: picks) = Pick.rest picks := rfl
      rw [hwhole, ih _ hlater, hrest, hcount, hcount, p.tick_unpresented hnow, run_counting,
        counting_counting]
      rfl

/-- What the kept operations come to is what they come to by themselves, but for the counts. -/
lemma keptReplies_uncounted (p : Pipeline τ) {picks : List (Pick τ)}
    (h : ∀ outcome ∈ p.omissions picks, outcome ≠ .presented) :
    (p.keptReplies picks).map Reply.uncounted =
      (p.replies (Pick.rest picks)).map Reply.uncounted := by
  induction picks generalizing p with
  | nil => rfl
  | cons pick picks ih =>
    cases pick with
    | kept op => exact congrArg (_ :: ·) (ih (p.step op).1 h)
    | omitted now =>
      obtain ⟨hnow, hlater⟩ := List.forall_mem_cons.mp h
      have hrest : Pick.rest (.omitted now :: picks) = Pick.rest picks := rfl
      rw [keptReplies, ih _ hlater, hrest, p.tick_unpresented hnow, replies_counting]

/-- Ticks without a session or a program change nothing at all, and so the counts agree too. -/
lemma keptReplies_of_idle (p : Pipeline τ) {picks : List (Pick τ)}
    (h : ∀ outcome ∈ p.omissions picks, outcome = .detached ∨ outcome = .notCompiled) :
    p.keptReplies picks = p.replies (Pick.rest picks) := by
  induction picks generalizing p with
  | nil => rfl
  | cons pick picks ih =>
    cases pick with
    | kept op => exact congrArg (_ :: ·) (ih (p.step op).1 h)
    | omitted now =>
      obtain ⟨hnow, hlater⟩ := List.forall_mem_cons.mp h
      have hsame : (p.tick now).1 = p := by
        rcases hnow with hnow | hnow <;>
          rw [p.tick_unpresented (by rw [hnow]; nofun), hnow] <;> rfl
      have hrest : Pick.rest (.omitted now :: picks) = Pick.rest picks := rfl
      rw [keptReplies, ih _ hlater, hrest, hsame]

/-- **Dropped ticks**: without any of the ticks that presented nothing, a history has the same
events, its other operations come to the same, and the pipeline after it is the same up to the
counts, which lack just the ticks left out. Without ticks that found no session or no program,
nothing differs. -/
theorem omitted_ticks (p : Pipeline τ) {picks : List (Pick τ)}
    (h : ∀ outcome ∈ p.omissions picks, outcome ≠ .presented) :
    let whole := p.run (Pick.whole picks)
    let rest := p.run (Pick.rest picks)
    let omitted := p.omissions picks
    whole.2 = rest.2 ∧
      (p.keptReplies picks).map Reply.uncounted =
        (p.replies (Pick.rest picks)).map Reply.uncounted ∧
      whole.1 = rest.1.counting (omitted.count .throttled) (omitted.count .noDrawable) ∧
      whole.1.nextDue = rest.1.nextDue ∧
      ((∀ outcome ∈ omitted, outcome = .detached ∨ outcome = .notCompiled) →
        whole.1 = rest.1 ∧ p.keptReplies picks = p.replies (Pick.rest picks)) := by
  intro whole rest omitted
  have hrun : whole =
      (rest.1.counting (omitted.count .throttled) (omitted.count .noDrawable), rest.2) :=
    p.run_whole h
  refine ⟨by rw [hrun], p.keptReplies_uncounted h, by rw [hrun], by rw [hrun]; rfl,
    fun hidle => ⟨?_, p.keptReplies_of_idle hidle⟩⟩
  have hnone (outcome : Outcome) (hd : outcome ≠ .detached) (hn : outcome ≠ .notCompiled) :
      omitted.count outcome = 0 :=
    List.count_eq_zero.mpr fun hmem => (hidle outcome hmem).elim hd hn
  rw [hrun, hnone .throttled nofun nofun, hnone .noDrawable nofun nofun]
  rfl

/-- Ticks that come too soon are omitted: before a session and before a program, between frames,
without a surface, and going back in time. -/
def hasty : List (Pick Float) :=
  [.omitted 0.25, .kept .attach, .omitted 0.25, .kept (.compile ⟨"a"⟩ fun _ => none),
    .kept (.tick 0.5), .omitted 0.5625, .kept (.setDrawable false), .omitted 1, .omitted 0.375,
    .kept (.setDrawable true), .kept (.tick 0.75)]

theorem omitted_ticks_hasty :
    let p := make ⟨8, 6, true⟩ 10 (0 : Float)
    p.omissions hasty = [.detached, .notCompiled, .throttled, .noDrawable, .throttled] ∧
      (∀ outcome ∈ p.omissions hasty, outcome ≠ .presented) ∧
      p.outcomes (Pick.rest hasty) = [.presented, .presented] ∧
      (p.run (Pick.whole hasty)).1 = (p.run (Pick.rest hasty)).1.counting 2 1 ∧
      (p.run (Pick.whole hasty)).2 = (p.run (Pick.rest hasty)).2 := by
  intro p
  have homitted : p.omissions hasty =
      [.detached, .notCompiled, .throttled, .noDrawable, .throttled] := by decide +kernel
  have hnot : ∀ outcome ∈ p.omissions hasty, outcome ≠ .presented := by
    rw [homitted]
    decide
  obtain ⟨hevents, -, hstate, -⟩ := omitted_ticks p hnot
  rw [homitted] at hstate
  exact ⟨homitted, hnot, by decide +kernel, hstate, hevents⟩

end Pipeline

end ShaderLoom
