import Mathlib.Data.List.DropRight
import ShaderLoom.Proofs.Operations

/-!
What the statistics of a pipeline say of its history.

Each counter is the number of ticks with one outcome. The window holds the last of the intervals
between frames that follow each other in one session: the first frame of a session has no
interval, so none spans the time in which the pipeline was detached.
-/

namespace ShaderLoom

/-! ### The window -/

namespace Rates

variable {τ : Type}

/-- What is kept of a list is kept of a longer one by a push. -/
lemma push_rtake (xs : List τ) (x : τ) :
    push (xs.rtake capacity) x = (xs ++ [x]).rtake capacity := by
  have hdrop (n : Nat) : xs.rtake n = xs.drop (xs.length - n) := rfl
  have hconcat : (xs ++ [x]).rtake capacity = xs.rtake 59 ++ [x] := List.rtake_concat_succ xs 59 x
  rw [push, hconcat, hdrop, hdrop, List.length_append, List.length_drop, List.length_singleton,
    capacity]
  rcases Nat.lt_or_ge xs.length 60 with hshort | hlong
  · have h60 : xs.length - 60 = 0 := by omega
    have h59 : xs.length - 59 = 0 := by omega
    rw [if_neg (by omega), h60, h59]
  · have hne : xs.drop (xs.length - 60) ≠ [] := List.ne_nil_of_length_pos (by simp; omega)
    have h59 : xs.length - 60 + 1 = xs.length - 59 := by omega
    rw [if_pos (by omega), List.tail_append_of_ne_nil hne, List.tail_drop, h59]

lemma getLast?_rtake (xs : List τ) : (xs.rtake capacity).getLast? = xs.getLast? := by
  rw [List.rtake, List.getLast?_drop, capacity]
  split
  · have hnil : xs = [] := List.length_eq_zero_iff.mp (by omega)
    rw [hnil, List.getLast?_nil]
  · rfl

/-- A push ends with the interval that was pushed. -/
lemma exists_push_eq (window : List τ) (x : τ) : ∃ kept, push window x = kept ++ [x] := by
  by_cases hfull : capacity < (window ++ [x]).length
  · have hne : window ≠ [] := by
      rintro rfl
      exact absurd hfull (by decide : ¬ 60 < 1)
    exact ⟨window.tail, by rw [push, if_pos hfull, List.tail_append_of_ne_nil hne]⟩
  · exact ⟨window, by rw [push, if_neg hfull]⟩

/-! ### What is stored beside the window -/

variable [Timescale τ]

/-- The stored interval is the last of the window, and the stored average is the rate of its
mean. Both are zero while the window is empty. -/
structure Current (r : Rates τ) : Prop where
  lastInterval : r.lastInterval = r.window.getLast?.getD Timescale.zero
  average : r.average =
    if r.window.isEmpty then Timescale.toRate Timescale.zero else Timescale.rateOf (mean r.window)

lemma current_empty : (empty : Rates τ).Current := ⟨rfl, rfl⟩

namespace Current

variable {r q : Rates τ}

/-- Without an interval nothing is written, and with one all is computed from the new window. -/
lemma record (h : r.Current) (interval : Option τ) : (r.record interval).Current := by
  cases interval with
  | none => exact ⟨h.lastInterval, h.average⟩
  | some x =>
    obtain ⟨kept, hkept⟩ := exists_push_eq r.window x
    refine ⟨?_, ?_⟩
    · change x = (push r.window x).getLast?.getD Timescale.zero
      rw [hkept, List.getLast?_concat, Option.getD_some]
    · have hsome : (push r.window x).isEmpty = false := by simp [hkept]
      change Timescale.rateOf (mean (push r.window x)) =
        if (push r.window x).isEmpty then _ else Timescale.rateOf (mean (push r.window x))
      rw [hsome]
      rfl

/-- What does not touch the window and what is stored beside it. -/
lemma unmoved (h : r.Current) (hlast : q.lastInterval = r.lastInterval)
    (haverage : q.average = r.average) (hwindow : q.window = r.window) : q.Current :=
  ⟨by rw [hlast, hwindow, h.lastInterval], by rw [haverage, hwindow, h.average]⟩

end Current

end Rates

/-! ### Frames that follow each other -/

/-- A frame that was presented: its instant, and the number of its session. -/
structure Appearance (τ : Type) where
  session : Nat
  instant : τ

namespace Appearance

variable {τ : Type} [Timescale τ]

/-- The interval from one frame to another, if they belong to one session. -/
def interval? (a b : Appearance τ) : Option τ :=
  if a.session = b.session then some (b.instant - a.instant) else none

/-- The intervals between frames that follow each other in one session. -/
def intervals (as : List (Appearance τ)) : List τ :=
  (as.zip as.tail).filterMap fun ab => ab.1.interval? ab.2

lemma intervals_cons_cons (a b : Appearance τ) (as : List (Appearance τ)) :
    intervals (a :: b :: as) = (a.interval? b).toList ++ intervals (b :: as) := by
  have hzip : (a :: b :: as).zip (a :: b :: as).tail = (a, b) :: (b :: as).zip (b :: as).tail := rfl
  rw [intervals, hzip, List.filterMap_cons]
  cases a.interval? b <;> rfl

/-- A frame more adds its interval from the last one. -/
lemma intervals_snoc (as : List (Appearance τ)) (b : Appearance τ) :
    intervals (as ++ [b]) = intervals as ++ (as.getLast?.bind (·.interval? b)).toList := by
  induction as with
  | nil => rfl
  | cons a as ih =>
    cases as with
    | nil => exact (intervals_cons_cons a b []).trans (List.append_nil _)
    | cons c as =>
      rw [List.cons_append] at ih
      rw [List.cons_append, List.cons_append, intervals_cons_cons, ih, intervals_cons_cons,
        List.append_assoc, List.getLast?_cons_cons]

example : intervals [⟨1, 2⟩, ⟨1, 5⟩, ⟨2, 6⟩, ⟨2, 10⟩] = [(3 : Rat), 4] := by decide +kernel

end Appearance

/-! ### Ticks of a history -/

namespace Pipeline

variable {τ : Type} [Timescale τ]

/-- What comes of an operation, if it is a tick. -/
def outcome? (p : Pipeline τ) : Operation τ → Option Outcome
  | .tick now => some (p.outcome now)
  | _ => none

/-- What comes of the ticks of a history. -/
def outcomes (p : Pipeline τ) : List (Operation τ) → List Outcome
  | [] => []
  | op :: ops => (p.outcome? op).toList ++ outcomes (p.step op).1 ops

/-- An attachment that takes effect opens a session. -/
def opens (p : Pipeline τ) : Operation τ → Bool
  | .attach => !p.isAttached
  | _ => false

/-- The frame that an operation presents in a session of this number. -/
def appearance? (p : Pipeline τ) (session : Nat) : Operation τ → Option (Appearance τ)
  | .tick now => if p.outcome now = .presented then some ⟨session, now⟩ else none
  | _ => none

/-- The frames that a history presents, when `session` sessions were opened before it. -/
def appearances (p : Pipeline τ) (session : Nat) : List (Operation τ) → List (Appearance τ)
  | [] => []
  | op :: ops =>
    (p.appearance? session op).toList ++
      appearances (p.step op).1 (if p.opens op then session + 1 else session) ops

/-- Only ticks change the statistics. -/
lemma step_rates (p : Pipeline τ) {op : Operation τ} (hop : p.outcome? op = none) :
    (p.step op).1.rates = p.rates := by
  cases op with
  | tick now => cases hop
  | attach => rcases p.attach_cases with ⟨-, h⟩ | ⟨-, h⟩ <;> rw [step, h]
  | detach => rcases p.detach_cases with ⟨-, h⟩ | ⟨-, h⟩ <;> rw [step, h]
  | drop => rcases p.detach_cases with ⟨-, h⟩ | ⟨-, h⟩ <;> rw [step, h]
  | installTicks source =>
    rcases p.installTicks_cases source with ⟨-, h⟩ | ⟨-, h⟩ <;> rw [step, h]
  | compile program backend =>
    rcases p.compile_cases program backend with ⟨-, h⟩ | ⟨-, -, h⟩ | ⟨fault, -, -, h⟩ <;>
      rw [step, h]
  | _ => rfl

/-- The four things that an operation can do to the statistics. -/
lemma rates_cases (p : Pipeline τ) (op : Operation τ) :
    ((∀ outcome ∈ p.outcome? op, outcome = .detached ∨ outcome = .notCompiled) ∧
      (p.step op).1.rates = p.rates) ∨
    (p.outcome? op = some .throttled ∧ (p.step op).1.rates = p.rates.throttle) ∨
    (p.outcome? op = some .noDrawable ∧ (p.step op).1.rates = p.rates.skip) ∨
    ∃ now, p.outcome? op = some .presented ∧ p.gate.isDue now = true ∧
      (p.step op).1.rates = p.rates.record (p.gate.last.map (now - ·)) := by
  cases hop : p.outcome? op with
  | none => exact .inl ⟨nofun, step_rates p hop⟩
  | some outcome =>
    cases op with
    | tick now =>
      obtain rfl : (p.answer now).1 = outcome := Option.some.inj hop
      change (_ ∧ (p.answer now).2.1.rates = _) ∨ (_ ∧ (p.answer now).2.1.rates = _) ∨
        (_ ∧ (p.answer now).2.1.rates = _) ∨ _
      rcases p.answer_cases now with ⟨-, h⟩ | ⟨-, -, h⟩ | ⟨handle, -, -, hc⟩
      · exact .inl ⟨by simp [h], by rw [h]⟩
      · exact .inl ⟨by simp [h], by rw [h]⟩
      · rcases hc with ⟨-, h⟩ | ⟨-, -, h⟩ | ⟨hdue, -, h⟩
        · exact .inr (.inl ⟨by rw [h], by rw [h]⟩)
        · exact .inr (.inr (.inl ⟨by rw [h], by rw [h]⟩))
        · refine .inr (.inr (.inr ⟨now, by rw [h], hdue, ?_⟩))
          change (p.answer now).2.1.rates = _
          rw [h]
          rfl
    | _ => cases hop

/-! ### Counters -/

/-- The counters of `r` and what was added to them by ticks with these outcomes. -/
structure Counted (r : Rates τ) (outcomes : List Outcome) (r' : Rates τ) : Prop where
  frames : r'.frames = r.frames + outcomes.count .presented
  throttled : r'.throttled = r.throttled + outcomes.count .throttled
  undrawn : r'.undrawn = r.undrawn + outcomes.count .noDrawable

lemma counted_step (p : Pipeline τ) (op : Operation τ) :
    Counted p.rates (p.outcome? op).toList (p.step op).1.rates := by
  rcases p.rates_cases op with ⟨hidle, h⟩ | ⟨ho, h⟩ | ⟨ho, h⟩ | ⟨now, ho, -, h⟩
  · rw [h]
    cases ho : p.outcome? op with
    | none => exact ⟨rfl, rfl, rfl⟩
    | some outcome => rcases hidle outcome ho with rfl | rfl <;> exact ⟨rfl, rfl, rfl⟩
  · rw [ho, h]; exact ⟨rfl, rfl, rfl⟩
  · rw [ho, h]; exact ⟨rfl, rfl, rfl⟩
  · rw [ho, h]
    exact ⟨Rates.frames_record _ _, Rates.throttled_record _ _, Rates.undrawn_record _ _⟩

theorem counted_run (p : Pipeline τ) (ops : List (Operation τ)) :
    Counted p.rates (p.outcomes ops) (p.run ops).1.rates := by
  induction ops generalizing p with
  | nil => exact ⟨rfl, rfl, rfl⟩
  | cons op ops ih =>
    have hstep := p.counted_step op
    have hrest := ih (p.step op).1
    refine ⟨?_, ?_, ?_⟩ <;> rw [run_cons, outcomes, List.count_append, ← Nat.add_assoc]
    · rw [hrest.frames, hstep.frames]
    · rw [hrest.throttled, hstep.throttled]
    · rw [hrest.undrawn, hstep.undrawn]

/-! ### Stored rates -/

/-- No operation leaves a stored rate behind its window. -/
lemma current_step {p : Pipeline τ} (h : p.rates.Current) (op : Operation τ) :
    (p.step op).1.rates.Current := by
  rcases p.rates_cases op with ⟨-, hr⟩ | ⟨-, hr⟩ | ⟨-, hr⟩ | ⟨now, -, -, hr⟩ <;> rw [hr]
  · exact h
  · exact h.unmoved rfl rfl rfl
  · exact h.unmoved rfl rfl rfl
  · exact h.record _

theorem current_run (surface : Surface) (rate : UInt32) (start : τ) (ops : List (Operation τ)) :
    ((make surface rate start).run ops).1.rates.Current :=
  run_preserves (I := fun p => p.rates.Current) (fun _ op h => current_step h op)
    Rates.current_empty ops

/-! ### Intervals -/

/-- A pipeline after `session` openings in which the frames `seen` were presented. While it is
attached, the mark of its gate is the last frame, if that one belongs to the session. -/
structure Remembers (p : Pipeline τ) (session : Nat) (seen : List (Appearance τ)) : Prop where
  window : p.rates.window = (Appearance.intervals seen).rtake Rates.capacity
  opened : ∀ a ∈ seen, a.session ≤ session
  marked : p.isAttached = true → p.gate.last =
    seen.getLast?.bind fun a => if a.session = session then some a.instant else none

variable {p : Pipeline τ} {session : Nat} {seen : List (Appearance τ)}

lemma remembers_make (surface : Surface) (rate : UInt32) (start : τ) :
    Remembers (make surface rate start) 0 [] :=
  ⟨rfl, by simp, nofun⟩

namespace Remembers

/-- What leaves the window and the gate alone, and attaches nothing. -/
lemma unmoved (h : Remembers p session seen) {q : Pipeline τ}
    (hwindow : q.rates.window = p.rates.window) (hlast : q.gate.last = p.gate.last)
    (hattached : q.isAttached = true → p.isAttached = true) :
    Remembers q session seen :=
  ⟨hwindow.trans h.window, h.opened, fun hq => hlast.trans (h.marked (hattached hq))⟩

lemma detach (h : Remembers p session seen) : Remembers p.detach.1 session seen :=
  ⟨by rcases p.detach_cases with ⟨-, hp⟩ | ⟨-, hp⟩ <;> rw [hp] <;> exact h.window, h.opened,
    fun hq => by rw [p.detach_isAttached] at hq; cases hq⟩

/-- After an attachment that takes effect no frame belongs to the session yet. -/
lemma attach (h : Remembers p session seen) :
    Remembers p.attach.1 (if p.opens .attach then session + 1 else session) seen := by
  rcases p.attach_cases with ⟨hon, hp⟩ | ⟨hoff, hp⟩
  · have hopens : p.opens .attach = false := by rw [opens, hon]; rfl
    rw [hp, hopens]
    exact h
  · have hopens : p.opens .attach = true := by rw [opens, hoff]; rfl
    rw [hp, hopens, if_pos rfl]
    refine ⟨h.window, fun a ha => Nat.le_succ_of_le (h.opened a ha), fun _ => ?_⟩
    change none = _
    cases hlast : seen.getLast? with
    | none => rfl
    | some a =>
      have ha := h.opened a (List.mem_of_getLast? hlast)
      rw [Option.bind_some, if_neg (by omega)]

/-- The interval of a frame is the one from the last frame of the session. -/
lemma present (h : Remembers p session seen) (hon : p.isAttached = true) (now : τ) :
    Remembers (p.present now) session (seen ++ [⟨session, now⟩]) := by
  have hinterval : p.gate.last.map (now - ·) =
      seen.getLast?.bind (·.interval? ⟨session, now⟩) := by
    rw [h.marked hon, Option.map_bind]
    congr 1
    funext a
    by_cases ha : a.session = session <;> simp [Appearance.interval?, ha]
  refine ⟨?_, ?_, fun _ => ?_⟩
  · change (p.rates.record (p.gate.last.map (now - ·))).window = _
    rw [Rates.window_record, Appearance.intervals_snoc, ← hinterval, h.window]
    cases p.gate.last with
    | none => simp
    | some last => exact Rates.push_rtake _ _
  · intro a ha
    rcases List.mem_append.mp ha with ha | ha
    · exact h.opened a ha
    · rw [List.mem_singleton.mp ha]
  · simp [Pipeline.present, Gate.mark]

lemma step (h : Remembers p session seen) (op : Operation τ) :
    Remembers (p.step op).1 (if p.opens op then session + 1 else session)
      (seen ++ (p.appearance? session op).toList) := by
  cases op with
  | tick now =>
    change Remembers (p.answer now).2.1 session
      (seen ++ (if (p.answer now).1 = .presented then some _ else none).toList)
    rcases p.answer_cases now with ⟨-, ha⟩ | ⟨-, -, ha⟩ | ⟨handle, hon, -, hc⟩
    · rw [ha]; exact (List.append_nil seen).symm ▸ h
    · rw [ha]; exact (List.append_nil seen).symm ▸ h
    · rcases hc with ⟨-, ha⟩ | ⟨-, -, ha⟩ | ⟨-, -, ha⟩ <;> rw [ha]
      · exact (List.append_nil seen).symm ▸ h.unmoved rfl rfl id
      · exact (List.append_nil seen).symm ▸ h.unmoved rfl rfl id
      · exact h.present hon now
  | attach => exact (List.append_nil seen).symm ▸ h.attach
  | detach => exact (List.append_nil seen).symm ▸ h.detach
  | drop => exact (List.append_nil seen).symm ▸ h.detach
  | installTicks source =>
    rcases p.installTicks_cases source with ⟨-, hp⟩ | ⟨-, hp⟩ <;> rw [Pipeline.step, hp] <;>
      exact (List.append_nil seen).symm ▸ h.unmoved rfl rfl id
  | compile program backend =>
    rcases p.compile_cases program backend with ⟨-, hp⟩ | ⟨-, -, hp⟩ | ⟨fault, -, -, hp⟩ <;>
      rw [Pipeline.step, hp] <;> exact (List.append_nil seen).symm ▸ h.unmoved rfl rfl id
  | _ => exact (List.append_nil seen).symm ▸ h.unmoved rfl rfl id

lemma run (h : Remembers p session seen) (ops : List (Operation τ)) :
    ∃ n, Remembers (p.run ops).1 n (seen ++ p.appearances session ops) := by
  induction ops generalizing p session seen with
  | nil => exact ⟨session, (List.append_nil seen).symm ▸ h⟩
  | cons op ops ih =>
    obtain ⟨n, hn⟩ := ih (h.step op)
    rw [List.append_assoc] at hn
    exact ⟨n, hn⟩

end Remembers

/-- **Statistics**: the counters are the numbers of ticks with each outcome, the window holds
the last sixty of the intervals between frames that follow each other in one session, oldest
first, and the last interval is the last of them. -/
theorem statistics_of_history (surface : Surface) (rate : UInt32) (start : τ)
    (ops : List (Operation τ)) :
    let p := make surface rate start
    let intervals := Appearance.intervals (p.appearances 0 ops)
    let rates := (p.run ops).1.rates
    rates.frames = (p.outcomes ops).count .presented ∧
      rates.throttled = (p.outcomes ops).count .throttled ∧
      rates.undrawn = (p.outcomes ops).count .noDrawable ∧
      rates.window = intervals.rtake 60 ∧
      rates.lastInterval = intervals.getLast?.getD (Timescale.count 0) := by
  intro p intervals rates
  have hcounted := p.counted_run ops
  obtain ⟨n, hkept⟩ := (remembers_make surface rate start).run ops
  have hwindow : rates.window = intervals.rtake Rates.capacity := hkept.window
  refine ⟨?_, ?_, ?_, hwindow, ?_⟩
  · exact hcounted.frames.trans (Nat.zero_add _)
  · exact hcounted.throttled.trans (Nat.zero_add _)
  · exact hcounted.undrawn.trans (Nat.zero_add _)
  · rw [(current_run surface rate start ops).lastInterval, hwindow, Rates.getLast?_rtake]
    rfl

end Pipeline

end ShaderLoom
