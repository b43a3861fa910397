import ShaderLoom.Frame.Redraw
import ShaderLoom.Proofs.DoubleArithmetic
import ShaderLoom.Proofs.Operations

/-!
When the next frame is due, and what a tick at that time comes to.

The instant that is announced is the last instant and an interval, rounded; the gate compares the
time that has passed, rounded, with the interval. The two can differ only at the announced instant
itself and where the difference before it rounds up to an interval. A difference is exact as long
as it is no more than what is subtracted, so the gate itself is exact from the end of the first
interval on, and then a tick at the announced instant is throttled if the sum was rounded down.
-/

namespace ShaderLoom

open Number

namespace Number

/-! ### An interval after an instant -/

section Interval

variable {last interval now : Float} (hlast : last.isFinite = true)
  (hinterval : interval.isFinite = true) (hnow : now.isFinite = true)

include hlast hinterval hnow

/-- Behind the announced instant the interval has passed. -/
lemma interval_le_of_add_lt (h : last + interval < now) : interval ≤ now - last := by
  obtain ⟨d, hd, hsum⟩ := exists_add hlast hinterval
  obtain ⟨δ, hδ, hdiff⟩ := exists_sub hnow hlast
  have hlt : d < exactValue now := (hsum.gt_iff hnow).mp h
  have hpassed : exactValue last + exactValue interval < exactValue now := by
    by_contra hnot
    have := hd.above _ (representable_exactValue hnow) (not_lt.mp hnot)
    linarith
  refine (hdiff.le_iff hinterval).mpr (hδ.above _ (representable_exactValue hinterval) ?_)
  linarith

/-- Before it the interval has not passed, or the time that has is rounded up to it. -/
lemma not_interval_le_of_lt_add (h : now < last + interval) :
    ¬interval ≤ now - last ∨ (interval == now - last) = true := by
  obtain ⟨d, hd, hsum⟩ := exists_add hlast hinterval
  obtain ⟨δ, hδ, hdiff⟩ := exists_sub hnow hlast
  have hlt : exactValue now < d := (hsum.lt_iff hnow).mp h
  have hearly : exactValue now < exactValue last + exactValue interval := by
    by_contra hnot
    have := hd.below _ (representable_exactValue hnow) (not_lt.mp hnot)
    linarith
  have hle : δ ≤ exactValue interval :=
    hδ.below _ (representable_exactValue hinterval) (by linarith)
  rw [hdiff.le_iff hinterval, hdiff.beq_iff hinterval, not_le]
  exact hle.lt_or_eq.imp id Eq.symm

/-- From the end of the first interval on, the time that has passed is compared exactly. -/
lemma interval_le_iff (hpos : 0 < exactValue interval) (hfirst : interval ≤ last) :
    interval ≤ now - last ↔ exactValue last + exactValue interval ≤ exactValue now := by
  obtain ⟨δ, hδ, hdiff⟩ := exists_sub hnow hlast
  have hfirst' : exactValue interval ≤ exactValue last :=
    ((StandsAt.of_isFinite hlast).le_iff hinterval).mp hfirst
  rw [hdiff.le_iff hinterval]
  constructor
  · intro hle
    by_contra hnot
    rw [not_le] at hnot
    rcases le_or_gt (exactValue last) (exactValue now) with hafter | hbefore
    · have hexact := hδ.eq_of_representable (representable_sub (representable_exactValue hnow)
        (representable_exactValue hlast) hafter (by linarith))
      linarith
    · have := hδ.below 0 representable_zero (by linarith)
      linarith
  · intro hle
    exact hδ.above _ (representable_exactValue hinterval) (by linarith)

/-- The exact end of the interval lies behind an instant if the announced one does, or if it is
that instant and was rounded down. -/
lemma lt_add_iff :
    exactValue now < exactValue last + exactValue interval ↔
      now < last + interval ∨ ((now == last + interval) = true ∧
        exactValue now < exactValue last + exactValue interval) := by
  obtain ⟨d, hd, hsum⟩ := exists_add hlast hinterval
  rw [hsum.lt_iff hnow, hsum.beq_iff hnow]
  constructor
  · intro hlt
    have hle := hd.above _ (representable_exactValue hnow) hlt.le
    exact hle.lt_or_eq.imp id fun heq => ⟨heq, hlt⟩
  · rintro (hlt | ⟨-, hlt⟩)
    · by_contra hnot
      have := hd.below _ (representable_exactValue hnow) (not_lt.mp hnot)
      linarith
    · exact hlt

/-- At the announced instant or behind it, the interval has passed or that instant is now. -/
lemma beq_add_of_le (hle : last + interval ≤ now) (hnot : ¬interval ≤ now - last) :
    (now == last + interval) = true := by
  obtain ⟨d, hd, hsum⟩ := exists_add hlast hinterval
  have hge := (hsum.ge_iff hnow).mp hle
  refine (hsum.beq_iff hnow).mpr (hge.antisymm ?_).symm
  by_contra hlt
  exact hnot (interval_le_of_add_lt hlast hinterval hnow
    ((hsum.gt_iff hnow).mpr (not_le.mp hlt)))

end Interval

end Number

/-! ### The gate of a session -/

lemma Redraw.le_of_schedule? {due now : Float} (h : Redraw.schedule? (some due) now = some .now) :
    due ≤ now := by
  unfold Redraw.schedule? at h
  by_contra hnot
  dsimp only at h
  rw [if_neg hnot] at h
  cases hwait : Redraw.wait? (Format.double.read (due - now).toBits.toNat) <;> simp [hwait] at h

namespace Pipeline

section Session

variable {τ : Type} [Timescale τ]

/-- A tick of an attached, compiled pipeline is throttled while the gate is not open. -/
lemma outcome_throttled_iff {p : Pipeline τ} (hon : p.isAttached = true) {handle : Nat}
    (hhandle : p.handle = some handle) (now : τ) :
    p.outcome now = .throttled ↔ p.gate.isDue now = false := by
  rcases p.answer_cases now with ⟨hoff, -⟩ | ⟨-, hnone, -⟩ | ⟨_, -, -, hc⟩
  · simp [hon] at hoff
  · simp [hhandle] at hnone
  · rcases hc with ⟨hd, h⟩ | ⟨hd, -, h⟩ | ⟨hd, -, h⟩ <;> simp [outcome, h, hd]

end Session

lemma interval_double (surface : Surface) (rate : UInt32) (start : Float)
    (ops : List (Operation Float)) :
    ((make surface rate start).run ops).1.gate.interval.isFinite = true ∧
      0 < exactValue ((make surface rate start).run ops).1.gate.interval := by
  rw [(run_pace _ _).1]
  refine reciprocal (Gate.clampRate_pos rate) ?_
  have hrate := rate.toNat_lt
  unfold Gate.clampRate
  omega

/-- **Due instants**: a tick behind the announced instant is not throttled, and one before it is,
unless the time since the last frame is rounded up to the interval. A tick for which a redraw was
asked is throttled at the announced instant only. From the end of the first interval of the clock
on, the gate is exact, and the announced instant is too early if the sum was rounded down. -/
theorem due_instant (surface : Surface) (rate : UInt32) (start : Float)
    (before session : List (Operation Float)) {q p : Pipeline Float}
    (hq : q = ((make surface rate start).run before).1) (hoff : q.isAttached = false)
    (hon : ∀ op ∈ session, op.endsSession = false) (hp : p = (q.run (.attach :: session)).1)
    {shot : Shot Float} (hshot : (q.shots (.attach :: session)).getLast? = some shot)
    (hlast : shot.instant.isFinite = true) {due : Float} (hdue : p.nextDue = some due)
    {now : Float} (hnow : now.isFinite = true) :
    (due < now → p.outcome now ≠ .throttled) ∧
      (now < due → p.outcome now = .throttled ∨
        (p.gate.interval == now - shot.instant) = true) ∧
      (Redraw.schedule? p.nextDue now = some .now → p.outcome now = .throttled →
        (now == due) = true) ∧
      (p.gate.interval ≤ shot.instant →
        (p.outcome now = .throttled ↔
          now < due ∨ ((now == due) = true ∧
            exactValue now < exactValue shot.instant + exactValue p.gate.interval))) := by
  -- the state in which the tick comes
  obtain ⟨hattached, hmark⟩ := run_attach hoff hon hp
  rw [hshot, Option.map_some] at hmark
  obtain ⟨hinterval, hpos⟩ : p.gate.interval.isFinite = true ∧ 0 < exactValue p.gate.interval := by
    have h := interval_double surface rate start (before ++ .attach :: session)
    rw [run_append, ← hq, ← hp] at h
    exact h
  obtain ⟨handle, hhandle⟩ : ∃ handle, p.handle = some handle := by
    cases hh : p.handle with
    | none => simp [nextDue, hattached, hh] at hdue
    | some handle => exact ⟨handle, rfl⟩
  have hdue' : due = shot.instant + p.gate.interval := by
    simpa [nextDue, hattached, hhandle, Gate.nextDue, hmark] using hdue.symm
  -- the tick is throttled unless the interval has passed
  have hthrottled : p.outcome now = .throttled ↔ ¬p.gate.interval ≤ now - shot.instant := by
    rw [outcome_throttled_iff hattached hhandle, Gate.isDue, hmark]
    exact decide_eq_false_iff_not
  rw [ne_eq, hthrottled, hdue, hdue']
  refine ⟨fun h => not_not.mpr (interval_le_of_add_lt hlast hinterval hnow h),
    fun h => not_interval_le_of_lt_add hlast hinterval hnow h,
    fun h hnot => beq_add_of_le hlast hinterval hnow (Redraw.le_of_schedule? h) hnot,
    fun hfirst => ?_⟩
  rw [interval_le_iff hlast hinterval hnow hpos hfirst, not_le]
  exact lt_add_iff hlast hinterval hnow

/-- Ten frames a second, and one at half a second. -/
def halfSecond : Pipeline Float :=
  ((make ⟨8, 6, true⟩ 10 (0 : Float)).run [.compile ⟨""⟩ fun _ => none, .attach, .tick 0.5]).1

/-- The announced instant can come too early: a redraw is asked, and the tick is throttled. -/
theorem throttled_when_due :
    halfSecond.nextDue = some 0.6 ∧ Redraw.schedule? halfSecond.nextDue 0.6 = some .now ∧
      halfSecond.outcome 0.6 = .throttled := by
  decide +kernel

/-- The announced instant was rounded down there. -/
theorem due_instant_half_second :
    halfSecond.gate.interval ≤ 0.5 ∧ halfSecond.outcome 0.6 = .throttled ∧
      exactValue 0.6 < exactValue 0.5 + exactValue halfSecond.gate.interval := by
  have hlast : (((make ⟨8, 6, true⟩ 10 (0 : Float)).run
      [.compile ⟨""⟩ fun _ => none]).1.shots [.attach, .tick 0.5]).getLast? =
        some ⟨0.5, 0, 0.5, 8, 6⟩ := by rfl
  have hdue : halfSecond.nextDue = some 0.6 := by decide +kernel
  have hfirst : halfSecond.gate.interval ≤ 0.5 := by decide +kernel
  have hthrottled : halfSecond.outcome 0.6 = .throttled := by decide +kernel
  obtain ⟨-, -, -, hexact⟩ :=
    due_instant ⟨8, 6, true⟩ 10 0 [.compile ⟨""⟩ fun _ => none] [.tick 0.5] rfl rfl
      (by decide) rfl hlast (by decide) hdue (by decide : (0.6 : Float).isFinite = true)
  rcases (hexact hfirst).mp hthrottled with hlt | ⟨-, hdown⟩
  · exact absurd hlt (by decide)
  · exact ⟨hfirst, hthrottled, hdown⟩

end Pipeline

end ShaderLoom
