import Mathlib.Algebra.Order.BigOperators.Group.List
import Mathlib.Algebra.Order.Field.Basic
import Mathlib.Data.List.Nodup
import ShaderLoom.Proofs.FrameRate
import ShaderLoom.Proofs.Statistics

/-!
The rates that are shown never exceed the rate that is asked for, measured in exact rationals.

A frame is presented an interval of the gate or more after the one before it in its session. So
every interval in the window is at least that long, whatever was evicted from it, and so is their
mean. There is an interval as soon as one session has two frames.
-/

namespace ShaderLoom

/-! ### Means -/

lemma sum_eq (xs : List ℚ) : Timescale.sum xs = xs.sum := by
  have h : Timescale.sum xs = xs.foldl (· + ·) ((0 : ℕ) : ℚ) := rfl
  rw [h, Nat.cast_zero, List.sum_eq_foldl]

namespace Rates

/-- A mean is at least what all its terms are. -/
lemma le_mean {d : ℚ} {xs : List ℚ} (hne : xs ≠ []) (h : ∀ x ∈ xs, d ≤ x) : d ≤ mean xs := by
  have hmean : mean xs = xs.sum / (xs.length : ℚ) := by rw [← sum_eq]; rfl
  have hpos : (0 : ℚ) < xs.length := by exact_mod_cast List.length_pos_of_ne_nil hne
  rw [hmean, le_div_iff₀ hpos]
  calc d * xs.length = xs.length • d := by rw [nsmul_eq_mul, mul_comm]
    _ ≤ xs.sum := List.card_nsmul_le_sum xs d h

/-- What comes after a push is the new interval or was there before. -/
lemma mem_push {x y : ℚ} {window : List ℚ} (h : y ∈ push window x) : y ∈ window ∨ y = x := by
  have hlonger : y ∈ window ++ [x] := by
    unfold push at h
    dsimp only at h
    split at h
    · exact List.mem_of_mem_tail h
    · exact h
  simpa using hlonger

/-- The stored average. Nothing is rounded on rationals. -/
def exactAverage (r : Rates ℚ) : ℚ := r.average

def exactInstant (r : Rates ℚ) : ℚ := r.instant

/-- The rate of an interval, as a rational. -/
def exactRate (x : ℚ) : ℚ := if 0 < x then 1 / x else 0

lemma exactInstant_eq (r : Rates ℚ) : r.exactInstant = exactRate r.lastInterval := rfl

lemma Current.exactAverage_eq {r : Rates ℚ} (h : r.Current) :
    r.exactAverage = if r.window.isEmpty then 0 else exactRate (mean r.window) := h.average

lemma exactRate_bounds {d x : ℚ} (hd : 0 < d) (h : d ≤ x) :
    0 < exactRate x ∧ exactRate x ≤ 1 / d := by
  have hx : 0 < x := hd.trans_le h
  rw [exactRate, if_pos hx]
  exact ⟨one_div_pos.mpr hx, one_div_le_one_div_of_le hd h⟩

namespace Current

variable {r : Rates ℚ}

/-- Before there is an interval no rate is shown. -/
lemma rates_of_nil (hr : r.Current) (h : r.window = []) :
    r.exactAverage = 0 ∧ r.exactInstant = 0 := by
  refine ⟨?_, ?_⟩
  · rw [hr.exactAverage_eq, h]
    rfl
  · have hlast : r.lastInterval = 0 := by rw [hr.lastInterval, h]; rfl
    rw [exactInstant_eq, hlast, exactRate, if_neg (lt_irrefl _)]

/-- Rates of intervals that are at least `d` long. -/
lemma rates_bounds (hr : r.Current) {d : ℚ} (hd : 0 < d) (hne : r.window ≠ [])
    (h : ∀ x ∈ r.window, d ≤ x) :
    (0 < r.exactAverage ∧ r.exactAverage ≤ 1 / d) ∧
      0 < r.exactInstant ∧ r.exactInstant ≤ 1 / d := by
  refine ⟨?_, ?_⟩
  · have hsome : r.window.isEmpty = false := by simpa using hne
    rw [hr.exactAverage_eq, hsome]
    exact exactRate_bounds hd (le_mean hne h)
  · have hlast : r.lastInterval = r.window.getLast hne := by
      rw [hr.lastInterval, List.getLast?_eq_some_getLast hne, Option.getD_some]
    rw [exactInstant_eq, hlast]
    exact exactRate_bounds hd (h _ (List.getLast_mem hne))

end Current

end Rates

/-! ### Intervals in the window -/

namespace Pipeline

/-- No interval in the window is shorter than that of the gate. -/
def Spaced (p : Pipeline ℚ) : Prop := ∀ x ∈ p.rates.window, p.gate.interval ≤ x

lemma Spaced.step {p : Pipeline ℚ} (h : p.Spaced) (op : Operation ℚ) : (p.step op).1.Spaced := by
  intro x hx
  rw [(p.step_pace op).1]
  rcases p.rates_cases op with ⟨-, hr⟩ | ⟨-, hr⟩ | ⟨-, hr⟩ | ⟨now, -, hdue, hr⟩ <;> rw [hr] at hx
  · exact h x hx
  · exact h x hx
  · exact h x hx
  · -- the gate was open, so the new interval is long enough
    rw [Rates.window_record] at hx
    cases hlast : p.gate.last with
    | none =>
      rw [hlast] at hx
      exact h x hx
    | some last =>
      rw [hlast] at hx
      rcases Rates.mem_push hx with hold | rfl
      · exact h x hold
      · have hlater := (Gate.isDue_iff p.gate now).mp hdue last hlast
        change p.gate.interval ≤ (now : ℚ) - last
        linarith

lemma spaced_run (surface : Surface) (rate : UInt32) (start : ℚ) (ops : List (Operation ℚ)) :
    ((make surface rate start).run ops).1.Spaced :=
  run_preserves (I := Spaced) (fun _ op h => h.step op) (fun _ hx => absurd hx List.not_mem_nil) ops

end Pipeline

/-! ### Sessions of frames -/

section Sessions

variable {τ : Type}

/-- The sessions that frames belong to. -/
def Appearance.sessions (as : List (Appearance τ)) : List Nat := as.map Appearance.session

variable [Timescale τ]

/-- Frames in the order of their sessions have no intervals if each has a session of its own. -/
lemma Appearance.intervals_eq_nil_iff {as : List (Appearance τ)}
    (h : (sessions as).Pairwise (· ≤ ·)) : intervals as = [] ↔ (sessions as).Nodup := by
  induction as with
  | nil => simp [intervals, sessions]
  | cons a as ih =>
    cases as with
    | nil => simp [intervals, sessions]
    | cons b as =>
      obtain ⟨hfirst, hrest⟩ := List.pairwise_cons.mp h
      have hab : a.session ≤ b.session := hfirst _ (by simp)
      have hmem : a.session ∈ sessions (b :: as) ↔ a.session = b.session := by
        refine ⟨fun ha => ?_, fun hs => by simp [sessions, hs]⟩
        rcases List.mem_cons.mp ha with hs | ha
        · exact hs
        · exact le_antisymm hab ((List.pairwise_cons.mp hrest).1 _ ha)
      have hinterval : a.interval? b = none ↔ a.session ≠ b.session := by simp [interval?]
      rw [intervals_cons_cons, List.append_eq_nil_iff, ih hrest, Option.toList_eq_nil_iff,
        hinterval]
      change _ ↔ (a.session :: sessions (b :: as)).Nodup
      rw [List.nodup_cons, hmem]

/-- Frames appear in the order of their sessions, from the current one on. -/
lemma Pipeline.sessions_appearances (p : Pipeline τ) (session : Nat) (ops : List (Operation τ)) :
    (∀ n ∈ Appearance.sessions (p.appearances session ops), session ≤ n) ∧
      (Appearance.sessions (p.appearances session ops)).Pairwise (· ≤ ·) := by
  induction ops generalizing p session with
  | nil => simp [appearances, Appearance.sessions]
  | cons op ops ih =>
    set later := if p.opens op then session + 1 else session with hlater
    have hle : session ≤ later := by rw [hlater]; split <;> omega
    obtain ⟨hfrom, hsorted⟩ := ih (p.step op).1 later
    have hsplit : Appearance.sessions (p.appearances session (op :: ops)) =
        Appearance.sessions (p.appearance? session op).toList ++
          Appearance.sessions ((p.step op).1.appearances later ops) := List.map_append
    have hfirst : Appearance.sessions (p.appearance? session op).toList = [] ∨
        Appearance.sessions (p.appearance? session op).toList = [session] := by
      cases op with
      | tick now =>
        by_cases h : p.outcome now = .presented <;> simp [appearance?, h, Appearance.sessions]
      | _ => exact .inl rfl
    rw [hsplit]
    rcases hfirst with hnone | hone
    · rw [hnone, List.nil_append]
      exact ⟨fun n hn => hle.trans (hfrom n hn), hsorted⟩
    · rw [hone, List.singleton_append]
      exact ⟨fun n hn => (List.mem_cons.mp hn).elim (fun h => h.ge) fun h => hle.trans (hfrom n h),
        List.pairwise_cons.mpr ⟨fun n hn => hle.trans (hfrom n hn), hsorted⟩⟩

end Sessions

namespace Pipeline

/-- There are intervals exactly if some session has presented two frames. -/
lemma window_ne_nil_iff (surface : Surface) (rate : UInt32) (start : ℚ)
    (ops : List (Operation ℚ)) :
    ((make surface rate start).run ops).1.rates.window ≠ [] ↔
      ∃ n, 2 ≤ (Appearance.sessions ((make surface rate start).appearances 0 ops)).count n := by
  obtain ⟨n, hkept⟩ := (remembers_make surface rate start).run ops
  rw [List.nil_append] at hkept
  have hsorted := ((make surface rate start).sessions_appearances 0 ops).2
  have hnil (xs : List ℚ) : xs.rtake Rates.capacity = [] ↔ xs = [] := by
    rw [List.rtake, List.drop_eq_nil_iff, Rates.capacity, ← List.length_eq_zero_iff]
    omega
  rw [ne_eq, hkept.window, hnil, Appearance.intervals_eq_nil_iff hsorted,
    List.nodup_iff_count_le_one]
  simp only [not_forall, not_le, Nat.succ_le_iff]

/-- **Rates below the cap**: in every state the stored average and the rate of the stored last
interval lie between zero and the rate that was asked for, or one if that was zero. They are
positive as soon as some session has presented two frames, and zero before. -/
theorem rates_below_cap (surface : Surface) (rate : UInt32) (start : ℚ)
    (ops : List (Operation ℚ)) :
    let p := make surface rate start
    let rates := (p.run ops).1.rates
    let cap : ℚ := (max rate.toNat 1 : ℕ)
    let sessions := Appearance.sessions (p.appearances 0 ops)
    (0 ≤ rates.exactAverage ∧ rates.exactAverage ≤ cap) ∧
      (0 ≤ rates.exactInstant ∧ rates.exactInstant ≤ cap) ∧
      (0 < rates.exactAverage ↔ ∃ n, 2 ≤ sessions.count n) ∧
      (0 < rates.exactInstant ↔ ∃ n, 2 ≤ sessions.count n) ∧
      (rates.exactAverage = 0 ↔ ∀ n, sessions.count n ≤ 1) ∧
      (rates.exactInstant = 0 ↔ ∀ n, sessions.count n ≤ 1) := by
  intro p rates cap sessions
  have hcap : 0 < cap := by
    have hpos : 1 ≤ max rate.toNat 1 := Gate.clampRate_pos rate
    change (0 : ℚ) < (max rate.toNat 1 : ℕ)
    exact_mod_cast hpos
  have hcurrent : rates.Current := current_run surface rate start ops
  have hspaced : ∀ x ∈ rates.window, 1 / cap ≤ x := by
    have h := spaced_run surface rate start ops
    rwa [Spaced, (run_pace _ _).1, interval_make] at h
  have hwindow : rates.window ≠ [] ↔ ∃ n, 2 ≤ sessions.count n :=
    window_ne_nil_iff surface rate start ops
  have hnone : (∀ n, sessions.count n ≤ 1) ↔ ¬∃ n, 2 ≤ sessions.count n := by
    simp only [not_exists, not_le, Nat.lt_succ_iff]
  rw [hnone, ← hwindow]
  by_cases hempty : rates.window = []
  · obtain ⟨haverage, hinstant⟩ := hcurrent.rates_of_nil hempty
    simp [haverage, hinstant, hempty, hcap.le]
  · obtain ⟨⟨ha, hacap⟩, hi, hicap⟩ := hcurrent.rates_bounds (one_div_pos.mpr hcap) hempty hspaced
    rw [one_div_one_div] at hacap hicap
    simp [ha, hi, hacap, hicap, hempty, ha.le, hi.le, ha.ne', hi.ne']

/-- Frames one interval apart reach the cap. -/
example :
    let ops : List (Operation ℚ) :=
      [.attach, .compile ⟨"a"⟩ fun _ => none, .tick 0, .tick (1 / 20), .tick (1 / 10)]
    let rates := ((make ⟨8, 6, true⟩ 10 0).run ops).1.rates
    rates.exactAverage = 10 ∧ rates.exactInstant = 10 := by
  decide +kernel

end Pipeline

end ShaderLoom
