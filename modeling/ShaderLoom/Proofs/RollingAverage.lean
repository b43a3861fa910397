import Mathlib.Data.List.ReduceOption
import ShaderLoom.Frame.Playback
import ShaderLoom.Proofs.DoubleArithmetic
import ShaderLoom.Proofs.Statistics

/-!
The rates that are shown, after any frames whatever.

A frame may come with an interval or without one. The intervals make up one list, and the window
is always the end of it: what has left the window has no say any more, be it infinite or not a
number. The rates are stored, but they are those of the window, so they forget it as well.
-/

namespace ShaderLoom.Rates

open Number

/-! ### Frames in sequence -/

section Sequences

variable {τ : Type}

/-- What is kept of a long list is kept of its end. -/
lemma rtake_append {old recent : List τ} (h : capacity ≤ recent.length) :
    (old ++ recent).rtake capacity = recent.rtake capacity := by
  rw [List.rtake, List.rtake, List.length_append, Nat.add_sub_assoc h, List.drop_append]
  simp

lemma rtake_ne_nil {xs : List τ} (h : xs ≠ []) : xs.rtake capacity ≠ [] := by
  have hpos := List.length_pos_of_ne_nil h
  rw [List.rtake, ne_eq, List.drop_eq_nil_iff, capacity]
  omega

variable [Timescale τ]

/-- The frames that are presented one after another, each with its interval if it has one. -/
def recordAll (r : Rates τ) (frames : List (Option τ)) : Rates τ := frames.foldl record r

/-- The statistics of `n` frames with the intervals `xs`. -/
structure After (n : Nat) (xs : List τ) (r : Rates τ) : Prop where
  counts : r.frames = n ∧ r.throttled = 0 ∧ r.undrawn = 0
  window : r.window = xs.rtake capacity
  current : r.Current

lemma after_empty : After 0 [] (empty : Rates τ) := ⟨⟨rfl, rfl, rfl⟩, rfl, current_empty⟩

namespace After

variable {n : Nat} {xs : List τ} {r q : Rates τ}

lemma record (h : After n xs r) (interval : Option τ) :
    After (n + 1) (xs ++ interval.toList) (r.record interval) := by
  obtain ⟨hframes, hthrottled, hundrawn⟩ := h.counts
  refine ⟨⟨?_, ?_, ?_⟩, ?_, h.current.record interval⟩
  · rw [frames_record, hframes]
  · rw [throttled_record, hthrottled]
  · rw [undrawn_record, hundrawn]
  · rw [window_record, h.window]
    cases interval with
    | none => rw [Option.toList_none, List.append_nil, Option.elim_none]
    | some x => exact push_rtake xs x

lemma recordAll (h : After n xs r) (frames : List (Option τ)) :
    After (n + frames.length) (xs ++ frames.reduceOption) (r.recordAll frames) := by
  induction frames generalizing n xs r with
  | nil => simpa [Rates.recordAll] using h
  | cons interval frames ih =>
    have hintervals : (interval :: frames).reduceOption =
        interval.toList ++ frames.reduceOption := by cases interval <;> rfl
    have hrest := ih (h.record interval)
    rw [Nat.add_assoc, Nat.add_comm 1, List.append_assoc, ← hintervals] at hrest
    exact hrest

/-- The number of frames and their intervals determine the statistics. -/
lemma eq (h : After n xs r) (hq : After n xs q) : r = q := by
  obtain ⟨hframes, hthrottled, hundrawn⟩ := h.counts
  obtain ⟨hframes', hthrottled', hundrawn'⟩ := hq.counts
  have hwindow : r.window = q.window := h.window.trans hq.window.symm
  have hlast : r.lastInterval = q.lastInterval := by
    rw [h.current.lastInterval, hq.current.lastInterval, hwindow]
  have haverage : r.average = q.average := by rw [h.current.average, hq.current.average, hwindow]
  exact Rates.ext (hframes.trans hframes'.symm) (hthrottled.trans hthrottled'.symm)
    (hundrawn.trans hundrawn'.symm) hlast haverage hwindow

end After

/-- The statistics of frames are those of their number and their intervals. -/
lemma after_recordAll (frames : List (Option τ)) :
    After frames.length frames.reduceOption (empty.recordAll frames) := by
  have h := after_empty.recordAll frames
  rwa [Nat.zero_add, List.nil_append] at h

end Sequences

/-! ### The rates of a window -/

lemma ofFloat_zero : Binary32.ofFloat 0 = ⟨0⟩ := by decide +kernel

/-- A number of frames is a divisor like any other. -/
lemma count_pos {n : ℕ} (hpos : 0 < n) (hn : n < 2 ^ 53) : (0 : Float) < Float.ofNat n := by
  obtain ⟨m, e, hm, hparts, -⟩ := unpack_ofNat hpos hn
  have hcompare : (0 : Float).toModel.unpack.compare (Float.ofNat n).toModel.unpack =
      some .lt := by
    rw [hparts]
    rfl
  exact (lt_iff_of_compare hcompare).mpr rfl

lemma Current.averageFps_of_ne_nil {r : Rates Float} (hr : r.Current) (h : r.window ≠ []) :
    r.averageFps =
      if 0 < r.window.foldl (· + ·) 0 / Float.ofNat r.window.length then
        .ofFloat (1 / (r.window.foldl (· + ·) 0 / Float.ofNat r.window.length))
      else ⟨0⟩ := by
  have hsome : r.window.isEmpty = false := by simpa using h
  have hrate : r.averageFps =
      if 0 < r.window.foldl (· + ·) 0 / Float.ofNat r.window.length then
        .ofFloat (1 / (r.window.foldl (· + ·) 0 / Float.ofNat r.window.length))
      else .ofFloat 0 := by
    rw [averageFps, hr.average, hsome]
    rfl
  rw [hrate, ofFloat_zero]

/-- The last sixty of a list, or all if there are fewer. -/
def lastSixty (xs : List Float) : List Float := xs.drop (xs.length - min 60 xs.length)

/-- The sum, from the first on, by the number of summands. -/
def meanOf (xs : List Float) : Float := xs.foldl (· + ·) 0 / Float.ofNat xs.length

/-- **Rolling average**: after any frames, with intervals of any kind, their number is counted,
and the average is that of the last sixty intervals, summed from the oldest on. It is the rate of
that mean if the mean is positive, and zero otherwise; a frame without an interval leaves the
rates as they are, and with sixty intervals behind them two histories show the same average. -/
theorem rolling_average (frames : List (Option Float)) :
    (empty.recordAll frames).frames = frames.length ∧
      (empty.recordAll frames).window = lastSixty frames.reduceOption ∧
      (frames.reduceOption = [] → (empty.recordAll frames).averageFps = ⟨0⟩) ∧
      (frames.reduceOption ≠ [] →
        (0 < (lastSixty frames.reduceOption).length ∧
          (0 : Float) < Float.ofNat (lastSixty frames.reduceOption).length) ∧
        (empty.recordAll frames).averageFps =
          if 0 < meanOf (lastSixty frames.reduceOption) then
            .ofFloat (1 / meanOf (lastSixty frames.reduceOption))
          else ⟨0⟩) ∧
      (empty.recordAll frames).lastInterval = frames.reduceOption.getLast?.getD 0 ∧
      (∀ before after, frames = before ++ none :: after →
        empty.recordAll frames =
          { empty.recordAll (before ++ after) with frames := frames.length }) ∧
      ∀ others old old' recent, frames.reduceOption = old ++ recent →
        others.reduceOption = old' ++ recent → 60 ≤ recent.length →
        (empty.recordAll frames).averageFps = (empty.recordAll others).averageFps := by
  have hafter := after_recordAll frames
  have hr := hafter.current
  have hkept : (empty.recordAll frames).window = lastSixty frames.reduceOption := by
    rw [hafter.window]
    change frames.reduceOption.drop (frames.reduceOption.length - 60) = _
    rw [lastSixty]
    congr 1
    omega
  refine ⟨hafter.counts.1, hkept, fun hnil => ?_, fun hsome => ?_, ?_,
    fun before after hframes => ?_, fun others old old' recent hold hold' hlong => ?_⟩
  · have hempty : (empty.recordAll frames).window = [] := by rw [hafter.window, hnil]; rfl
    rw [averageFps, hr.average, hempty]
    exact ofFloat_zero
  · have hwindow : (empty.recordAll frames).window ≠ [] := by
      rw [hafter.window]
      exact rtake_ne_nil hsome
    have haverage := hr.averageFps_of_ne_nil hwindow
    rw [hkept] at haverage hwindow
    have hpos : 0 < (lastSixty frames.reduceOption).length := List.length_pos_of_ne_nil hwindow
    have hle : (lastSixty frames.reduceOption).length ≤ 60 := by
      rw [lastSixty, List.length_drop]
      omega
    exact ⟨⟨hpos, count_pos hpos (by omega)⟩, haverage⟩
  · rw [hr.lastInterval, hafter.window, getLast?_rtake]
    rfl
  · have hsame : (before ++ after).reduceOption = frames.reduceOption := by
      rw [hframes, List.reduceOption_append, List.reduceOption_append,
        List.reduceOption_cons_of_none]
    have hothers := after_recordAll (before ++ after)
    rw [hsame] at hothers
    exact hafter.eq ⟨⟨rfl, hothers.counts.2⟩, hothers.window, hothers.current.unmoved rfl rfl rfl⟩
  · have hothers := after_recordAll others
    have hwindow : (empty.recordAll others).window = (empty.recordAll frames).window := by
      rw [hothers.window, hafter.window, hold, hold', rtake_append hlong, rtake_append hlong]
    rw [averageFps, averageFps, hr.average, hothers.current.average, hwindow]

/-- Sixty frames half a second apart, after whatever came before. -/
def steady (before : List (Option Float)) : List (Option Float) :=
  before ++ List.replicate 60 (some 0.5)

/-- A frame without an interval, then intervals that are not a number, infinite and negative. -/
def spoiled : List (Option Float) := [none, some (0 / 0), some (1 / 0), some (-7)]

/-- What was not a number has left the window, and no frame needs an interval. -/
theorem rolling_average_spoiled :
    (steady spoiled).reduceOption ≠ [] ∧ (empty.recordAll (steady spoiled)).frames = 64 ∧
      (empty.recordAll (steady spoiled)).averageFps = ⟨0x40000000⟩ ∧
      (empty.recordAll (steady spoiled)).averageFps = (empty.recordAll (steady [])).averageFps ∧
      (empty.recordAll [none, none]).averageFps = ⟨0⟩ := by
  have hsome : (steady spoiled).reduceOption ≠ [] := nofun
  obtain ⟨hframes, -, -, haverage, -, -, hsame⟩ := rolling_average (steady spoiled)
  obtain ⟨-, -, hnone, -⟩ := rolling_average [none, none]
  refine ⟨hsome, hframes, (haverage hsome).2.trans (by decide +kernel), ?_, hnone rfl⟩
  exact hsame (steady []) [0 / 0, 1 / 0, -7] [] (List.replicate 60 0.5) rfl rfl (by simp)

end ShaderLoom.Rates
