import Mathlib.Algebra.Order.Field.Rat
import Mathlib.Data.List.Pairwise
import Mathlib.Tactic.Linarith
import ShaderLoom.Proofs.Operations

/-!
How fast frames follow each other, measured in exact rationals.

In one session every frame comes an interval or more after the one before it, whatever ticks
came between them and in whatever order. Points that lie an interval apart are at most one more
in any window than intervals fit into it.
-/

namespace ShaderLoom

/-! ### Points that lie apart -/

/-- Behind the first of several points that lie `d` apart, `d` fits once for each other. -/
lemma length_mul_le {d b x : ℚ} {xs : List ℚ} (h : (x :: xs).Pairwise fun s t => s + d ≤ t)
    (hx : x ≤ b) (hb : ∀ y ∈ xs, y ≤ b) : xs.length * d ≤ b - x := by
  induction xs generalizing x with
  | nil => simpa using hx
  | cons y ys ih =>
    rw [List.pairwise_cons] at h
    have hxy := h.1 y (by simp)
    have hrest := ih h.2 (hb y (by simp)) fun z hz => hb z (by simp [hz])
    rw [List.length_cons, Nat.cast_succ, add_mul, one_mul]
    linarith

/-- A window of length `b - a` holds at most one point more than intervals. -/
lemma length_le_of_apart {n a b : ℚ} (hn : 0 < n) (hab : a ≤ b) {xs : List ℚ}
    (h : xs.Pairwise fun s t => s + 1 / n ≤ t) (ha : ∀ x ∈ xs, a ≤ x) (hb : ∀ x ∈ xs, x ≤ b) :
    xs.length ≤ n * (b - a) + 1 := by
  cases xs with
  | nil =>
    have := mul_nonneg hn.le (sub_nonneg.mpr hab)
    simp only [List.length_nil, Nat.cast_zero]
    linarith
  | cons x xs =>
    have hfit := length_mul_le h (hb x (by simp)) fun y hy => hb y (by simp [hy])
    have hle : (xs.length : ℚ) * (1 / n) ≤ b - a := by linarith [ha x (by simp)]
    rw [mul_one_div, div_le_iff₀ hn] at hle
    rw [List.length_cons, Nat.cast_succ]
    linarith

/-! ### The gate on rationals -/

lemma clip_eq_max (x : ℚ) : Timescale.clip x = max x 0 := by
  have h : Timescale.clip x = if 0 < x then x else 0 := rfl
  rw [h]
  split
  · next hx => exact (max_eq_left hx.le).symm
  · next hx => exact (max_eq_right (not_lt.mp hx)).symm

namespace Gate

lemma isDue_iff (g : Gate ℚ) (now : ℚ) :
    g.isDue now = true ↔ ∀ last ∈ g.last, last + g.interval ≤ now := by
  unfold isDue
  cases g.last with
  | none => simp
  | some last =>
    have h : decide (g.interval ≤ now - last) = true ↔ last + g.interval ≤ now := by
      rw [decide_eq_true_iff, add_comm]
      exact le_sub_iff_add_le
    simpa using h

end Gate

/-- The frames of a session that began at `since`, at the rate `fps`. -/
structure Paced (fps since : ℚ) (shots : List (Shot ℚ)) : Prop where
  apart : shots.Pairwise fun s t => s.instant < t.instant ∧ 1 / fps ≤ t.instant - s.instant
  few : ∀ a b, a ≤ b →
    (shots.filter fun s => a ≤ s.instant ∧ s.instant ≤ b).length ≤ fps * (b - a) + 1
  elapsed : ∀ s ∈ shots, s.frame.elapsed = max (s.instant - since) 0
  growing : shots.Pairwise fun s t => s.frame.elapsed ≤ t.frame.elapsed

/-- Frames an interval apart, with the times since the attachment, are paced. -/
lemma Paced.of_apart {fps since : ℚ} (hfps : 0 < fps) {shots : List (Shot ℚ)}
    (hapart : shots.Pairwise fun s t => s.instant + 1 / fps ≤ t.instant)
    (helapsed : ∀ s ∈ shots, s.frame.elapsed = max (s.instant - since) 0) :
    Paced fps since shots := by
  have hpos : 0 < 1 / fps := one_div_pos.mpr hfps
  refine ⟨?_, fun a b hab => ?_, helapsed, ?_⟩
  · exact hapart.imp fun h => ⟨by linarith, by linarith⟩
  · set inside := shots.filter fun s => a ≤ s.instant ∧ s.instant ≤ b with hinside
    have hmem : ∀ x ∈ inside.map Shot.instant, a ≤ x ∧ x ≤ b := by
      intro x hx
      obtain ⟨s, hs, rfl⟩ := List.mem_map.mp hx
      simpa using (List.mem_filter.mp hs).2
    have hin : (inside.map Shot.instant).Pairwise fun s t => s + 1 / fps ≤ t :=
      List.pairwise_map.mpr (hapart.sublist List.filter_sublist)
    have hlen := length_le_of_apart hfps hab hin (fun x hx => (hmem x hx).1)
      fun x hx => (hmem x hx).2
    rwa [List.length_map] at hlen
  · refine hapart.imp_of_mem fun {s t} hs ht h => ?_
    rw [helapsed s hs, helapsed t ht]
    exact max_le_max (by linarith) le_rfl

namespace Pipeline

lemma interval_make (surface : Surface) (rate : UInt32) (now : ℚ) :
    (make surface rate now).gate.interval = 1 / (Gate.clampRate rate : ℚ) := rfl

/-- From any point of a session on, every frame comes an interval after the mark of the gate
and after every frame before it. -/
theorem shots_session {p : Pipeline ℚ} (ha : p.isAttached = true) (hi : 0 ≤ p.gate.interval)
    {ops : List (Operation ℚ)} (hops : ∀ op ∈ ops, op.endsSession = false) :
    (∀ s ∈ p.shots ops, ∀ last ∈ p.gate.last, last + p.gate.interval ≤ s.instant) ∧
      ((p.shots ops).Pairwise fun s t => s.instant + p.gate.interval ≤ t.instant) ∧
      ∀ s ∈ p.shots ops, s.frame.elapsed = max (s.instant - p.since) 0 := by
  induction ops generalizing p with
  | nil => simp [shots]
  | cons op ops ih =>
    obtain ⟨ha', hsince, hgate⟩ := step_session ha (hops op (by simp))
    have hi' : (p.step op).1.gate.interval = p.gate.interval := (p.step_pace op).1
    obtain ⟨hmark, hapart, helapsed⟩ :=
      ih ha' (by rw [hi']; exact hi) fun o ho => hops o (by simp [ho])
    rw [hi'] at hmark hapart
    rw [hsince] at helapsed
    rcases p.shotsOf_cases op with hnone | ⟨now, handle, -, -, hdue, -, hshot⟩
    · rw [hnone] at hgate
      rw [shots, hnone, List.nil_append]
      exact ⟨by rwa [hgate] at hmark, hapart, helapsed⟩
    · rw [hshot] at hgate
      have hlater : ∀ s ∈ (p.step op).1.shots ops, now + p.gate.interval ≤ s.instant :=
        fun s hs => hmark s hs now (by rw [hgate]; rfl)
      have hearlier := (Gate.isDue_iff p.gate now).mp hdue
      rw [shots, hshot, List.singleton_append]
      refine ⟨?_, List.pairwise_cons.mpr ⟨hlater, hapart⟩, ?_⟩
      · intro s hs last hlast
        have hnow := hearlier last hlast
        rcases List.mem_cons.mp hs with rfl | hs
        · exact hnow
        · linarith [hlater s hs]
      · intro s hs
        rcases List.mem_cons.mp hs with rfl | hs
        · exact clip_eq_max _
        · exact helapsed s hs

/-- **Frame-rate ceiling**: whatever happened before, the frames that a session presents are
paced by the rate that was asked for, or by one if that was zero, and show the time since its
attachment. -/
theorem frame_rate_ceiling (surface : Surface) (rate : UInt32) (start : ℚ)
    (before session : List (Operation ℚ)) {p : Pipeline ℚ}
    (hp : p = ((make surface rate start).run before).1) (hoff : p.isAttached = false)
    (hon : ∀ op ∈ session, op.endsSession = false) :
    (p.run (.attach :: session)).2.filterMap Event.frame? =
        (p.shots (.attach :: session)).map Shot.frame ∧
      Paced (max rate.toNat 1 : ℕ) p.clock.now (p.shots (.attach :: session)) := by
  refine ⟨p.frames_run _, ?_⟩
  have hfps : (0 : ℚ) < Gate.clampRate rate := by exact_mod_cast Gate.clampRate_pos rate
  have hinterval : p.gate.interval = 1 / (Gate.clampRate rate : ℚ) := by
    rw [hp, (run_pace _ _).1, interval_make]
  -- the attachment presents nothing, and the session begins in the state that it leaves
  have hshots : p.shots (.attach :: session) = p.attach.1.shots session := rfl
  rw [hshots]
  rcases p.attach_cases with ⟨hon', -⟩ | ⟨-, hattach⟩
  · simp [hoff] at hon'
  · have hi : p.attach.1.gate.interval = 1 / (Gate.clampRate rate : ℚ) := by
      rw [hattach, ← hinterval]
      rfl
    have hi0 : 0 ≤ p.attach.1.gate.interval := by
      rw [hi]
      exact (one_div_pos.mpr hfps).le
    obtain ⟨-, hapart, helapsed⟩ := shots_session (by rw [hattach]) hi0 hon
    have hsince : p.attach.1.since = p.clock.now := by rw [hattach]
    rw [hi] at hapart
    rw [hsince] at helapsed
    exact Paced.of_apart hfps hapart helapsed

/-- A session at ten frames a second, with ticks that come early, go back, find no surface or
come again after a second attachment. -/
def unsteady : List (Operation ℚ) :=
  [.tick 2, .tick (41 / 20), .tick 1, .attach, .tick (21 / 10), .setDrawable false, .tick 3,
    .setDrawable true, .tick (5 / 2), .tick (5 / 2)]

theorem frame_rate_ceiling_unsteady :
    let p := ((make ⟨8, 6, true⟩ 10 (0 : ℚ)).run
      [.attach, .compile ⟨""⟩ fun _ => none, .tick 9, .detach, .setClock (3 / 2)]).1
    (p.shots (.attach :: unsteady)).map (fun s => (s.instant, s.frame.elapsed)) =
        [(2, 1 / 2), (21 / 10, 3 / 5), (5 / 2, 1)] ∧
      Paced 10 (3 / 2) (p.shots (.attach :: unsteady)) := by
  intro p
  have hon : ∀ op ∈ unsteady, op.endsSession = false := by decide
  have hpaced := (frame_rate_ceiling _ 10 0 _ unsteady (p := p) rfl rfl hon).2
  have hrate : ((max (10 : UInt32).toNat 1 : ℕ) : ℚ) = 10 := by decide +kernel
  rw [hrate] at hpaced
  exact ⟨by decide +kernel, hpaced⟩

end Pipeline

end ShaderLoom
