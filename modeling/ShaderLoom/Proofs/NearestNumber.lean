import Mathlib.Algebra.Order.Field.Power
import Mathlib.Algebra.Order.Field.Rat
import Mathlib.Tactic.FieldSimp
import Mathlib.Tactic.Lemma
import Mathlib.Tactic.Linarith
import Mathlib.Tactic.NormNum
import Mathlib.Tactic.Positivity
import Mathlib.Tactic.Ring
import ShaderLoom.Number.Binary32

/-!
Which number of a format is nearest to a rational number.

A number of a format is the nearest to whatever lies no further from it than halfway to its
neighbours, and halfway only if its mantissa is even. Below a power of two the neighbour stands
nearer than above. For such rational numbers the word that is computed is that of the number.
-/

namespace ShaderLoom.Number

/-! ### Whole numbers -/

/-- A quotient is within half a unit of a whole number, and half a unit away only from an even
one. -/
structure WithinHalf (num den m : ℕ) : Prop where
  low : 2 * (m * den) ≤ 2 * num + den
  high : 2 * num ≤ 2 * (m * den) + den
  odd : m % 2 = 1 → 2 * (m * den) < 2 * num + den ∧ 2 * num < 2 * (m * den) + den

/-- A quotient is rounded to the whole number that is so near. -/
lemma WithinHalf.roundDiv_eq {num den m : ℕ} (h : WithinHalf num den m) (hden : 0 < den) :
    roundDiv num den = m := by
  obtain ⟨hlow, hhigh, hodd⟩ := h
  have hq : den * (num / den) + num % den = num := Nat.div_add_mod num den
  have hr : num % den < den := Nat.mod_lt _ hden
  have hcomm : num / den * den = den * (num / den) := Nat.mul_comm _ _
  obtain h | rfl | rfl | h :
      m + 1 ≤ num / den ∨ m = num / den ∨ m = num / den + 1 ∨ num / den + 2 ≤ m := by omega
  · have hmul := Nat.mul_le_mul_right den h
    rw [Nat.add_mul, Nat.one_mul] at hmul
    omega
  · rw [hcomm] at hlow hhigh hodd
    simp only [roundDiv]
    split
    · rfl
    · split
      · omega
      · split <;> omega
  · rw [Nat.add_mul, Nat.one_mul, hcomm] at hlow hhigh hodd
    simp only [roundDiv]
    split
    · omega
    · split
      · rfl
      · split <;> omega
  · have hmul := Nat.mul_le_mul_right den h
    rw [Nat.add_mul] at hmul
    omega

lemma log2_div_eq {num den j : ℕ} (hden : 0 < den) (hlow : power 2 j * den ≤ num)
    (hhigh : num < power 2 (j + 1) * den) : (num / den).log2 = j := by
  have hpos : num / den ≠ 0 := by
    have hone : 1 ≤ power 2 j := power_pos (by decide) j
    have hle : den ≤ power 2 j * den := Nat.le_mul_of_pos_left _ hone
    exact (Nat.div_pos (hle.trans hlow) hden).ne'
  exact (Nat.log2_eq_iff hpos).mpr
    ⟨(Nat.le_div_iff_mul_le hden).mpr hlow, (Nat.div_lt_iff_lt_mul hden).mpr hhigh⟩

lemma log2_div_lt {num den j : ℕ} (hden : 0 < den) (hj : 0 < j) (h : num < power 2 j * den) :
    (num / den).log2 < j := by
  rcases Nat.eq_zero_or_pos (num / den) with hzero | hpos
  · rw [hzero]
    exact hj
  · exact (Nat.log2_lt hpos.ne').mpr ((Nat.div_lt_iff_lt_mul hden).mpr h)

lemma power_toNat {s : ℤ} (h : 0 ≤ s) (base : ℕ) :
    (power base s.toNat : ℚ) = (base : ℚ) ^ s := by
  lift s to ℕ using h
  rw [Int.toNat_natCast, zpow_natCast]
  exact Nat.cast_pow base s

/-! ### Magnitudes -/

/-- The magnitude of an exact number. -/
def Dyadic.magnitude (d : Dyadic) : ℚ := d.mantissa * 2 ^ d.scale

namespace Format

variable {F : Format} {d e : Dyadic} {q : ℚ}

/-- A number in the one form that a format has for it, whose scale may be as large as it needs to
be. -/
structure Has (F : Format) (d : Dyadic) : Prop where
  short : d.mantissa < 2 * F.hidden
  fine : F.minScale ≤ d.scale
  full : F.hidden ≤ d.mantissa ∨ d.scale = F.minScale

/-- No number of the format is nearer, and another is as near only if the mantissa is even. -/
structure Nearest (F : Format) (d : Dyadic) (q : ℚ) : Prop where
  nearest : ∀ e, F.Has e → |q - d.magnitude| ≤ |q - e.magnitude|
  even : ∀ e, F.Has e → |q - e.magnitude| = |q - d.magnitude| →
    e.magnitude = d.magnitude ∨ d.mantissa % 2 = 0

/-- The smallest mantissa of a scale above the lowest, below which the numbers stand closer. -/
def Narrow (F : Format) (d : Dyadic) : Prop := d.mantissa = F.hidden ∧ F.minScale < d.scale

instance : Decidable (F.Narrow d) := inferInstanceAs (Decidable (_ ∧ _))

/-- The distance to the neighbour below. -/
def gap (F : Format) (d : Dyadic) : ℚ := if F.Narrow d then 2 ^ d.scale / 2 else 2 ^ d.scale

/-- No further from a number than halfway to its neighbours, and halfway only if its mantissa is
even. -/
structure Near (F : Format) (d : Dyadic) (q : ℚ) : Prop where
  low : d.magnitude - F.gap d / 2 ≤ q
  high : q ≤ d.magnitude + 2 ^ d.scale / 2
  odd : d.mantissa % 2 = 1 →
    d.magnitude - F.gap d / 2 < q ∧ q < d.magnitude + 2 ^ d.scale / 2

/-! ### Neighbours -/

lemma magnitude_eq_mul {s : ℤ} (h : s ≤ e.scale) : ∃ k : ℕ, e.magnitude = k * 2 ^ s := by
  obtain ⟨i, hi⟩ := Int.le.dest h
  refine ⟨e.mantissa * 2 ^ i, ?_⟩
  rw [Dyadic.magnitude, ← hi, zpow_add₀ two_ne_zero, zpow_natCast]
  push_cast
  ring

/-- A number of a smaller scale stays below the smallest mantissa of a scale by at least half
a unit of it. -/
lemma Has.magnitude_le (h : F.Has e) {s : ℤ} (hs : e.scale < s) :
    e.magnitude ≤ (F.hidden - 1 / 2) * 2 ^ s := by
  have hmantissa : (e.mantissa : ℚ) ≤ 2 * F.hidden - 1 := by
    have hshort : e.mantissa + 1 ≤ 2 * F.hidden := h.short
    have hcast : (e.mantissa : ℚ) + 1 ≤ 2 * F.hidden := by exact_mod_cast hshort
    linarith
  have hhidden : (1 : ℚ) ≤ F.hidden := by exact_mod_cast power_pos (by decide) F.fractionBits
  have hpow : (2 : ℚ) ^ e.scale ≤ 2 ^ (s - 1) := by
    gcongr
    · norm_num
    · omega
  calc e.magnitude = e.mantissa * 2 ^ e.scale := rfl
    _ ≤ (2 * F.hidden - 1) * 2 ^ (s - 1) := by
      gcongr
      linarith
    _ = (F.hidden - 1 / 2) * 2 ^ s := by
      rw [zpow_sub_one₀ two_ne_zero]
      ring

lemma Has.above (hd : F.Has d) (he : F.Has e) (h : d.magnitude < e.magnitude) :
    d.magnitude + 2 ^ d.scale ≤ e.magnitude := by
  have hpow : (0 : ℚ) < 2 ^ d.scale := by positivity
  rcases lt_or_ge e.scale d.scale with hlt | hge
  · -- all numbers of a smaller scale are below
    have hfull : F.hidden ≤ d.mantissa := hd.full.resolve_right (by have := he.fine; omega)
    have hbelow := he.magnitude_le hlt
    have hleast : (F.hidden : ℚ) * 2 ^ d.scale ≤ d.magnitude := by
      unfold Dyadic.magnitude
      gcongr
    linarith
  · obtain ⟨k, hk⟩ := magnitude_eq_mul hge
    rw [hk, Dyadic.magnitude] at h ⊢
    have hlt : d.mantissa < k := by exact_mod_cast lt_of_mul_lt_mul_right h hpow.le
    have hcast : (d.mantissa : ℚ) + 1 ≤ k := by exact_mod_cast hlt
    calc (d.mantissa : ℚ) * 2 ^ d.scale + 2 ^ d.scale = (d.mantissa + 1) * 2 ^ d.scale := by ring
      _ ≤ k * 2 ^ d.scale := by gcongr

lemma gap_le : F.gap d ≤ 2 ^ d.scale := by
  have hpow : (0 : ℚ) < 2 ^ d.scale := by positivity
  unfold gap
  split <;> linarith

lemma Has.below (hd : F.Has d) (he : F.Has e) (h : e.magnitude < d.magnitude) :
    e.magnitude ≤ d.magnitude - F.gap d := by
  have hpow : (0 : ℚ) < 2 ^ d.scale := by positivity
  rcases lt_or_ge e.scale d.scale with hlt | hge
  · have hmin := he.fine
    have hfull : F.hidden ≤ d.mantissa := hd.full.resolve_right (by omega)
    have hbelow := he.magnitude_le hlt
    unfold gap
    split
    · next hnarrow =>
      have hleast : d.magnitude = F.hidden * 2 ^ d.scale := by rw [Dyadic.magnitude, hnarrow.1]
      linarith
    · next hwide =>
      -- the mantissa is not the smallest one of its scale
      have hne : d.mantissa ≠ F.hidden := fun heq => hwide ⟨heq, by omega⟩
      have hcast : (F.hidden : ℚ) + 1 ≤ d.mantissa := by
        exact_mod_cast lt_of_le_of_ne hfull hne.symm
      have hleast : ((F.hidden : ℚ) + 1) * 2 ^ d.scale ≤ d.magnitude := by
        unfold Dyadic.magnitude
        gcongr
      linarith
  · obtain ⟨k, hk⟩ := magnitude_eq_mul hge
    have hgap := @gap_le F d
    rw [hk, Dyadic.magnitude] at h ⊢
    have hlt : k < d.mantissa := by exact_mod_cast lt_of_mul_lt_mul_right h hpow.le
    have hcast : (k : ℚ) + 1 ≤ d.mantissa := by exact_mod_cast hlt
    have hle : ((k : ℚ) + 1) * 2 ^ d.scale ≤ d.mantissa * 2 ^ d.scale := by gcongr
    linarith

/-- What is near a number is nearer to no other. -/
theorem Near.isNearest (hd : F.Has d) (h : F.Near d q) : F.Nearest d q := by
  -- which of two numbers is the nearer one is told by their midpoint
  have hside : ∀ e, F.Has e → e.magnitude ≠ d.magnitude →
      |q - d.magnitude| ≤ |q - e.magnitude| ∧
        (|q - e.magnitude| = |q - d.magnitude| → d.mantissa % 2 = 0) := by
    intro e he hne
    obtain ⟨hlow, hhigh, hodd⟩ := h
    have heven : ¬(d.magnitude - F.gap d / 2 < q ∧ q < d.magnitude + 2 ^ d.scale / 2) →
        d.mantissa % 2 = 0 := by
      intro hstrict
      by_contra hmod
      exact hstrict (hodd (by omega))
    rcases lt_or_gt_of_ne hne with hlt | hgt
    · have hbelow := hd.below he hlt
      have hright : 0 ≤ q - e.magnitude := by linarith
      rw [abs_of_nonneg hright]
      refine ⟨abs_le.mpr ⟨by linarith, by linarith⟩, fun heq => heven fun hstrict => ?_⟩
      have habs : |q - d.magnitude| < q - e.magnitude :=
        abs_lt.mpr ⟨by linarith, by linarith⟩
      exact habs.ne heq.symm
    · have habove := hd.above he hgt
      have hgap := @gap_le F d
      have hleft : q - e.magnitude ≤ 0 := by linarith
      rw [abs_of_nonpos hleft]
      refine ⟨abs_le.mpr ⟨by linarith, by linarith⟩, fun heq => heven fun hstrict => ?_⟩
      have habs : |q - d.magnitude| < -(q - e.magnitude) :=
        abs_lt.mpr ⟨by linarith, by linarith⟩
      exact habs.ne heq.symm
  refine ⟨fun e he => ?_, fun e he heq => ?_⟩
  · rcases eq_or_ne e.magnitude d.magnitude with hsame | hne
    · rw [hsame]
    · exact (hside e he hne).1
  · rcases eq_or_ne e.magnitude d.magnitude with hsame | hne
    · exact .inl hsame
    · exact .inr ((hside e he hne).2 heq)

/-! ### Words -/

lemma power_hidden (k : ℕ) : power 2 (F.fractionBits + k) = F.hidden * power 2 k :=
  Nat.pow_add 2 _ _

/-- Steps, counted in the unit of a scale, against the digits of a mantissa. -/
lemma count_hidden (den j : ℕ) :
    power 2 (F.fractionBits + j) * den = F.hidden * (den * power 2 j) := by
  rw [power_hidden, Nat.mul_assoc, Nat.mul_comm (power 2 j)]

lemma hidden_double (den j : ℕ) :
    F.hidden * (den * power 2 (j + 1)) = 2 * (F.hidden * (den * power 2 j)) := by
  rw [power_succ, ← Nat.mul_assoc den, Nat.mul_comm _ 2, Nat.mul_left_comm]

lemma lt_of_withinHalf {steps unit m : ℕ} (hunit : 0 < unit) (hshort : m < 2 * F.hidden)
    (h : WithinHalf steps unit m) : steps < 2 * (F.hidden * unit) := by
  have hhigh := h.high
  have hmul := Nat.mul_le_mul_right unit hshort
  rw [Nat.succ_mul, Nat.mul_assoc] at hmul
  omega

/-- Steps that are at least the smallest mantissa of a scale, or of the lowest scale, are rounded
in the unit of this scale. -/
lemma place_of_le {steps den k m : ℕ} (hden : 0 < den) (hshort : m < 2 * F.hidden)
    (h : WithinHalf steps (den * power 2 k) m)
    (hfirst : k = 0 ∨ F.hidden * (den * power 2 k) ≤ steps) {raised : ℕ}
    (hraised : raised = (steps / den).log2 - F.fractionBits) :
    F.place raised (roundDiv steps (den * power 2 raised)) = F.place k m := by
  have hunit : 0 < den * power 2 k := Nat.mul_pos hden (power_pos (by decide) k)
  have hupper := lt_of_withinHalf hunit hshort h
  have hk : raised = k := by
    rcases hfirst with rfl | hleast
    · have hlog : (steps / den).log2 < F.fractionBits + 1 := by
        refine log2_div_lt hden (Nat.succ_pos _) ?_
        rwa [count_hidden, hidden_double]
      omega
    · have hlog : (steps / den).log2 = F.fractionBits + k := by
        refine log2_div_eq hden ?_ ?_
        · rwa [count_hidden]
        · rwa [Nat.add_assoc, count_hidden, hidden_double]
      omega
  rw [hk, h.roundDiv_eq hunit]

/-- Steps just below the smallest mantissa of a scale are rounded up to it in the unit of the
scale below. -/
lemma place_of_lt {steps den k : ℕ} (hden : 0 < den)
    (hnarrow : 4 * (F.hidden * (den * power 2 (k + 1))) ≤ 4 * steps + den * power 2 (k + 1))
    (hbelow : steps < F.hidden * (den * power 2 (k + 1))) {raised : ℕ}
    (hraised : raised = (steps / den).log2 - F.fractionBits) :
    F.place raised (roundDiv steps (den * power 2 raised)) = F.place (k + 1) F.hidden := by
  have hunit : 0 < den * power 2 k := Nat.mul_pos hden (power_pos (by decide) k)
  have hdouble : den * power 2 (k + 1) = 2 * (den * power 2 k) := by
    rw [power_succ, ← Nat.mul_assoc, Nat.mul_comm]
  rw [hidden_double, hdouble] at hnarrow
  rw [hidden_double] at hbelow
  have hone : den * power 2 k ≤ F.hidden * (den * power 2 k) :=
    Nat.le_mul_of_pos_left _ (power_pos (by decide) F.fractionBits)
  have hlog : (steps / den).log2 = F.fractionBits + k := by
    refine log2_div_eq hden ?_ ?_
    · rw [count_hidden]
      omega
    · rw [Nat.add_assoc, count_hidden, hidden_double]
      omega
  have hk : raised = k := by omega
  have hhalf : WithinHalf steps (den * power 2 k) (2 * F.hidden) := by
    refine ⟨?_, ?_, fun hodd => ?_⟩
    · rw [Nat.mul_assoc]
      omega
    · rw [Nat.mul_assoc]
      omega
    · omega
  rw [hk, hhalf.roundDiv_eq hunit, place, place, Nat.add_one_mul k]
  omega

/-- Steps that are near a mantissa of a scale are placed there. -/
lemma place_eq {steps den k m : ℕ} (hden : 0 < den) (hshort : m < 2 * F.hidden)
    (hfull : F.hidden ≤ m ∨ k = 0) (h : WithinHalf steps (den * power 2 k) m)
    (hnarrow : m = F.hidden → 0 < k →
      4 * (m * (den * power 2 k)) ≤ 4 * steps + den * power 2 k) {raised : ℕ}
    (hraised : raised = (steps / den).log2 - F.fractionBits) :
    F.place raised (roundDiv steps (den * power 2 raised)) = F.place k m := by
  by_cases hfirst : k = 0 ∨ F.hidden * (den * power 2 k) ≤ steps
  · exact place_of_le hden hshort h hfirst hraised
  · obtain ⟨k, rfl⟩ : ∃ i, k = i + 1 := ⟨k - 1, by omega⟩
    have hm : m = F.hidden := by
      by_contra hne
      have hlow := h.low
      have hmul := Nat.mul_le_mul_right (den * power 2 (k + 1)) (by omega : F.hidden + 1 ≤ m)
      rw [Nat.succ_mul] at hmul
      omega
    subst hm
    exact place_of_lt hden (hnarrow rfl k.succ_pos) (by omega) hraised

/-- The word for what is near a number is the word of that number. -/
theorem Near.nearest_eq {num den : ℕ} (hmin : F.minScale ≤ 0) (hden : 0 < den) (hd : F.Has d)
    (h : F.Near d (num / den)) :
    F.nearest num den =
      min F.infiniteWord (F.place (d.scale - F.minScale).toNat d.mantissa) := by
  obtain ⟨hlow, hhigh, hodd⟩ := h
  have hfine := hd.fine
  set k := (d.scale - F.minScale).toNat with hk
  set steps := num * power 2 (-F.minScale).toNat with hstepsDef
  -- everything is counted in one unit
  set unit : ℚ := den * 2 ^ (-F.minScale) with hunit
  have hpos : 0 < unit := by positivity
  have hsteps : (steps : ℚ) = unit * (num / den) := by
    rw [hstepsDef, Nat.cast_mul, power_toNat (by omega), hunit, Nat.cast_ofNat]
    field_simp
  have hstep : ((den * power 2 k : ℕ) : ℚ) = unit * 2 ^ d.scale := by
    rw [hk, Nat.cast_mul, power_toNat (by omega), hunit, Nat.cast_ofNat, sub_eq_neg_add,
      zpow_add₀ two_ne_zero]
    ring
  have htop : ((d.mantissa * (den * power 2 k) : ℕ) : ℚ) = unit * d.magnitude := by
    rw [Nat.cast_mul, hstep, Dyadic.magnitude]
    ring
  have hbelow := mul_le_mul_of_nonneg_left hlow hpos.le
  have habove := mul_le_mul_of_nonneg_left hhigh hpos.le
  have hgap := mul_le_mul_of_nonneg_left (@gap_le F d) hpos.le
  rw [Format.nearest]
  refine congrArg (min _) (place_eq hden hd.short ?_ ⟨?_, ?_, ?_⟩ ?_ rfl)
  · exact hd.full.imp_right fun hscale => by omega
  · have hcast : (2 : ℚ) * (d.mantissa * (den * power 2 k) : ℕ) ≤
        2 * steps + (den * power 2 k : ℕ) := by
      rw [htop, hsteps, hstep]
      linarith
    exact_mod_cast hcast
  · have hcast : (2 : ℚ) * steps ≤
        2 * (d.mantissa * (den * power 2 k) : ℕ) + (den * power 2 k : ℕ) := by
      rw [htop, hsteps, hstep]
      linarith
    exact_mod_cast hcast
  · intro hmod
    have hbelow := mul_lt_mul_of_pos_left (hodd hmod).1 hpos
    have habove := mul_lt_mul_of_pos_left (hodd hmod).2 hpos
    have hcast : (2 : ℚ) * (d.mantissa * (den * power 2 k) : ℕ) <
          2 * steps + (den * power 2 k : ℕ) ∧
        (2 : ℚ) * steps < 2 * (d.mantissa * (den * power 2 k) : ℕ) + (den * power 2 k : ℕ) := by
      rw [htop, hsteps, hstep]
      exact ⟨by linarith, by linarith⟩
    exact_mod_cast hcast
  · intro hm hkpos
    have hnarrow : F.gap d = 2 ^ d.scale / 2 := if_pos ⟨hm, by omega⟩
    have hcast : (4 : ℚ) * (d.mantissa * (den * power 2 k) : ℕ) ≤
        4 * steps + (den * power 2 k : ℕ) := by
      rw [htop, hsteps, hstep]
      rw [hnarrow] at hbelow
      linarith
    exact_mod_cast hcast

/-- A number is near itself. -/
lemma near_magnitude (F : Format) (d : Dyadic) : F.Near d d.magnitude := by
  have hpow : (0 : ℚ) < 2 ^ d.scale := by positivity
  have hgap : 0 < F.gap d := by
    unfold gap
    split <;> linarith
  exact ⟨by linarith, by linarith, fun _ => ⟨by linarith, by linarith⟩⟩

end Format

/-! ### Single precision -/

namespace Binary32

open Format

variable {x : Binary32} {d : Dyadic}

/-- The number of a pattern is in the one form, and its word is the pattern. -/
lemma word_of_read (h : x.read = .finite d) :
    single.Has d ∧ single.place (d.scale - single.minScale).toNat d.mantissa < single.infiniteWord ∧
      x.bits.toNat = single.signWord d.negative +
        single.place (d.scale - single.minScale).toNat d.mantissa := by
  have hmin : single.minScale = -149 := rfl
  have hhidden : single.hidden = 8388608 := rfl
  have hinfinite : single.infiniteWord = 2139095040 := rfl
  have hsign : power 2 (single.fractionBits + single.exponentBits) = 2147483648 := rfl
  have hfraction : power 2 single.fractionBits = 8388608 := rfl
  have hexponent : power 2 single.exponentBits = 256 := rfl
  have hbits : x.bits.toNat < 4294967296 := x.bits.toNat_lt
  simp only [read, Format.read, exponentField, fractionField, Format.negative, hfraction, hexponent,
    hsign, hhidden, hmin] at h
  simp only [place, signWord, hsign, hhidden, hmin, hinfinite]
  generalize x.bits.toNat = w at h hbits
  have hword : w = (if decide (w / 2147483648 % 2 = 1) = true then 2147483648 else 0) +
      (w / 8388608 % 256 * 8388608 + w % 8388608) := by
    split <;> simp_all <;> omega
  split at h
  · split at h <;> cases h
  · next htop =>
    split at h
    · next hzero =>
      cases h
      refine ⟨⟨?_, le_rfl, .inr rfl⟩, ?_, ?_⟩
      · change w % 8388608 < 2 * 8388608
        omega
      · simp only [sub_self, Int.toNat_zero]
        omega
      · simp only [sub_self, Int.toNat_zero]
        exact hword.trans (Nat.add_left_cancel_iff.mpr (by omega))
    · next hpos =>
      cases h
      have hraised : (-149 + ((w / 8388608 % 256 : ℕ) : ℤ) - 1 - -149).toNat =
          w / 8388608 % 256 - 1 := by omega
      refine ⟨⟨?_, ?_, .inl ?_⟩, ?_, ?_⟩
      · change 8388608 + w % 8388608 < 2 * 8388608
        omega
      · change (-149 : ℤ) ≤ -149 + ((w / 8388608 % 256 : ℕ) : ℤ) - 1
        omega
      · change 8388608 ≤ 8388608 + w % 8388608
        omega
      · simp only [hraised]
        omega
      · simp only [hraised]
        exact hword.trans (Nat.add_left_cancel_iff.mpr (by omega))

/-- The number with a sign that is nearest to a magnitude given as a fraction. -/
def ofFraction (negative : Bool) (num den : ℕ) : Binary32 :=
  ⟨UInt32.ofNat (single.signWord negative + single.nearest num den)⟩

/-- What is near a finite number is taken for it, bit for bit. -/
theorem ofFraction_eq (h : x.read = .finite d) {num den : ℕ} (hden : 0 < den)
    (hnear : single.Near d (num / den)) : ofFraction d.negative num den = x := by
  obtain ⟨hhas, hfinite, hbits⟩ := word_of_read h
  have hmin : single.minScale ≤ 0 := by decide
  rw [ofFraction, hnear.nearest_eq hmin hden hhas, min_eq_right hfinite.le, ← hbits,
    UInt32.ofNat_toNat]

end Binary32

end ShaderLoom.Number
