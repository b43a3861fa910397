import Mathlib.Algebra.Order.Field.Power
import Mathlib.Algebra.Order.Field.Rat
import Mathlib.Tactic.FieldSimp
import Mathlib.Tactic.Lemma
import Mathlib.Tactic.Linarith
import Mathlib.Tactic.NormNum
import Mathlib.Tactic.Positivity
import Mathlib.Tactic.Ring

/-!
How double-precision arithmetic rounds.

The logical model of a double is a sign, a mantissa and an exponent. Its value is a rational
number, and the values of doubles, without a bound on the exponent, are the representable numbers.
What an operation returns is never on the other side of a representable number than the exact
result: that is all that is said here about rounding, and it makes a representable result exact.
-/

namespace ShaderLoom.Number

open Float.Model
open Float.Model.UnpackedFloat

/-! ### Values -/

/-- A magnitude with a sign. -/
def signed (s : Sign) (r : ℚ) : ℚ :=
  match s with
  | .negative => -r
  | .positive => r

/-- The value of a number. What is no number has none. -/
def valueOf : UnpackedFloat → ℚ
  | .finite s m e _ => signed s (m * 2 ^ e)
  | _ => 0

/-- Fits into 53 bits, and has a leading bit unless the exponent is the lowest one. -/
structure Normal (m : ℕ) (e : ℤ) : Prop where
  small : m < 2 ^ 53
  fine : -1074 ≤ e
  full : 2 ^ 52 ≤ m ∨ e = -1074

/-- A number in its one form. -/
def Canonical : UnpackedFloat → Prop
  | .finite _ m e _ => Normal m e
  | .zero _ => True
  | _ => False

/-- The value of a double, if its exponent may be as large as it needs to be. -/
def Representable (y : ℚ) : Prop :=
  ∃ k j : ℤ, |k| < 2 ^ 53 ∧ -1074 ≤ j ∧ y = k * 2 ^ j

lemma signed_apply (s : Sign) (m : ℕ) : ((s.apply m : ℤ) : ℚ) = signed s m := by
  cases s <;> simp [Sign.apply, signed]

lemma representable_neg {y : ℚ} (h : Representable y) : Representable (-y) := by
  obtain ⟨k, j, hk, hj, rfl⟩ := h
  exact ⟨-k, j, by rwa [abs_neg], hj, by push_cast; ring⟩

lemma Normal.representable {m : ℕ} {e : ℤ} (h : Normal m e) : Representable (m * 2 ^ e) := by
  refine ⟨m, e, ?_, h.fine, by push_cast; ring⟩
  rw [Nat.abs_cast]
  exact_mod_cast h.small

lemma representable_zero : Representable 0 := ⟨0, 0, by norm_num, by norm_num, by simp⟩

lemma Canonical.representable {u : UnpackedFloat} (h : Canonical u) :
    Representable (valueOf u) := by
  cases u with
  | finite s m e hm =>
    cases s with
    | negative => exact representable_neg (Normal.representable h)
    | positive => exact Normal.representable h
  | _ => exact representable_zero

/-- A larger exponent means a larger number, if the mantissa has a leading bit. -/
lemma mul_zpow_lt {m M : ℕ} {e E : ℤ} (hm : m < 2 ^ 53) (he : -1074 ≤ e)
    (hM : 2 ^ 52 ≤ M ∨ E = -1074) (h : e < E) : (m : ℚ) * 2 ^ e < M * 2 ^ E := by
  have hfull : 2 ^ 52 ≤ M := hM.resolve_right (by omega)
  calc (m : ℚ) * 2 ^ e < 2 ^ 53 * 2 ^ e := by
        gcongr
        exact_mod_cast hm
    _ = 2 ^ 52 * 2 ^ (e + 1) := by rw [zpow_add_one₀ two_ne_zero]; ring
    _ ≤ M * 2 ^ E := by
        gcongr
        · exact_mod_cast hfull
        · norm_num
        · omega

/-! ### Comparison -/

lemma compares_magnitudes {m₁ m₂ : ℕ} {e₁ e₂ : ℤ} (h₁ : Normal m₁ e₁) (h₂ : Normal m₂ e₂) :
    ((compare e₁ e₂).then (compare m₁ m₂)).Compares ((m₁ : ℚ) * 2 ^ e₁) (m₂ * 2 ^ e₂) := by
  rcases lt_trichotomy e₁ e₂ with h | rfl | h
  · rw [compare_lt_iff_lt.mpr h]
    exact mul_zpow_lt h₁.small h₁.fine h₂.full h
  · rw [compare_eq_iff_eq.mpr rfl]
    have hpow : (0 : ℚ) < 2 ^ e₁ := by positivity
    rcases lt_trichotomy m₁ m₂ with h | rfl | h
    · rw [compare_lt_iff_lt.mpr h]
      exact mul_lt_mul_of_pos_right (by exact_mod_cast h) hpow
    · rw [compare_eq_iff_eq.mpr rfl]
      exact (rfl : (m₁ : ℚ) * 2 ^ e₁ = m₁ * 2 ^ e₁)
    · rw [compare_gt_iff_gt.mpr h]
      exact mul_lt_mul_of_pos_right (by exact_mod_cast h) hpow
  · rw [compare_gt_iff_gt.mpr h]
    exact mul_zpow_lt h₂.small h₂.fine h₁.full h

lemma magnitude_pos {m : ℕ} (hm : 0 < m) (e : ℤ) : (0 : ℚ) < m * 2 ^ e := by positivity

/-- Numbers are compared by their values. -/
lemma compare_of_canonical {u v : UnpackedFloat} (hu : Canonical u) (hv : Canonical v) :
    ∃ o, u.compare v = some o ∧ o.Compares (valueOf u) (valueOf v) := by
  cases u with
  | notANumber => exact hu.elim
  | infinity => exact hu.elim
  | zero s =>
    cases v with
    | notANumber => exact hv.elim
    | infinity => exact hv.elim
    | zero => exact ⟨.eq, rfl, rfl⟩
    | finite t m e hm =>
      cases t with
      | negative => exact ⟨.gt, rfl, neg_lt_zero.mpr (magnitude_pos hm e)⟩
      | positive => exact ⟨.lt, rfl, magnitude_pos hm e⟩
  | finite s m₁ e₁ hm₁ =>
    cases v with
    | notANumber => exact hv.elim
    | infinity => exact hv.elim
    | zero =>
      cases s with
      | negative => exact ⟨.lt, rfl, neg_lt_zero.mpr (magnitude_pos hm₁ e₁)⟩
      | positive => exact ⟨.gt, rfl, magnitude_pos hm₁ e₁⟩
    | finite t m₂ e₂ hm₂ =>
      have h₁ := magnitude_pos hm₁ e₁
      have h₂ := magnitude_pos hm₂ e₂
      cases s <;> cases t
      case negative.negative =>
        refine ⟨_, rfl, ?_⟩
        have horder := compares_magnitudes hu hv
        rcases ho : (compare e₁ e₂).then (compare m₁ m₂) with _ | _ | _ <;> rw [ho] at horder
        · exact neg_lt_neg horder
        · exact congrArg Neg.neg horder
        · exact neg_lt_neg horder
      case negative.positive => exact ⟨.lt, rfl, (neg_lt_zero.mpr h₁).trans h₂⟩
      case positive.negative => exact ⟨.gt, rfl, (neg_lt_zero.mpr h₂).trans h₁⟩
      case positive.positive => exact ⟨_, rfl, compares_magnitudes hu hv⟩

/-! ### Differences -/

lemma Representable.of_nonneg {k j : ℤ} {b : ℤ} (hb : |b| < 2 ^ 53) (hj : -1074 ≤ j)
    (hnonneg : (0 : ℚ) ≤ k * 2 ^ j) (hle : (k : ℚ) * 2 ^ j ≤ b * 2 ^ j) :
    Representable (k * 2 ^ j) := by
  have hpow : (0 : ℚ) < 2 ^ j := by positivity
  have hk : 0 ≤ k := by exact_mod_cast nonneg_of_mul_nonneg_left hnonneg hpow
  have hkb : k ≤ b := by exact_mod_cast le_of_mul_le_mul_right hle hpow
  refine ⟨k, j, ?_, hj, rfl⟩
  rw [abs_of_nonneg hk]
  exact hkb.trans_lt ((le_abs_self b).trans_lt hb)

/-- The difference of two numbers that are at most a factor of two apart is exact. -/
lemma representable_sub {x y : ℚ} (hx : Representable x) (hy : Representable y) (hle : y ≤ x)
    (hclose : x - y ≤ y) : Representable (x - y) := by
  obtain ⟨k, i, hk, hi, rfl⟩ := hx
  obtain ⟨l, j, hl, hj, rfl⟩ := hy
  have hnonneg := sub_nonneg.mpr hle
  -- the difference at the smaller exponent, where it is no more than one of the two
  rcases le_total i j with hij | hji
  · obtain ⟨d, rfl⟩ := Int.le.dest hij
    have hdiff : (k : ℚ) * 2 ^ i - l * 2 ^ (i + d) = ((k - l * 2 ^ d : ℤ) : ℚ) * 2 ^ i := by
      rw [zpow_add₀ two_ne_zero, zpow_natCast]
      push_cast
      ring
    rw [hdiff] at hnonneg hclose ⊢
    refine .of_nonneg hk hi hnonneg ?_
    linarith
  · obtain ⟨d, rfl⟩ := Int.le.dest hji
    have hdiff : (k : ℚ) * 2 ^ (j + d) - l * 2 ^ j = ((k * 2 ^ d - l : ℤ) : ℚ) * 2 ^ j := by
      rw [zpow_add₀ two_ne_zero, zpow_natCast]
      push_cast
      ring
    rw [hdiff] at hnonneg hclose ⊢
    exact .of_nonneg hl hj hnonneg hclose

/-! ### Rounding -/

/-- No representable number lies between `v` and `r`. -/
structure Rounds (v r : ℚ) : Prop where
  above : ∀ y, Representable y → y ≤ v → y ≤ r
  below : ∀ y, Representable y → v ≤ y → r ≤ y

namespace Rounds

lemma eq_of_representable {v r : ℚ} (h : Rounds v r) (hv : Representable v) : r = v :=
  le_antisymm (h.below v hv le_rfl) (h.above v hv le_rfl)

lemma refl (v : ℚ) : Rounds v v := ⟨fun _ _ h => h, fun _ _ h => h⟩

lemma neg {v r : ℚ} (h : Rounds v r) : Rounds (-v) (-r) :=
  ⟨fun y hy hv => by linarith [h.below (-y) (representable_neg hy) (by linarith)],
    fun y hy hv => by linarith [h.above (-y) (representable_neg hy) (by linarith)]⟩

lemma signed {v r : ℚ} (h : Rounds v r) (s : Sign) :
    Rounds (Number.signed s v) (Number.signed s r) := by
  cases s with
  | negative => exact h.neg
  | positive => exact h

end Rounds

/-- Above a number of the grid there is no representable number before the next one of it. -/
lemma next_le {M : ℕ} {E : ℤ} (hM : 2 ^ 52 ≤ M ∨ E = -1074) {y : ℚ}
    (hy : Representable y) (h : (M : ℚ) * 2 ^ E < y) : ((M : ℚ) + 1) * 2 ^ E ≤ y := by
  obtain ⟨k, j, hk, hj, rfl⟩ := hy
  have hpow : (0 : ℚ) < 2 ^ E := by positivity
  have hkpos : 0 < k := by
    have hprod : (0 : ℚ) < k * 2 ^ j := lt_of_le_of_lt (by positivity) h
    exact_mod_cast pos_of_mul_pos_left hprod (by positivity)
  lift k to ℕ using hkpos.le
  rw [Nat.abs_cast] at hk
  rcases lt_or_ge j E with hlt | hge
  · have hbelow := mul_zpow_lt (by exact_mod_cast hk) hj hM hlt
    push_cast at h
    linarith
  · -- the number is a multiple of `2 ^ E`
    obtain ⟨i, rfl⟩ := Int.le.dest hge
    have hsplit : ((k : ℤ) : ℚ) * 2 ^ (E + i) = ((k * 2 ^ i : ℕ) : ℚ) * 2 ^ E := by
      rw [zpow_add₀ two_ne_zero, zpow_natCast]
      push_cast
      ring
    rw [hsplit] at h ⊢
    have hlt : M < k * 2 ^ i := by exact_mod_cast lt_of_mul_lt_mul_right h hpow.le
    gcongr
    exact_mod_cast hlt

/-- A magnitude between two neighbours on the grid, and one of the two, or itself if it is on the
grid. -/
lemma rounds_of_neighbours {M R : ℕ} {E : ℤ} {v : ℚ} (hM : 2 ^ 52 ≤ M ∨ E = -1074)
    (hlow : (M : ℚ) * 2 ^ E ≤ v) (hhigh : v < (M + 1) * 2 ^ E) (hR : R = M ∨ R = M + 1)
    (hexact : v = M * 2 ^ E → R = M) : Rounds v (R * 2 ^ E) := by
  have hpow : (0 : ℚ) < 2 ^ E := by positivity
  have hMR : (M : ℚ) * 2 ^ E ≤ R * 2 ^ E := by
    gcongr
    omega
  have hRM : (R : ℚ) * 2 ^ E ≤ (M + 1) * 2 ^ E := by
    gcongr
    exact_mod_cast (by omega : R ≤ M + 1)
  refine ⟨fun y hy hyv => ?_, fun y hy hvy => ?_⟩
  · rcases le_or_gt y (M * 2 ^ E) with h | h
    · exact h.trans hMR
    · linarith [next_le hM hy h]
  · rcases hlow.eq_or_lt with h | h
    · rw [hexact h.symm, h]
      exact hvy
    · exact hRM.trans (next_le hM hy (h.trans_le hvy))

/-! ### Mantissas that are shifted -/

/-- There is something behind the mantissa. -/
def Inexact (em : ExtendedMantissa) : Prop := em.roundBit = true ∨ em.stickyBit = true

/-- What the bits behind a mantissa tell of a number: it is the mantissa, or it lies between the
mantissa and the next one. -/
structure Locates (em : ExtendedMantissa) (x : ℚ) : Prop where
  least : (em.mantissa : ℚ) ≤ x
  next : x < em.mantissa + 1
  exact : ¬Inexact em ↔ x = em.mantissa

namespace Locates

/-- A bit that is shifted out is told by the bits behind the mantissa. -/
lemma shiftRightOne {em : ExtendedMantissa} {x : ℚ} (h : Locates em x) :
    Locates em.shiftRightOne (x / 2) := by
  obtain ⟨m, roundBit, stickyBit⟩ := em
  obtain ⟨hleast, hnext, hexact⟩ := h
  have hm : ((m / 2 : ℕ) : ℚ) * 2 + ((m % 2 : ℕ) : ℚ) = m := by
    exact_mod_cast Nat.div_add_mod' m 2
  have hbit : (0 : ℚ) ≤ (m % 2 : ℕ) ∧ ((m % 2 : ℕ) : ℚ) ≤ 1 :=
    ⟨by positivity, by exact_mod_cast Nat.le_of_lt_succ (Nat.mod_lt m two_pos)⟩
  have hshifted : ¬Inexact (ExtendedMantissa.shiftRightOne ⟨m, roundBit, stickyBit⟩) ↔
      m % 2 = 0 ∧ ¬Inexact ⟨m, roundBit, stickyBit⟩ := by
    simp [Inexact, ExtendedMantissa.shiftRightOne]
  refine ⟨?_, ?_, ?_⟩
  · change ((m / 2 : ℕ) : ℚ) ≤ x / 2
    linarith
  · change x / 2 < ((m / 2 : ℕ) : ℚ) + 1
    linarith
  · rw [hshifted, hexact]
    change _ ↔ x / 2 = ((m / 2 : ℕ) : ℚ)
    constructor
    · rintro ⟨hmod, hx⟩
      rw [hmod, Nat.cast_zero] at hm
      linarith
    · intro hx
      have hzero : ((m % 2 : ℕ) : ℚ) = 0 := by linarith
      rw [hzero] at hm
      exact ⟨by exact_mod_cast hzero, by linarith⟩

lemma shiftRight {em : ExtendedMantissa} {x : ℚ} (h : Locates em x) (k : ℕ) :
    Locates (em >>> k) (x / 2 ^ k) := by
  induction k with
  | zero =>
    rw [pow_zero, div_one]
    exact h
  | succ k ih =>
    rw [pow_succ, ← div_div]
    exact ih.shiftRightOne

/-- The rounded mantissa is the one that was located or the next one, and the number itself if
that is a mantissa. -/
lemma roundedMantissa {em : ExtendedMantissa} {x : ℚ} (h : Locates em x) :
    (em.roundedMantissa = em.mantissa ∨ em.roundedMantissa = em.mantissa + 1) ∧
      (x = em.mantissa → em.roundedMantissa = em.mantissa) := by
  obtain ⟨m, roundBit, stickyBit⟩ := em
  have hexact := h.exact
  cases roundBit <;> cases stickyBit
  case false.false => exact ⟨.inl rfl, fun _ => rfl⟩
  case false.true => exact ⟨.inl rfl, fun _ => rfl⟩
  case true.false =>
    refine ⟨?_, fun hx => absurd (.inl rfl) (hexact.mpr hx)⟩
    rcases Nat.mod_two_eq_zero_or_one m with hmod | hmod <;>
      simp [ExtendedMantissa.roundedMantissa, ExtendedMantissa.accuracy,
        Accuracy.roundToNearestEven, hmod]
  case true.true => exact ⟨.inr rfl, fun hx => absurd (.inl rfl) (hexact.mpr hx)⟩

end Locates

lemma shiftRight_mantissa (em : ExtendedMantissa) (k : ℕ) :
    (em >>> k).mantissa = em.mantissa / 2 ^ k := by
  induction k with
  | zero => exact (Nat.div_one em.mantissa).symm
  | succ k ih =>
    have hstep : (em >>> (k + 1)).mantissa = (em >>> k).mantissa / 2 := rfl
    rw [hstep, ih, Nat.div_div_eq_div_mul, pow_succ]

/-! ### Magnitudes -/

/-- The exponent at which a magnitude keeps as many bits as fit. -/
def target (m : ℕ) (e : ℤ) : ℤ := max (m.log2 + 1 + e - 53) (-1074)

/-- No bit that fits is missing: a mantissa behind which something stands is long enough. -/
def Fine (m : ℕ) (e : ℤ) : Prop := e ≤ -1074 ∨ 2 ^ 52 ≤ m

/-- A fine mantissa that is shifted to its target. -/
lemma Fine.normal {m : ℕ} {e : ℤ} (h : Fine m e) :
    e + (target m e - e).toNat = target m e ∧
      Normal (m / 2 ^ (target m e - e).toNat) (target m e) := by
  have hlog : m < 2 ^ (m.log2 + 1) := Nat.lt_log2_self
  have hle : e ≤ target m e := by
    unfold target
    rcases h with h | h
    · omega
    · have h52 : 52 ≤ m.log2 := (Nat.le_log2 (by omega)).mpr h
      omega
  have hk : ((target m e - e).toNat : ℤ) = target m e - e := Int.toNat_of_nonneg (by omega)
  set k := (target m e - e).toNat with hkdef
  refine ⟨by omega, ?_, le_max_right _ _, ?_⟩
  · rw [Nat.div_lt_iff_lt_mul (by positivity), ← pow_add]
    refine hlog.trans_le (Nat.pow_le_pow_right two_pos ?_)
    unfold target at hk
    omega
  · by_cases ht : target m e = -1074
    · exact .inr ht
    · have hlog52 : m.log2 = 52 + k := by unfold target at hk ht; omega
      have hm : m ≠ 0 := by
        rintro rfl
        rw [Nat.log2_zero] at hlog52
        omega
      refine .inl ((Nat.le_div_iff_mul_le (by positivity)).mpr ?_)
      rw [← pow_add, ← hlog52]
      exact Nat.log2_self_le hm

/-- A rounded mantissa may need one bit more; shifting it out loses nothing. -/
lemma carry {R : ℕ} {E : ℤ} (hE : -1074 ≤ E) (hR : R ≤ 2 ^ 53) (hfull : 2 ^ 52 ≤ R ∨ E = -1074) :
    let q := shiftToTargetExponent Format.binary64 R E .exact
    Normal q.1.mantissa q.2 ∧ (q.1.mantissa : ℚ) * 2 ^ q.2 = R * 2 ^ E := by
  intro q
  have hfine : Fine R E := hfull.symm.imp le_of_eq id
  have hq : q.1.mantissa = R / 2 ^ (target R E - E).toNat := shiftRight_mantissa _ _
  have hq2 : q.2 = E + (target R E - E).toNat := rfl
  obtain ⟨hsum, hnormal⟩ := hfine.normal
  rw [hq, hq2, hsum]
  refine ⟨hnormal, ?_⟩
  have hdvd : 2 ^ (target R E - E).toNat ∣ R := by
    rcases hR.eq_or_lt with rfl | hlt
    · refine (Nat.pow_dvd_pow_iff_le_right (by norm_num)).mpr ?_
      unfold target
      rw [Nat.log2_two_pow]
      omega
    · have hlog : R.log2 ≤ 52 := by
        by_cases h0 : R = 0
        · rw [h0, Nat.log2_zero]
          omega
        · exact Nat.le_of_lt_succ ((Nat.log2_lt h0).mpr hlt)
      have hzero : (target R E - E).toNat = 0 := by unfold target; omega
      rw [hzero]
      exact one_dvd R
  obtain ⟨c, hc⟩ := hdvd
  have hdiv : R / 2 ^ (target R E - E).toNat = c := Nat.div_eq_of_eq_mul_right (by positivity) hc
  rw [hdiv, ← hsum, zpow_add₀ two_ne_zero, zpow_natCast]
  conv_rhs => rw [hc]
  push_cast
  ring

/-- The number with these parts, or a zero. -/
def ofParts (s : Sign) (m : ℕ) (e : ℤ) : UnpackedFloat :=
  if h : m = 0 then .zero s else .finite s m e (Nat.pos_of_ne_zero h)

lemma ofParts_of_pos {s : Sign} {m : ℕ} {e : ℤ} (h : 0 < m) : ofParts s m e = .finite s m e h :=
  dif_neg h.ne'

lemma valueOf_ofParts (s : Sign) (m : ℕ) (e : ℤ) :
    valueOf (ofParts s m e) = signed s (m * 2 ^ e) := by
  rcases m.eq_zero_or_pos with rfl | h
  · have hzero : ofParts s 0 e = .zero s := rfl
    rw [hzero, Nat.cast_zero, zero_mul]
    cases s
    · exact neg_zero.symm
    · rfl
  · rw [ofParts_of_pos h]
    rfl

lemma Normal.canonical_ofParts {m : ℕ} {e : ℤ} (h : Normal m e) (s : Sign) :
    Canonical (ofParts s m e) := by
  rcases m.eq_zero_or_pos with rfl | hm
  · trivial
  · rw [ofParts_of_pos hm]
    exact h

/-- A result in its one form that rounds a value. -/
structure RoundsTo (v : ℚ) (u : UnpackedFloat) : Prop where
  canonical : Canonical u
  rounds : Rounds v (valueOf u)

/-- A mantissa of full length that locates a magnitude is rounded to a neighbour of it, and needs
one bit more at most. -/
lemma rounds_roundedMantissa {em : ExtendedMantissa} {E : ℤ} {v : ℚ}
    (hM : Normal em.mantissa E) (hloc : Locates em (v / 2 ^ E)) :
    Rounds v (em.roundedMantissa * 2 ^ E) ∧ em.roundedMantissa ≤ 2 ^ 53 ∧
      (2 ^ 52 ≤ em.roundedMantissa ∨ E = -1074) := by
  have hpow : (0 : ℚ) < 2 ^ E := by positivity
  have hsmall := hM.small
  obtain ⟨hneighbour, hexact⟩ := hloc.roundedMantissa
  refine ⟨?_, by omega, hM.full.imp (fun h => by omega) id⟩
  refine rounds_of_neighbours hM.full ((le_div_iff₀ hpow).mp hloc.least)
    ((div_lt_iff₀ hpow).mp hloc.next) hneighbour fun hv => hexact ?_
  rw [hv, mul_div_assoc, div_self hpow.ne', mul_one]

/-- A magnitude that a fine mantissa locates is rounded. -/
lemma roundsTo_roundWithAccuracy {m : ℕ} {e : ℤ} {a : Accuracy} {v : ℚ} (hfine : Fine m e)
    (hloc : Locates (.ofMantissaAndAccuracy m a) (v / 2 ^ e)) (s : Sign) :
    RoundsTo (signed s v) (roundWithAccuracy Format.binary64 s m e a) := by
  obtain ⟨hsum, hnormal⟩ := hfine.normal
  set k := (target m e - e).toNat with hk
  set E := target m e with hE
  set em := (ExtendedMantissa.ofMantissaAndAccuracy m a) >>> k with hem
  have hshift : v / 2 ^ e / 2 ^ k = v / 2 ^ E := by
    rw [← hsum, zpow_add₀ two_ne_zero, zpow_natCast, div_div]
  have hlocE : Locates em (v / 2 ^ E) := hshift ▸ hloc.shiftRight k
  have hmantissa : em.mantissa = m / 2 ^ k := by
    rw [hem, shiftRight_mantissa]
    cases a with
    | exact => rfl
    | inexact o => cases o <;> rfl
  have hM : Normal em.mantissa E := by rwa [hmantissa]
  obtain ⟨hrounds, hbound, hfull⟩ := rounds_roundedMantissa hM hlocE
  -- the rounded mantissa is brought to its target once more, since it may have become longer
  obtain ⟨hq, hvalue⟩ := carry hM.fine hbound hfull
  have hdef : roundWithAccuracy Format.binary64 s m e a =
      ofParts s (shiftToTargetExponent Format.binary64 em.roundedMantissa (e + k) .exact).1.mantissa
        (shiftToTargetExponent Format.binary64 em.roundedMantissa (e + k) .exact).2 := rfl
  rw [hdef, hsum]
  refine ⟨hq.canonical_ofParts s, ?_⟩
  rw [valueOf_ofParts, hvalue]
  exact hrounds.signed s

lemma locates_exact (m : ℕ) : Locates (.ofMantissaAndAccuracy m .exact) m :=
  ⟨le_rfl, lt_add_one _, by simp [Inexact, ExtendedMantissa.ofMantissaAndAccuracy]⟩

/-- A mantissa that is known exactly. -/
lemma roundsTo_exact {m : ℕ} {e : ℤ} (hfine : Fine m e) (s : Sign) :
    RoundsTo (signed s (m * 2 ^ e)) (roundWithAccuracy Format.binary64 s m e .exact) := by
  refine roundsTo_roundWithAccuracy hfine ?_ s
  rw [mul_div_assoc, div_self (by positivity), mul_one]
  exact locates_exact m

lemma decreaseExponent_value (m : ℕ) (e t : ℤ) :
    ((decreaseExponent m e t).1 : ℚ) * 2 ^ (decreaseExponent m e t).2 = m * 2 ^ e := by
  have hsplit : (2 : ℚ) ^ e = 2 ^ (e - (e - t).toNat) * 2 ^ (e - t).toNat := by
    rw [← zpow_natCast, ← zpow_add₀ two_ne_zero, sub_add_cancel]
  have hfst : (decreaseExponent m e t).1 = m * 2 ^ (e - t).toNat := Nat.shiftLeft_eq _ _
  have hsnd : (decreaseExponent m e t).2 = e - (e - t).toNat := rfl
  rw [hfst, hsnd, hsplit]
  push_cast
  ring

lemma decreaseExponent_fine {m : ℕ} (hm : m ≠ 0) (e : ℤ) :
    Fine (decreaseExponent m e (target m e)).1 (decreaseExponent m e (target m e)).2 := by
  have hfst : (decreaseExponent m e (target m e)).1 = m * 2 ^ (e - target m e).toNat :=
    Nat.shiftLeft_eq _ _
  have hsnd : (decreaseExponent m e (target m e)).2 = e - (e - target m e).toNat := rfl
  unfold Fine
  rw [hfst, hsnd]
  by_cases ht : target m e = -1074
  · exact .inl (by omega)
  · have hlog : 52 ≤ m.log2 + (e - target m e).toNat := by unfold target at ht ⊢; omega
    right
    calc 2 ^ 52 ≤ 2 ^ (m.log2 + (e - target m e).toNat) := Nat.pow_le_pow_right two_pos hlog
      _ = 2 ^ m.log2 * 2 ^ (e - target m e).toNat := pow_add _ _ _
      _ ≤ m * 2 ^ (e - target m e).toNat := Nat.mul_le_mul_right _ (Nat.log2_self_le hm)

lemma roundsTo_round {m : ℕ} (hm : m ≠ 0) (e : ℤ) (s : Sign) :
    RoundsTo (signed s (m * 2 ^ e)) (UnpackedFloat.round Format.binary64 s m e) := by
  have h := roundsTo_exact (decreaseExponent_fine hm e) s
  rwa [decreaseExponent_value] at h

lemma roundsTo_zero (s : Sign) : RoundsTo 0 (.zero s) := ⟨trivial, .refl 0⟩

lemma roundsTo_normalize (M e : ℤ) (z : Sign) :
    RoundsTo (M * 2 ^ e) (UnpackedFloat.normalize Format.binary64 M e z) := by
  unfold UnpackedFloat.normalize
  rcases lt_trichotomy M 0 with h | rfl | h
  · rw [compare_lt_iff_lt.mpr h]
    have hcast : ((-M).toNat : ℚ) = -M := by
      exact_mod_cast Int.toNat_of_nonneg (by omega : 0 ≤ -M)
    have hround := roundsTo_round (by omega : (-M).toNat ≠ 0) e .negative
    rw [hcast] at hround
    simpa [signed] using hround
  · simpa using roundsTo_zero z
  · rw [compare_gt_iff_gt.mpr h]
    have hcast : (M.toNat : ℚ) = M := by exact_mod_cast Int.toNat_of_nonneg h.le
    have hround := roundsTo_round (by omega : M.toNat ≠ 0) e .positive
    rw [hcast] at hround
    exact hround

/-! ### Operations -/

lemma Canonical.roundsTo {u : UnpackedFloat} (h : Canonical u) : RoundsTo (valueOf u) u :=
  ⟨h, .refl _⟩

/-- The value of a number at a smaller exponent. -/
lemma apply_decreaseExponent (s : Sign) (m : ℕ) (e t : ℤ) (ht : t ≤ e) :
    ((s.apply (decreaseExponent m e t).1 : ℤ) : ℚ) * 2 ^ t = signed s (m * 2 ^ e) := by
  have hsnd : (decreaseExponent m e t).2 = t := by
    have h : (decreaseExponent m e t).2 = e - (e - t).toNat := rfl
    omega
  have hvalue := decreaseExponent_value m e t
  rw [hsnd] at hvalue
  rw [signed_apply, ← hvalue]
  cases s
  · exact neg_mul _ _
  · rfl

lemma roundsTo_add {u v : UnpackedFloat} (hu : Canonical u) (hv : Canonical v) :
    RoundsTo (valueOf u + valueOf v) (UnpackedFloat.add Format.binary64 u v) := by
  cases u with
  | notANumber => exact hu.elim
  | infinity => exact hu.elim
  | zero s =>
    cases v with
    | notANumber => exact hv.elim
    | infinity => exact hv.elim
    | zero t =>
      have hzero : valueOf (.zero s) + valueOf (.zero t) = 0 := add_zero 0
      rw [hzero]
      cases s <;> cases t <;> exact roundsTo_zero _
    | finite t m e hm =>
      have hsum : valueOf (.zero s) + valueOf (.finite t m e hm) = valueOf (.finite t m e hm) :=
        zero_add _
      rw [hsum]
      exact hv.roundsTo
  | finite s m₁ e₁ hm₁ =>
    cases v with
    | notANumber => exact hv.elim
    | infinity => exact hv.elim
    | zero t =>
      have hsum : valueOf (.finite s m₁ e₁ hm₁) + valueOf (.zero t) =
        valueOf (.finite s m₁ e₁ hm₁) := add_zero _
      rw [hsum]
      exact hu.roundsTo
    | finite t m₂ e₂ hm₂ =>
      have h := roundsTo_normalize (s.apply (decreaseExponent m₁ e₁ (min e₁ e₂)).1 +
        t.apply (decreaseExponent m₂ e₂ (min e₁ e₂)).1) (min e₁ e₂) .positive
      rw [Int.cast_add, add_mul, apply_decreaseExponent _ _ _ _ (min_le_left _ _),
        apply_decreaseExponent _ _ _ _ (min_le_right _ _)] at h
      exact h

lemma valueOf_neg (u : UnpackedFloat) : valueOf u.neg = -valueOf u := by
  cases u with
  | finite s m e hm =>
    cases s with
    | negative => exact (neg_neg _).symm
    | positive => rfl
  | _ => exact neg_zero.symm

lemma Canonical.neg {u : UnpackedFloat} (h : Canonical u) : Canonical u.neg := by
  cases u with
  | notANumber => exact h
  | infinity => exact h
  | zero => trivial
  | finite s m e hm => exact h

/-- Subtracting is adding the opposite. -/
lemma sub_eq_add {u v : UnpackedFloat} (hu : Canonical u) (hv : Canonical v) :
    UnpackedFloat.sub Format.binary64 u v = UnpackedFloat.add Format.binary64 u v.neg := by
  cases u with
  | notANumber => exact hu.elim
  | infinity => exact hu.elim
  | zero s =>
    cases v with
    | notANumber => exact hv.elim
    | infinity => exact hv.elim
    | _ => rfl
  | finite s m₁ e₁ hm₁ =>
    cases v with
    | notANumber => exact hv.elim
    | infinity => exact hv.elim
    | zero t => rfl
    | finite t m₂ e₂ hm₂ =>
      cases t with
      | negative => exact congrArg (UnpackedFloat.normalize _ · _ _) (sub_neg_eq_add _ _)
      | positive => rfl

lemma roundsTo_sub {u v : UnpackedFloat} (hu : Canonical u) (hv : Canonical v) :
    RoundsTo (valueOf u - valueOf v) (UnpackedFloat.sub Format.binary64 u v) := by
  rw [sub_eq_add hu hv, sub_eq_add_neg, ← valueOf_neg]
  exact roundsTo_add hu hv.neg

lemma roundsTo_mul {m₁ m₂ : ℕ} {e₁ e₂ : ℤ} (hm₁ : 0 < m₁) (hm₂ : 0 < m₂)
    (hfine : Fine (m₁ * m₂) (e₁ + e₂)) (s t : Sign) :
    RoundsTo (signed (s * t) (m₁ * 2 ^ e₁ * (m₂ * 2 ^ e₂)))
      (UnpackedFloat.mul Format.binary64 (.finite s m₁ e₁ hm₁) (.finite t m₂ e₂ hm₂)) := by
  have h := roundsTo_exact hfine (s * t)
  have hvalue : ((m₁ * m₂ : ℕ) : ℚ) * 2 ^ (e₁ + e₂) = m₁ * 2 ^ e₁ * (m₂ * 2 ^ e₂) := by
    rw [zpow_add₀ two_ne_zero]
    push_cast
    ring
  rwa [hvalue] at h

/-- A quotient lies between two whole numbers as its remainder tells. -/
lemma locates_quotient (a : ℕ) {b : ℕ} (hb : 0 < b) :
    Locates (.ofMantissaAndAccuracy (a / b) (accuracyOfFraction (a % b) b)) (a / b) := by
  have hbpos : (0 : ℚ) < b := by exact_mod_cast hb
  have hmod : (a % b : ℕ) < (b : ℚ) := by exact_mod_cast Nat.mod_lt a hb
  have ha : ((a / b : ℕ) : ℚ) * b + (a % b : ℕ) = a := by exact_mod_cast Nat.div_add_mod' a b
  have hmantissa : (ExtendedMantissa.ofMantissaAndAccuracy (a / b)
      (accuracyOfFraction (a % b) b)).mantissa = a / b := by
    unfold accuracyOfFraction
    split
    · rfl
    · cases compare (2 * (a % b)) b <;> rfl
  have hinexact : ¬Inexact (.ofMantissaAndAccuracy (a / b) (accuracyOfFraction (a % b) b)) ↔
      a % b = 0 := by
    unfold accuracyOfFraction Inexact
    split
    · next h => simp [ExtendedMantissa.ofMantissaAndAccuracy, h]
    · next h => cases compare (2 * (a % b)) b <;> simp [ExtendedMantissa.ofMantissaAndAccuracy, h]
  refine ⟨?_, ?_, ?_⟩
  · rw [hmantissa, le_div_iff₀ hbpos, ← ha]
    exact le_add_of_nonneg_right (by positivity)
  · rw [hmantissa, div_lt_iff₀ hbpos, ← ha]
    linarith
  · rw [hinexact, hmantissa, div_eq_iff hbpos.ne', ← ha]
    constructor
    · intro h
      rw [h, Nat.cast_zero, add_zero]
    · intro h
      exact_mod_cast left_eq_add.mp h.symm

/-- A quotient is computed with enough bits. -/
lemma fine_divCore {m₁ m₂ : ℕ} (hm₁ : 0 < m₁) (hm₂ : 0 < m₂) (e₁ e₂ : ℤ) :
    Fine (divCore Format.binary64 m₁ e₁ m₂ e₂).1 (divCore Format.binary64 m₁ e₁ m₂ e₂).2.1 := by
  have htarget : Format.binary64.targetExponent (totalExponent m₁ e₁ - totalExponent m₂ e₂) =
      max (m₁.log2 + 1 + e₁ - (m₂.log2 + 1 + e₂) - 53) (-1074) := rfl
  set T := min (e₁ - e₂) (max (m₁.log2 + 1 + e₁ - (m₂.log2 + 1 + e₂) - 53) (-1074)) with hT
  have hcore : divCore Format.binary64 m₁ e₁ m₂ e₂ =
      ((m₁ <<< (e₁ - e₂ - T).toNat) / m₂, T,
        accuracyOfFraction ((m₁ <<< (e₁ - e₂ - T).toNat) % m₂) m₂) := rfl
  rw [hcore]
  by_cases hlow : T ≤ -1074
  · exact .inl hlow
  · right
    change 2 ^ 52 ≤ (m₁ <<< (e₁ - e₂ - T).toNat) / m₂
    rw [Nat.le_div_iff_mul_le hm₂, Nat.shiftLeft_eq]
    have hbits : 53 + m₂.log2 ≤ m₁.log2 + (e₁ - e₂ - T).toNat := by omega
    calc 2 ^ 52 * m₂ ≤ 2 ^ 52 * 2 ^ (m₂.log2 + 1) :=
          Nat.mul_le_mul_left _ Nat.lt_log2_self.le
      _ = 2 ^ (53 + m₂.log2) := by rw [← pow_add]; congr 1; omega
      _ ≤ 2 ^ (m₁.log2 + (e₁ - e₂ - T).toNat) := Nat.pow_le_pow_right two_pos hbits
      _ = 2 ^ m₁.log2 * 2 ^ (e₁ - e₂ - T).toNat := pow_add _ _ _
      _ ≤ m₁ * 2 ^ (e₁ - e₂ - T).toNat :=
          Nat.mul_le_mul_right _ (Nat.log2_self_le hm₁.ne')

/-- And it is located by what is computed. -/
lemma locates_divCore {m₁ m₂ : ℕ} (hm₂ : 0 < m₂) (e₁ e₂ : ℤ) :
    Locates (.ofMantissaAndAccuracy (divCore Format.binary64 m₁ e₁ m₂ e₂).1
        (divCore Format.binary64 m₁ e₁ m₂ e₂).2.2)
      (m₁ * 2 ^ e₁ / (m₂ * 2 ^ e₂) / 2 ^ (divCore Format.binary64 m₁ e₁ m₂ e₂).2.1) := by
  have hT : (divCore Format.binary64 m₁ e₁ m₂ e₂).2.1 ≤ e₁ - e₂ := min_le_left _ _
  set T := (divCore Format.binary64 m₁ e₁ m₂ e₂).2.1 with hTdef
  set a := m₁ <<< (e₁ - e₂ - T).toNat with ha
  have hvalue : m₁ * 2 ^ e₁ / (m₂ * 2 ^ e₂) / 2 ^ T = ((a : ℕ) : ℚ) / m₂ := by
    have hshift : ((e₁ - e₂ - T).toNat : ℤ) = e₁ - e₂ - T := Int.toNat_of_nonneg (by omega)
    have hpow : (2 : ℚ) ^ (e₁ - e₂ - T).toNat = 2 ^ e₁ / 2 ^ e₂ / 2 ^ T := by
      rw [← zpow_natCast, hshift, zpow_sub₀ two_ne_zero, zpow_sub₀ two_ne_zero]
    rw [ha, Nat.shiftLeft_eq, Nat.cast_mul, Nat.cast_pow, Nat.cast_ofNat, hpow]
    field_simp
  rw [hvalue]
  exact locates_quotient a hm₂

lemma roundsTo_div {m₁ m₂ : ℕ} (hm₁ : 0 < m₁) (hm₂ : 0 < m₂) (e₁ e₂ : ℤ) (s t : Sign) :
    RoundsTo (signed (s / t) (m₁ * 2 ^ e₁ / (m₂ * 2 ^ e₂)))
      (UnpackedFloat.div Format.binary64 (.finite s m₁ e₁ hm₁) (.finite t m₂ e₂ hm₂)) :=
  roundsTo_roundWithAccuracy (fine_divCore hm₁ hm₂ e₁ e₂) (locates_divCore hm₂ e₁ e₂) (s / t)

end ShaderLoom.Number
