import ShaderLoom.Number.Shortest
import ShaderLoom.Proofs.NearestNumber

/-!
The shortest decimal stands for a number that is near the binary one.

The ends of the interval are the points halfway to the neighbours. Whatever grid a decimal was
found on, it was in the interval, and the exact expansion is the number itself.
-/

namespace ShaderLoom.Number

/-- The number a decimal stands for. -/
def Decimal.toRat (c : Decimal) : ℚ := c.digits * 10 ^ c.power

lemma power_zpow {base : ℕ} (hbase : 0 < base) (s : ℤ) :
    (base : ℚ) ^ s = power base s.toNat / power base (-s).toNat := by
  have hne : (base : ℚ) ≠ 0 := by exact_mod_cast hbase.ne'
  rcases le_total 0 s with hs | hs
  · rw [power_toNat hs, Int.toNat_eq_zero.mpr (neg_nonpos.mpr hs), power_zero, Nat.cast_one,
      div_one]
  · rw [power_toNat (neg_nonneg.mpr hs), Int.toNat_eq_zero.mpr hs, power_zero, Nat.cast_one,
      zpow_neg, one_div, inv_inv]

lemma toRat_eq_div (c : Decimal) :
    c.toRat = ((c.digits * power 10 c.power.toNat : ℕ) : ℚ) / power 10 (-c.power).toNat := by
  have hpow : (10 : ℚ) ^ c.power = power 10 c.power.toNat / power 10 (-c.power).toNat :=
    power_zpow (by decide) c.power
  rw [Decimal.toRat, hpow, Nat.cast_mul, mul_div_assoc]

namespace Interval

variable {i : Interval} {k : ℤ} {c : ℕ}

lemma cast_point (den : ℕ) :
    ((c * (den * power 10 k.toNat) : ℕ) : ℚ) = c * 10 ^ k * den * power 10 (-k).toNat := by
  have hup : (power 10 (-k).toNat : ℚ) ≠ 0 := by exact_mod_cast (power_pos (by decide) _).ne'
  have hpow : (10 : ℚ) ^ k = power 10 k.toNat / power 10 (-k).toNat :=
    power_zpow (by decide) k
  rw [hpow]
  push_cast
  field_simp

lemma rescale_le_iff (hden : 0 < i.den) (n : ℕ) :
    n * power 10 (-k).toNat ≤ c * (i.den * power 10 k.toNat) ↔ (n : ℚ) / i.den ≤ c * 10 ^ k := by
  have hup : (0 : ℚ) < power 10 (-k).toNat := by exact_mod_cast power_pos (by decide) _
  rw [← @Nat.cast_le ℚ, cast_point, Nat.cast_mul, mul_le_mul_iff_left₀ hup,
    div_le_iff₀ (by exact_mod_cast hden)]

lemma le_rescale_iff (hden : 0 < i.den) (n : ℕ) :
    c * (i.den * power 10 k.toNat) ≤ n * power 10 (-k).toNat ↔ c * 10 ^ k ≤ (n : ℚ) / i.den := by
  have hup : (0 : ℚ) < power 10 (-k).toNat := by exact_mod_cast power_pos (by decide) _
  rw [← @Nat.cast_le ℚ, cast_point, Nat.cast_mul, mul_le_mul_iff_left₀ hup,
    le_div_iff₀ (by exact_mod_cast hden)]

/-- What is in an interval that was divided by a power of ten. -/
lemma bounds_of_contains (hden : 0 < i.den) (h : (i.rescale k).contains c = true) :
    (i.low : ℚ) / i.den ≤ c * 10 ^ k ∧ c * 10 ^ k ≤ (i.high : ℚ) / i.den ∧
      (i.closed = false →
        (i.low : ℚ) / i.den < c * 10 ^ k ∧ c * 10 ^ k < (i.high : ℚ) / i.den) := by
  have hlow := @le_rescale_iff i k c hden i.low
  have hhigh := @rescale_le_iff i k c hden i.high
  unfold contains rescale at h
  cases hclosed : i.closed with
  | true =>
    simp only [hclosed, if_true, Bool.and_eq_true, decide_eq_true_eq] at h
    exact ⟨(rescale_le_iff hden _).mp h.1, (le_rescale_iff hden _).mp h.2, nofun⟩
  | false =>
    simp only [hclosed, Bool.false_eq_true, if_false, Bool.and_eq_true, decide_eq_true_eq,
      ← not_le] at h
    rw [hlow, hhigh, not_le, not_le] at h
    exact ⟨h.1.le, h.2.le, fun _ => h⟩

lemma contains_of_nearest? (h : i.nearest? = some c) : i.contains c = true := by
  simp only [nearest?] at h
  split at h
  · next hfirst hsecond =>
    split at h <;> cases h
    · exact hfirst
    · exact hsecond
  · next hfirst _ =>
    cases h
    exact hfirst
  · next _ hsecond =>
    cases h
    exact hsecond
  · cases h

end Interval

/-! ### The interval of a number -/

namespace Format

variable {F : Format} {d : Dyadic}

lemma interval_den_pos (F : Format) (d : Dyadic) : 0 < (F.interval d).den :=
  Nat.mul_pos (by decide) d.denominator_pos

lemma cast_interval {n : ℕ} :
    ((n * power 2 d.scale.toNat : ℕ) : ℚ) / (F.interval d).den = n / 4 * 2 ^ d.scale := by
  have hpow : (2 : ℚ) ^ d.scale = power 2 d.scale.toNat / power 2 (-d.scale).toNat :=
    power_zpow (by decide) d.scale
  have hdown : (power 2 (-d.scale).toNat : ℚ) ≠ 0 := by
    exact_mod_cast (power_pos (by decide) _).ne'
  rw [hpow, interval, Dyadic.denominator]
  push_cast
  field_simp

lemma interval_high : ((F.interval d).high : ℚ) / (F.interval d).den =
    d.magnitude + 2 ^ d.scale / 2 := by
  refine cast_interval.trans ?_
  rw [Dyadic.magnitude]
  push_cast
  ring

lemma interval_low (h : d.mantissa ≠ 0) : ((F.interval d).low : ℚ) / (F.interval d).den =
    d.magnitude - F.gap d / 2 := by
  refine cast_interval.trans ?_
  rw [Dyadic.magnitude, gap]
  by_cases hnarrow : d.mantissa = F.hidden ∧ F.minScale < d.scale
  · rw [if_pos hnarrow, if_pos (show F.Narrow d from hnarrow), Nat.cast_sub (by omega)]
    push_cast
    ring
  · rw [if_neg hnarrow, if_neg (show ¬F.Narrow d from hnarrow), Nat.cast_sub (by omega)]
    push_cast
    ring

/-- What is in the interval of a number is near it. -/
lemma near_of_contains (hmantissa : d.mantissa ≠ 0) {k : ℤ} {c : ℕ}
    (h : ((F.interval d).rescale k).contains c = true) : F.Near d (c * 10 ^ k) := by
  obtain ⟨hlow, hhigh, hopen⟩ := Interval.bounds_of_contains (F.interval_den_pos d) h
  rw [interval_high, interval_low hmantissa] at hopen
  rw [interval_high] at hhigh
  rw [interval_low hmantissa] at hlow
  exact ⟨hlow, hhigh, fun hodd => hopen (decide_eq_false (by omega))⟩

lemma near_of_onGrid? (hmantissa : d.mantissa ≠ 0) {places : ℕ} {c : Decimal}
    (h : (F.interval d).onGrid? places = some c) : F.Near d c.toRat := by
  obtain ⟨n, hn, rfl⟩ := Option.map_eq_some_iff.mp h
  have hnear := near_of_contains hmantissa (Interval.contains_of_nearest? hn)
  split
  · next hfull =>
    -- the next power of ten, written as one digit
    rw [hfull] at hnear
    convert hnear using 1
    rw [Decimal.toRat, Nat.cast_one, one_mul, zpow_add₀ (by norm_num), zpow_natCast, mul_comm]
    exact congrArg (· * _) (Nat.cast_pow 10 places).symm
  · exact hnear

lemma exact_toRat (d : Dyadic) : d.exact.toRat = d.magnitude := by
  have hpow : (2 : ℚ) ^ d.scale = power 2 d.scale.toNat / power 2 (-d.scale).toNat :=
    power_zpow (by decide) d.scale
  have hten : (power 2 (-d.scale).toNat : ℚ) * power 5 (-d.scale).toNat =
      10 ^ (-d.scale).toNat := by
    exact_mod_cast (Nat.mul_pow 2 5 (-d.scale).toNat).symm
  have hfive : (power 5 (-d.scale).toNat : ℚ) ≠ 0 := by
    exact_mod_cast (power_pos (by decide) _).ne'
  have htwo : (power 2 (-d.scale).toNat : ℚ) ≠ 0 := by
    exact_mod_cast (power_pos (by decide) _).ne'
  rw [Decimal.toRat, Dyadic.exact, Dyadic.magnitude, hpow, zpow_neg, zpow_natCast, ← hten]
  push_cast
  field_simp

/-- **Shortest decimals**: the decimal that is found for a number is near it. -/
theorem shortest_near (F : Format) (hmantissa : d.mantissa ≠ 0) :
    F.Near d (F.shortest d).toRat := by
  unfold shortest
  cases hfound : (List.range 17).findSome? fun n => (F.interval d).onGrid? (n + 1) with
  | none =>
    rw [Option.getD_none, exact_toRat]
    exact F.near_magnitude d
  | some c =>
    obtain ⟨n, -, hn⟩ := List.exists_of_findSome?_eq_some hfound
    exact near_of_onGrid? hmantissa hn

end Format

end ShaderLoom.Number
