import ShaderLoom.Proofs.DoubleRounding

/-!
Doubles among the rationals.

A number that is packed comes back as it was, unless its exponent is too large: then it becomes an
infinity. An infinity stands among the finite doubles where the number would have stood, so a sum
or a difference is compared by a rational number that rounds the exact one, whether it overflows
or not.
-/

namespace ShaderLoom.Number

open Float.Model
open Float.Model.UnpackedFloat

/-! ### Packing -/

lemma unpackSign_packComponents {spec : Float.Model.Format} (s : Sign)
    (e : BitVec spec.exponentBits) (m : BitVec spec.mantissaBitsWithoutImplicit) :
    unpackSign (packComponents spec s e m) = s.toBitVec := by
  ext i hi
  obtain rfl : i = 0 := by omega
  change ((packComponents spec s e m).extractLsb _ _ |>.cast _)[0] = _
  simp [packComponents, BitVec.getLsbD_append, BitVec.getElem_append]

lemma ofBitVec_toBitVec (s : Sign) : Sign.ofBitVec s.toBitVec = s := by cases s <;> rfl

/-- The bit that is not stored. -/
lemma toNat_leading (m : BitVec 52) : (1#1 ++ m).toNat = 2 ^ 52 + m.toNat := by
  rw [BitVec.toNat_append, ← Nat.shiftLeft_add_eq_or_of_lt m.isLt]
  rfl

/-- What a word with these three fields is. -/
def ofFields (s : Sign) (e : BitVec 11) (m : BitVec 52) : UnpackedFloat :=
  if e = -1#11 then (if m = 0#52 then .infinity s else .notANumber)
  else if e = 0#11 then ofParts s m.toNat (-1074)
  else ofParts s (2 ^ 52 + m.toNat) (e.toNat - 1075)

lemma unpack_eq_ofFields (b : BitVec 64) :
    UnpackedFloat.unpack Format.binary64 b =
      ofFields (Sign.ofBitVec (@unpackSign Format.binary64 b))
        (@unpackExponent Format.binary64 b)
        (@unpackMantissa Format.binary64 b) := by
  have hlow : ∀ e : BitVec 11, e = 0#11 → (e.toNat : ℤ) - 1075 + 1 = -1074 := by
    rintro e rfl
    rfl
  unfold UnpackedFloat.unpack ofFields
  dsimp only
  by_cases hones : @unpackExponent Format.binary64 b = -1#11
  · rw [if_pos hones, if_pos hones]
  · rw [if_neg hones, if_neg hones]
    by_cases hzero : @unpackExponent Format.binary64 b = 0#11
    · rw [if_pos hzero, if_pos hzero]
      by_cases hm : @unpackMantissa Format.binary64 b = 0#52
      · have hnone : (@unpackMantissa Format.binary64 b).toNat = 0 :=
          congrArg BitVec.toNat hm
        rw [dif_pos hm, hnone]
        rfl
      · have hpos : 0 < (@unpackMantissa Format.binary64 b).toNat := by
          simpa [BitVec.toNat_pos, BitVec.pos_iff_ne_zero] using hm
        rw [dif_neg hm, ofParts_of_pos hpos]
        congr 1
        exact hlow _ hzero
    · rw [if_neg hzero, if_neg hzero, ofParts_of_pos (by positivity)]
      congr 1
      exact toNat_leading _

lemma unpack_packComponents (s : Sign) (e : BitVec 11) (m : BitVec 52) :
    UnpackedFloat.unpack Format.binary64 (packComponents Format.binary64 s e m) =
      ofFields s e m := by
  have h := unpack_eq_ofFields (packComponents Format.binary64 s e m)
  rwa [unpackMantissa_packComponents, unpackExponent_packComponents, unpackSign_packComponents,
    ofBitVec_toBitVec] at h

/-- Below the infinities. -/
def Bounded (u : UnpackedFloat) : Prop := |valueOf u| < 2 ^ 1024

lemma abs_signed (s : Sign) {r : ℚ} (h : 0 ≤ r) : |signed s r| = r := by
  cases s with
  | negative => exact (abs_neg r).trans (abs_of_nonneg h)
  | positive => exact abs_of_nonneg h

/-- The numbers below the infinities are those whose exponent fits. -/
lemma Normal.bounded_iff {m : ℕ} {e : ℤ} (h : Normal m e) :
    (m : ℚ) * 2 ^ e < 2 ^ 1024 ↔ e ≤ 971 := by
  have htop : (2 : ℚ) ^ 1024 = 2 ^ 52 * 2 ^ (972 : ℤ) := (pow_add 2 52 972).trans rfl
  constructor
  · intro hlt
    by_contra hbig
    have hfull : 2 ^ 52 ≤ m := h.full.resolve_right (by omega)
    refine absurd hlt (not_lt.mpr ?_)
    rw [htop]
    gcongr
    · exact_mod_cast hfull
    · norm_num
    · omega
  · intro hle
    have := mul_zpow_lt (M := 2 ^ 52) (E := 972) h.small h.fine (.inl le_rfl) (by omega)
    rw [htop]
    exact_mod_cast this

/-- A double that is finite is a number in its one form, below the infinities. -/
lemma ofFields_isFinite {s : Sign} {e : BitVec 11} {m : BitVec 52}
    (h : (ofFields s e m).isFinite = true) :
    Canonical (ofFields s e m) ∧ Bounded (ofFields s e m) := by
  have hparts : ∀ {m : ℕ} {e : ℤ}, Normal m e → e ≤ 971 →
      Canonical (ofParts s m e) ∧ Bounded (ofParts s m e) := by
    intro m e hn he
    refine ⟨hn.canonical_ofParts s, ?_⟩
    unfold Bounded
    rw [valueOf_ofParts, abs_signed s (by positivity)]
    exact hn.bounded_iff.mpr he
  unfold ofFields at h ⊢
  have hm := m.isLt
  have he := e.isLt
  split at h
  · split at h <;> cases h
  · next hones =>
    rw [if_neg hones]
    split
    · exact hparts ⟨by omega, le_rfl, .inr rfl⟩ (by omega)
    · next hzero =>
      have hlow : e.toNat ≠ 0 := fun h0 => hzero (BitVec.eq_of_toNat_eq h0)
      have hhigh : e.toNat ≠ 2047 := fun h1 => hones (BitVec.eq_of_toNat_eq h1)
      exact hparts ⟨by omega, by omega, .inl (by omega)⟩ (by omega)

/-- The fields of a number whose exponent fits. -/
lemma ofFields_normal (s : Sign) {m : ℕ} {e : ℤ} (h : Normal m e) (he : e ≤ 971)
    (hm : 2 ^ 52 ≤ m) :
    ofFields s (BitVec.ofNat 11 (e + 1075).toNat) (BitVec.ofNat 52 m) = ofParts s m e := by
  have hfine := h.fine
  have hsmall := h.small
  have hbiased : (BitVec.ofNat 11 (e + 1075).toNat).toNat = (e + 1075).toNat := by
    rw [BitVec.toNat_ofNat, Nat.mod_eq_of_lt (by omega)]
  have hmantissa : (BitVec.ofNat 52 m).toNat = m - 2 ^ 52 := by
    rw [BitVec.toNat_ofNat]
    omega
  have hones : BitVec.ofNat 11 (e + 1075).toNat ≠ -1#11 := fun heq => by
    have hnat : (e + 1075).toNat = 2047 := hbiased.symm.trans (congrArg BitVec.toNat heq)
    omega
  have hzero : BitVec.ofNat 11 (e + 1075).toNat ≠ 0#11 := fun heq => by
    have hnat : (e + 1075).toNat = 0 := hbiased.symm.trans (congrArg BitVec.toNat heq)
    omega
  have hm' : 2 ^ 52 + (m - 2 ^ 52) = m := by omega
  have he' : ((e + 1075).toNat : ℤ) - 1075 = e := by omega
  rw [ofFields, if_neg hones, if_neg hzero, hbiased, hmantissa, hm', he']

lemma ofFields_subnormal (s : Sign) {m : ℕ} (hm : m < 2 ^ 52) :
    ofFields s 0#11 (BitVec.ofNat 52 m) = ofParts s m (-1074) := by
  have hmantissa : (BitVec.ofNat 52 m).toNat = m := by
    rw [BitVec.toNat_ofNat, Nat.mod_eq_of_lt hm]
  rw [ofFields, if_neg (by decide), if_pos rfl, hmantissa]

/-- The words of numbers. -/
lemma pack_finite (s : Sign) {m : ℕ} (e : ℤ) (hm : 0 < m) :
    UnpackedFloat.pack Format.binary64 (.finite s m e hm) =
      if 2 ^ 11 ≤ (e + 1075).toNat + 1 then packComponents Format.binary64 s (-1#11) 0#52
      else if m.log2 + 1 = 53 then
        packComponents Format.binary64 s (BitVec.ofNat 11 (e + 1075).toNat) (BitVec.ofNat 52 m)
      else packComponents Format.binary64 s 0#11 (BitVec.ofNat 52 m) := by
  have hbias : (Format.binary64.exponentBias : ℤ) = 1023 := rfl
  have hbiased : e + (Format.binary64.exponentBias : ℤ) + (52 : ℕ) = e + 1075 := by
    rw [hbias]
    omega
  unfold UnpackedFloat.pack
  dsimp only
  rw [hbiased]
  generalize (e + 1075).toNat = biased
  rfl

/-- What comes back of a number: itself, or an infinity if it is too large. -/
lemma unpack_pack {u : UnpackedFloat} (h : Canonical u) :
    (Bounded u ∧ (Float.Model.pack u).unpack = u) ∨
    ∃ s r, (Float.Model.pack u).unpack = .infinity s ∧ 2 ^ 1024 ≤ r ∧ valueOf u = signed s r := by
  have hpacked : (Float.Model.pack u).unpack =
      UnpackedFloat.unpack Format.binary64 (UnpackedFloat.pack Format.binary64 u) := rfl
  rw [hpacked]
  cases u with
  | notANumber => exact h.elim
  | infinity => exact h.elim
  | zero s =>
    have hbounded : |(0 : ℚ)| < 2 ^ 1024 := by
      rw [abs_zero]
      positivity
    refine .inl ⟨hbounded, ?_⟩
    change UnpackedFloat.unpack Format.binary64 (packComponents Format.binary64 s 0#11 0#52) = _
    rw [unpack_packComponents]
    rfl
  | finite s m e hm =>
    have hn : Normal m e := h
    have hfine := hn.fine
    rw [pack_finite]
    by_cases he : e ≤ 971
    · left
      refine ⟨?_, ?_⟩
      · change |signed s (m * 2 ^ e)| < 2 ^ 1024
        rw [abs_signed s (by positivity)]
        exact hn.bounded_iff.mpr he
      rw [if_neg (by omega), ← ofParts_of_pos hm]
      by_cases hfull : 2 ^ 52 ≤ m
      · have hlog : m.log2 = 52 := by
          refine le_antisymm ?_ ((Nat.le_log2 hm.ne').mpr hfull)
          exact Nat.le_of_lt_succ ((Nat.log2_lt hm.ne').mpr hn.small)
        rw [if_pos (by omega), unpack_packComponents, ofFields_normal s hn he hfull]
      · have hlog : m.log2 < 52 := (Nat.log2_lt hm.ne').mpr (by omega)
        rw [if_neg (by omega), unpack_packComponents, ofFields_subnormal s (by omega),
          hn.full.resolve_left hfull]
    · right
      refine ⟨s, m * 2 ^ e, ?_, not_lt.mp (mt hn.bounded_iff.mp he), rfl⟩
      rw [if_pos (by omega), unpack_packComponents]
      rfl

/-! ### Doubles and rationals -/

/-- The value of a double, if it is finite. -/
def exactValue (x : Float) : ℚ := valueOf x.toModel.unpack

lemma canonical_of_isFinite {x : Float} (h : x.isFinite = true) :
    Canonical x.toModel.unpack ∧ Bounded x.toModel.unpack := by
  have hfields := unpack_eq_ofFields x.toModel.toBits.toBitVec
  have hunpack : x.toModel.unpack =
      UnpackedFloat.unpack Format.binary64 x.toModel.toBits.toBitVec := rfl
  have hfinite : x.toModel.unpack.isFinite = true := h
  rw [hunpack, hfields] at hfinite ⊢
  exact ofFields_isFinite hfinite

lemma representable_exactValue {x : Float} (h : x.isFinite = true) :
    Representable (exactValue x) := (canonical_of_isFinite h).1.representable

lemma lt_iff_of_compare {x y : Float} {o : Ordering}
    (h : x.toModel.unpack.compare y.toModel.unpack = some o) : x < y ↔ o = .lt := by
  have hdef : x < y ↔ (x.toModel.unpack.compare y.toModel.unpack == some .lt) = true :=
    ⟨of_decide_eq_true, decide_eq_true⟩
  rw [hdef, h, beq_iff_eq, Option.some_inj]

lemma le_iff_of_compare {x y : Float} {o : Ordering}
    (h : x.toModel.unpack.compare y.toModel.unpack = some o) : x ≤ y ↔ o ≠ .gt := by
  have hdef : x ≤ y ↔ (x.toModel.unpack.compare y.toModel.unpack).any (·.isLE) = true :=
    ⟨of_decide_eq_true, decide_eq_true⟩
  rw [hdef, h]
  cases o <;> simp

lemma beq_iff_of_compare {x y : Float} {o : Ordering}
    (h : x.toModel.unpack.compare y.toModel.unpack = some o) : (x == y) = true ↔ o = .eq := by
  have hdef : (x == y) = (x.toModel.unpack.compare y.toModel.unpack == some .eq) := rfl
  rw [hdef, h, beq_iff_eq, Option.some_inj]

/-- A finite number lies on one side of what is too large. -/
lemma compare_infinity {u : UnpackedFloat} (hu : Canonical u) (hb : Bounded u) (s : Sign) {r : ℚ}
    (hr : 2 ^ 1024 ≤ r) :
    (∃ o, u.compare (.infinity s) = some o ∧ o.Compares (valueOf u) (signed s r)) ∧
      ∃ o, UnpackedFloat.compare (.infinity s) u = some o ∧
        o.Compares (signed s r) (valueOf u) := by
  obtain ⟨hlow, hhigh⟩ := abs_lt.mp hb
  have hpos : valueOf u < r := hhigh.trans_le hr
  have hneg : -r < valueOf u := (neg_le_neg hr).trans_lt hlow
  cases u with
  | notANumber => exact hu.elim
  | infinity => exact hu.elim
  | zero t =>
    cases s with
    | negative => exact ⟨⟨.gt, rfl, hneg⟩, ⟨.lt, rfl, hneg⟩⟩
    | positive => exact ⟨⟨.lt, rfl, hpos⟩, ⟨.gt, rfl, hpos⟩⟩
  | finite t m e hm =>
    cases s with
    | negative => exact ⟨⟨.gt, by cases t <;> rfl, hneg⟩, ⟨.lt, rfl, hneg⟩⟩
    | positive => exact ⟨⟨.lt, by cases t <;> rfl, hpos⟩, ⟨.gt, rfl, hpos⟩⟩

/-- Finite doubles are compared with a double as their values with a rational number. -/
structure StandsAt (x : Float) (r : ℚ) : Prop where
  from_below : ∀ z : Float, z.isFinite = true →
    ∃ o, z.toModel.unpack.compare x.toModel.unpack = some o ∧ o.Compares (exactValue z) r
  from_above : ∀ z : Float, z.isFinite = true →
    ∃ o, x.toModel.unpack.compare z.toModel.unpack = some o ∧ o.Compares r (exactValue z)

namespace StandsAt

variable {x z : Float} {r : ℚ}

lemma lt_iff (h : StandsAt x r) (hz : z.isFinite = true) : z < x ↔ exactValue z < r := by
  obtain ⟨o, ho, hc⟩ := h.from_below z hz
  rw [lt_iff_of_compare ho]
  exact hc.eq_lt

lemma gt_iff (h : StandsAt x r) (hz : z.isFinite = true) : x < z ↔ r < exactValue z := by
  obtain ⟨o, ho, hc⟩ := h.from_above z hz
  rw [lt_iff_of_compare ho]
  exact hc.eq_lt

lemma le_iff (h : StandsAt x r) (hz : z.isFinite = true) : z ≤ x ↔ exactValue z ≤ r := by
  obtain ⟨o, ho, hc⟩ := h.from_below z hz
  rw [le_iff_of_compare ho, ← not_lt]
  exact hc.eq_gt.not

lemma ge_iff (h : StandsAt x r) (hz : z.isFinite = true) : x ≤ z ↔ r ≤ exactValue z := by
  obtain ⟨o, ho, hc⟩ := h.from_above z hz
  rw [le_iff_of_compare ho, ← not_lt]
  exact hc.eq_gt.not

lemma beq_iff (h : StandsAt x r) (hz : z.isFinite = true) :
    (z == x) = true ↔ exactValue z = r := by
  obtain ⟨o, ho, hc⟩ := h.from_below z hz
  rw [beq_iff_of_compare ho]
  exact hc.eq_eq

lemma of_canonical {u : UnpackedFloat} (hu : Canonical u) (hx : x.toModel.unpack = u) :
    StandsAt x (valueOf u) := by
  refine ⟨fun z hz => ?_, fun z hz => ?_⟩ <;> rw [hx]
  · exact compare_of_canonical (canonical_of_isFinite hz).1 hu
  · exact compare_of_canonical hu (canonical_of_isFinite hz).1

lemma of_isFinite (h : x.isFinite = true) : StandsAt x (exactValue x) :=
  of_canonical (canonical_of_isFinite h).1 rfl

/-- What a number was packed into stands where the number does. -/
lemma of_pack {u : UnpackedFloat} (hu : Canonical u) (hx : x.toModel = Float.Model.pack u) :
    StandsAt x (valueOf u) := by
  rcases unpack_pack hu with ⟨-, hback⟩ | ⟨s, r, hback, hr, hvalue⟩ <;> rw [← hx] at hback
  · exact of_canonical hu hback
  · rw [hvalue]
    refine ⟨fun z hz => ?_, fun z hz => ?_⟩ <;> rw [hback] <;>
      obtain ⟨hz, hb⟩ := canonical_of_isFinite hz
    · exact (compare_infinity hz hb s hr).1
    · exact (compare_infinity hz hb s hr).2

end StandsAt

/-! ### Sums, differences and reciprocals -/

variable {x y : Float}

/-- A sum stands at a rounding of the exact one. -/
lemma exists_add (hx : x.isFinite = true) (hy : y.isFinite = true) :
    ∃ r, Rounds (exactValue x + exactValue y) r ∧ StandsAt (x + y) r := by
  have h := roundsTo_add (canonical_of_isFinite hx).1 (canonical_of_isFinite hy).1
  exact ⟨_, h.rounds, .of_pack h.canonical rfl⟩

lemma exists_sub (hx : x.isFinite = true) (hy : y.isFinite = true) :
    ∃ r, Rounds (exactValue x - exactValue y) r ∧ StandsAt (x - y) r := by
  have h := roundsTo_sub (canonical_of_isFinite hx).1 (canonical_of_isFinite hy).1
  exact ⟨_, h.rounds, .of_pack h.canonical rfl⟩

/-- A result below the infinities is packed as it is. -/
lemma isFinite_of_pack {u : UnpackedFloat} {v : ℚ} (h : RoundsTo v u)
    (hb : |valueOf u| < 2 ^ 1024) (hx : x.toModel = Float.Model.pack u) :
    x.toModel.unpack = u ∧ x.isFinite = true ∧ Rounds v (exactValue x) := by
  have hback : x.toModel.unpack = u := by
    rw [hx]
    rcases unpack_pack h.canonical with ⟨-, hback⟩ | ⟨s, r, -, hr, hvalue⟩
    · exact hback
    · rw [hvalue, abs_signed s (le_trans (by positivity) hr)] at hb
      exact absurd hb (not_lt.mpr hr)
  refine ⟨hback, ?_, ?_⟩
  · change x.toModel.unpack.isFinite = true
    rw [hback]
    cases u with
    | notANumber => exact h.canonical.elim
    | infinity => exact h.canonical.elim
    | _ => rfl
  · rw [exactValue, hback]
    exact h.rounds

/-- A positive number shows its parts. -/
lemma Canonical.parts_of_pos {u : UnpackedFloat} (h : Canonical u) (hpos : 0 < valueOf u) :
    ∃ m e hm, u = .finite .positive m e hm ∧ (m : ℚ) * 2 ^ e = valueOf u := by
  cases u with
  | notANumber => exact h.elim
  | infinity => exact h.elim
  | zero s => exact absurd hpos (lt_irrefl 0)
  | finite s m e hm =>
    cases s with
    | negative => exact absurd hpos (not_lt.mpr (neg_nonpos.mpr (magnitude_pos hm e).le))
    | positive => exact ⟨m, e, hm, rfl, rfl⟩

/-- A positive result that is representable, and not too large, is exact. -/
lemma unpack_of_pack {u : UnpackedFloat} {v : ℚ} (h : RoundsTo v u) (hv : Representable v)
    (hpos : 0 < v) (hb : v < 2 ^ 1024) (hx : x.toModel = Float.Model.pack u) :
    ∃ m e hm, x.toModel.unpack = .finite .positive m e hm ∧ (m : ℚ) * 2 ^ e = v := by
  have hvalue : valueOf u = v := h.rounds.eq_of_representable hv
  have hbounded : |valueOf u| < 2 ^ 1024 := by rwa [hvalue, abs_of_pos hpos]
  obtain ⟨hback, -, -⟩ := isFinite_of_pack h hbounded hx
  obtain ⟨m, e, hm, hparts, hme⟩ := h.canonical.parts_of_pos (by rwa [hvalue])
  exact ⟨m, e, hm, hback.trans hparts, hme.trans hvalue⟩

lemma representable_natCast {n : ℕ} (hn : n < 2 ^ 53) : Representable n :=
  ⟨n, 0, by rw [Nat.abs_cast]; exact_mod_cast hn, by norm_num, by simp⟩

lemma natCast_bounded {n : ℕ} (hn : n < 2 ^ 53) : (n : ℚ) < 2 ^ 1024 := by
  calc (n : ℚ) < 2 ^ 53 := by exact_mod_cast hn
    _ ≤ 2 ^ 1024 := pow_le_pow_right₀ one_le_two (by norm_num)

lemma unpack_one : (Float.ofBits 0x3FF0000000000000).toModel.unpack =
    .finite .positive (2 ^ 52) (-52) (Nat.two_pow_pos 52) := by rfl

/-- A positive word that fits is converted exactly. -/
lemma unpack_toFloat {w : UInt64} (hpos : 0 < w.toNat) (hw : w.toNat < 2 ^ 53) :
    ∃ m e hm, w.toFloat.toModel.unpack = .finite .positive m e hm ∧ (m : ℚ) * 2 ^ e = w.toNat := by
  have hround := roundsTo_normalize (w.toNat : ℕ) 0 .positive
  rw [zpow_zero, mul_one, Int.cast_natCast] at hround
  exact unpack_of_pack hround (representable_natCast hw) (by exact_mod_cast hpos)
    (natCast_bounded hw) rfl

/-- A positive whole number that fits is a double of that value. -/
lemma unpack_ofNat {n : ℕ} (hpos : 0 < n) (hn : n < 2 ^ 53) :
    ∃ m e hm, (Float.ofNat n).toModel.unpack = .finite .positive m e hm ∧ (m : ℚ) * 2 ^ e = n := by
  -- it is computed as a decimal without an exponent: converted, and multiplied by one
  have hscale : Float.ofNat n = n.toUInt64.toFloat * Float.ofBits 0x3FF0000000000000 := by
    have hdef : Float.ofNat n = Float.ofScientific n false 0 := rfl
    rw [hdef, Float.ofScientific, dif_pos ⟨hn, by decide⟩]
    rfl
  have hword : n.toUInt64.toNat = n := Nat.mod_eq_of_lt (by omega)
  obtain ⟨m, e, hm, hparts, hvalue⟩ :=
    unpack_toFloat (w := n.toUInt64) (by rwa [hword]) (by rwa [hword])
  rw [hword] at hvalue
  have hfine : Fine (m * 2 ^ 52) (e + -52) := .inr (Nat.le_mul_of_pos_left _ hm)
  have hmul := roundsTo_mul hm (by norm_num : 0 < 2 ^ 52) hfine .positive .positive
  have hone : (m : ℚ) * 2 ^ e * (((2 ^ 52 : ℕ) : ℚ) * 2 ^ (-52 : ℤ)) = n := by
    rw [hvalue]
    norm_num
  rw [hone] at hmul
  refine unpack_of_pack hmul (representable_natCast hn) (by exact_mod_cast hpos)
    (natCast_bounded hn) ?_
  rw [hscale, ← hparts, ← unpack_one]
  rfl

/-- The reciprocal of a whole number that fits is finite and positive. -/
lemma reciprocal {n : ℕ} (hpos : 0 < n) (hn : n < 2 ^ 53) :
    (Float.ofNat 1 / Float.ofNat n).isFinite = true ∧
      0 < exactValue (Float.ofNat 1 / Float.ofNat n) := by
  obtain ⟨m₁, e₁, hm₁, hone, hvalue₁⟩ := unpack_ofNat one_pos (by norm_num : 1 < 2 ^ 53)
  obtain ⟨m₂, e₂, hm₂, hcount, hvalue₂⟩ := unpack_ofNat hpos hn
  have hdiv := roundsTo_div hm₁ hm₂ e₁ e₂ .positive .positive
  rw [hvalue₁, hvalue₂, Nat.cast_one] at hdiv
  have hnpos : (0 : ℚ) < n := by exact_mod_cast hpos
  have hn53 : (n : ℚ) ≤ 2 ^ 53 := by exact_mod_cast hn.le
  have hsmall : Representable (2 ^ (-53 : ℤ)) := ⟨1, -53, by norm_num, by norm_num, by simp⟩
  -- the quotient lies between two doubles
  have hlow : (2 : ℚ) ^ (-53 : ℤ) ≤ valueOf _ :=
    hdiv.rounds.above _ hsmall (by
      change (2 : ℚ) ^ (-53 : ℤ) ≤ 1 / n
      rw [le_div_iff₀ hnpos, zpow_neg, inv_mul_le_iff₀ (by positivity)]
      exact_mod_cast hn53)
  have hhigh : valueOf _ ≤ 1 := hdiv.rounds.below 1 ⟨1, 0, by norm_num, by norm_num, by simp⟩ (by
      change 1 / (n : ℚ) ≤ 1
      rw [div_le_one hnpos]
      exact_mod_cast hpos)
  have hvpos := lt_of_lt_of_le (by positivity : (0 : ℚ) < 2 ^ (-53 : ℤ)) hlow
  have hback := isFinite_of_pack (x := Float.ofNat 1 / Float.ofNat n) hdiv
    (by rw [abs_of_pos hvpos]; exact hhigh.trans_lt (one_lt_pow₀ one_lt_two (by norm_num))) (by
      rw [← hone, ← hcount]
      rfl)
  refine ⟨hback.2.1, ?_⟩
  rw [exactValue, hback.1]
  exact hvpos

end ShaderLoom.Number
