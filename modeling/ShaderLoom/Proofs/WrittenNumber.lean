import ShaderLoom.Number.Literal
import ShaderLoom.Proofs.ShortestDecimal

/-!
Written numbers, and what they stand for.

A numeral is a sign, digits, a point with more digits and an exponent, of which only the first
digits are required. Its digits without the point are a whole number, which the exponent and the
number of digits behind the point move by a power of ten. Both layouts of a decimal are numerals
for it.
-/

namespace ShaderLoom.Number

/-! ### Digits -/

/-- Decimal digits, at least one. -/
structure Digits where
  chars : List Char
  chars_ne_nil : chars ≠ []
  isDigit_of_mem : ∀ c ∈ chars, c.isDigit = true

namespace Digits

/-- The longest run of digits, and what follows it. -/
def read? (cs : List Char) : Option (Digits × List Char) :=
  if h : cs.takeWhile Char.isDigit = [] then none
  else some (⟨cs.takeWhile Char.isDigit, h, List.all_eq_true.mp List.all_takeWhile⟩,
    cs.dropWhile Char.isDigit)

/-- The digits of a whole number. -/
def ofNat (n : ℕ) : Digits where
  chars := digitsOf n
  chars_ne_nil := Nat.toDigits_ne_nil
  isDigit_of_mem _ hc := Nat.isDigit_of_mem_toDigits (by decide) (by decide) hc

def value (ds : Digits) : ℕ := Nat.ofDigitChars 10 ds.chars 0

lemma value_ofNat (n : ℕ) : (ofNat n).value = n := Nat.ofDigitChars_ten_toDigits

lemma read?_append (ds : Digits) {r : List Char} (hr : ∀ c ∈ r.head?, c.isDigit = false) :
    read? (ds.chars ++ r) = some (ds, r) := by
  have htake : (ds.chars ++ r).takeWhile Char.isDigit = ds.chars := by
    rw [List.takeWhile_append_of_pos ds.isDigit_of_mem]
    cases r with
    | nil => simp
    | cons c u => simp [hr c rfl]
  have hdrop : (ds.chars ++ r).dropWhile Char.isDigit = r := by
    rw [List.dropWhile_append_of_pos ds.isDigit_of_mem]
    cases r with
    | nil => rfl
    | cons c u => simp [hr c rfl]
  simp [read?, htake, hdrop, ds.chars_ne_nil]

end Digits

/-! ### Numerals -/

def signText (negative : Bool) : List Char := if negative then ['-'] else []

/-- A number as it is written: the digits before the point and those behind it, and the sign and
the digits of the exponent. -/
structure Numeral where
  negative : Bool
  whole : Digits
  fraction : Option Digits
  exponent : Option (Bool × Digits)

namespace Numeral

def fractionText : Option Digits → List Char
  | none => []
  | some ds => '.' :: ds.chars

def exponentText : Option (Bool × Digits) → List Char
  | none => []
  | some (negative, ds) => 'e' :: (signText negative ++ ds.chars)

def text (n : Numeral) : List Char :=
  signText n.negative ++ (n.whole.chars ++ (fractionText n.fraction ++ exponentText n.exponent))

/-- It has a point or an exponent, so it is not taken for a whole number. -/
def Marked (n : Numeral) : Prop := n.fraction.isSome ∨ n.exponent.isSome

def places (n : Numeral) : List Char := n.fraction.elim [] Digits.chars

def shift (n : Numeral) : ℤ :=
  n.exponent.elim 0 fun e => if e.1 then -(e.2.value : ℤ) else e.2.value

/-- The digits on both sides of the point as one number, moved by a power of ten. -/
def decimal (n : Numeral) : Decimal where
  digits := Nat.ofDigitChars 10 (n.whole.chars ++ n.places) 0
  power := n.shift - n.places.length

/-! ### Reading -/

def readSign : List Char → Bool × List Char
  | '-' :: r => (true, r)
  | r => (false, r)

def readFraction : List Char → Option (Option Digits × List Char)
  | '.' :: r => (Digits.read? r).map fun (ds, t) => (some ds, t)
  | r => some (none, r)

def readExponent : List Char → Option (Option (Bool × Digits) × List Char)
  | 'e' :: r => (Digits.read? (readSign r).2).map fun (ds, t) => (some ((readSign r).1, ds), t)
  | r => some (none, r)

/-- The numeral that a text is, if it is one. -/
def read? (cs : List Char) : Option Numeral := do
  let (negative, r) := readSign cs
  let (whole, s) ← Digits.read? r
  let (fraction, t) ← readFraction s
  let (exponent, u) ← readExponent t
  if u = [] then some ⟨negative, whole, fraction, exponent⟩ else none

lemma readSign_append (negative : Bool) (ds : Digits) (r : List Char) :
    readSign (signText negative ++ (ds.chars ++ r)) = (negative, ds.chars ++ r) := by
  cases negative with
  | true => rfl
  | false =>
    obtain ⟨cs, hne, hdigits⟩ := ds
    cases cs with
    | nil => exact absurd rfl hne
    | cons c cs =>
      have hc : c ≠ '-' := by
        rintro rfl
        cases hdigits _ List.mem_cons_self
      simp [signText, readSign, hc]

lemma readExponent_exponentText (e : Option (Bool × Digits)) :
    readExponent (exponentText e) = some (e, []) := by
  cases e with
  | none => rfl
  | some e =>
    obtain ⟨negative, ds⟩ := e
    have hsign := readSign_append negative ds []
    have hread := ds.read?_append (r := []) nofun
    simp only [List.append_nil] at hsign hread
    simp [exponentText, readExponent, hsign, hread]

lemma readFraction_fractionText (f : Option Digits) (e : Option (Bool × Digits)) :
    readFraction (fractionText f ++ exponentText e) = some (f, exponentText e) := by
  cases f with
  | none => cases e <;> rfl
  | some ds =>
    have hend : ∀ c ∈ (exponentText e).head?, c.isDigit = false := by
      cases e <;> simp [exponentText]
    simp [fractionText, readFraction, ds.read?_append hend]

/-- A numeral is read as what it is. -/
theorem read?_text (n : Numeral) : read? n.text = some n := by
  obtain ⟨negative, whole, fraction, exponent⟩ := n
  have hend : ∀ c ∈ (fractionText fraction ++ exponentText exponent).head?,
      c.isDigit = false := by
    cases fraction <;> cases exponent <;> simp [fractionText, exponentText]
  simp [read?, text, readSign_append, whole.read?_append hend, readFraction_fractionText,
    readExponent_exponentText]

end Numeral

/-! ### Writing -/

/-- A text is a numeral with a sign that is marked and stands for a number. -/
def Denotes (negative : Bool) (cs : List Char) (q : ℚ) : Prop :=
  ∃ n : Numeral, cs = n.text ∧ n.negative = negative ∧ n.Marked ∧ n.decimal.toRat = q

variable {negative : Bool} {ds : Digits}

/-- Digits on both sides of a point stand for all of them, moved by those behind it. -/
lemma denotes_point {whole fraction : List Char} (hwhole : whole ≠ []) (hfraction : fraction ≠ [])
    (hdigits : ∀ c ∈ whole ++ fraction, c.isDigit = true) :
    Denotes negative (signText negative ++ (whole ++ '.' :: fraction))
      (Nat.ofDigitChars 10 (whole ++ fraction) 0 * 10 ^ (-fraction.length : ℤ)) := by
  refine ⟨⟨negative, ⟨whole, hwhole, fun c hc => hdigits c (List.mem_append_left _ hc)⟩,
    some ⟨fraction, hfraction, fun c hc => hdigits c (List.mem_append_right _ hc)⟩, none⟩,
    ?_, rfl, .inl rfl, ?_⟩
  · simp [Numeral.text, Numeral.fractionText, Numeral.exponentText]
  · simp [Numeral.decimal, Numeral.shift, Numeral.places, Decimal.toRat]

/-- Zeros between the point and the digits. -/
lemma denotes_leading (ds : Digits) (k : ℕ) :
    Denotes negative (signText negative ++ '0' :: '.' :: (List.replicate k '0' ++ ds.chars))
      (ds.value * 10 ^ (-(k + ds.chars.length) : ℤ)) := by
  have hdigits : ∀ c ∈ ['0'] ++ (List.replicate k '0' ++ ds.chars), c.isDigit = true := by
    simp only [List.mem_append, List.mem_singleton, List.mem_replicate]
    rintro c (rfl | ⟨-, rfl⟩ | hc)
    · rfl
    · rfl
    · exact ds.isDigit_of_mem c hc
  have hpoint := @denotes_point negative ['0'] (List.replicate k '0' ++ ds.chars)
    (by simp) (by simp [ds.chars_ne_nil]) hdigits
  have hvalue : Nat.ofDigitChars 10 (['0'] ++ (List.replicate k '0' ++ ds.chars)) 0 =
      ds.value := by
    simp [Nat.ofDigitChars_append, Nat.ofDigitChars_cons, Digits.value]
  have hlength : ((List.replicate k '0' ++ ds.chars).length : ℤ) = k + ds.chars.length := by
    simp
  rw [hvalue, hlength] at hpoint
  exact hpoint

/-- Zeros between the digits and the point, and one behind it. -/
lemma denotes_trailing (ds : Digits) (k : ℕ) :
    Denotes negative (signText negative ++ (ds.chars ++ List.replicate k '0' ++ ['.', '0']))
      (ds.value * 10 ^ k) := by
  have hdigits : ∀ c ∈ (ds.chars ++ List.replicate k '0') ++ ['0'], c.isDigit = true := by
    simp only [List.mem_append, List.mem_singleton, List.mem_replicate]
    rintro c ((hc | ⟨-, rfl⟩) | rfl)
    · exact ds.isDigit_of_mem c hc
    · rfl
    · rfl
  have hpoint := @denotes_point negative (ds.chars ++ List.replicate k '0') ['0']
    (by simp [ds.chars_ne_nil]) (by simp) hdigits
  have hvalue : (Nat.ofDigitChars 10 (ds.chars ++ List.replicate k '0' ++ ['0']) 0 : ℚ) *
      10 ^ (-(['0'] : List Char).length : ℤ) = ds.value * 10 ^ k := by
    simp [Nat.ofDigitChars_append, Nat.ofDigitChars_cons, Digits.value]
    ring
  rw [hvalue] at hpoint
  exact hpoint

/-- The point among the digits. -/
lemma denotes_among (ds : Digits) {n : ℕ} (hn : 0 < n) (hlt : n < ds.chars.length) :
    Denotes negative (signText negative ++ (ds.chars.take n ++ '.' :: ds.chars.drop n))
      (ds.value * 10 ^ (n - ds.chars.length : ℤ)) := by
  have htake : ds.chars.take n ≠ [] := by
    rw [Ne, List.take_eq_nil_iff, not_or]
    exact ⟨hn.ne', ds.chars_ne_nil⟩
  have hdrop : ds.chars.drop n ≠ [] := by
    rw [Ne, List.drop_eq_nil_iff, not_le]
    exact hlt
  have hpoint := @denotes_point negative _ _ htake hdrop
    (by rw [List.take_append_drop]; exact ds.isDigit_of_mem)
  have hpower : (-(ds.chars.drop n).length : ℤ) = n - ds.chars.length := by
    rw [List.length_drop]
    omega
  rw [List.take_append_drop, hpower] at hpoint
  exact hpoint

lemma denotes_positional (whole : ℤ) :
    Denotes negative (signText negative ++ positional ds.chars whole)
      (ds.value * 10 ^ (whole - ds.chars.length)) := by
  unfold positional
  split
  · next hwhole =>
    have hleading := @denotes_leading negative ds (-whole).toNat
    have hpower : (-((-whole).toNat + ds.chars.length) : ℤ) = whole - ds.chars.length := by
      omega
    rw [hpower] at hleading
    exact hleading
  · next hwhole =>
    have hnat : (whole.toNat : ℤ) = whole := Int.toNat_of_nonneg (by omega)
    rcases Nat.lt_or_ge whole.toNat ds.chars.length with hlt | hle
    · have hamong := @denotes_among negative ds whole.toNat (by omega) hlt
      have hzeros : whole.toNat - ds.chars.length = 0 := by omega
      rw [hnat] at hamong
      simpa [hzeros, List.drop_eq_nil_iff, not_le.mpr hlt] using hamong
    · have htrailing := @denotes_trailing negative ds (whole.toNat - ds.chars.length)
      have hpower : whole - ds.chars.length = ((whole.toNat - ds.chars.length : ℕ) : ℤ) := by
        omega
      rw [hpower, zpow_natCast]
      simpa [List.drop_eq_nil_of_le hle, List.take_of_length_le hle] using htrailing

/-- Digits with an exponent stand for all of them, moved by it and by those behind the point. -/
lemma denotes_exponent (whole : Digits) (fraction : Option Digits) (e : ℤ) :
    Denotes negative
      (signText negative ++ (whole.chars ++ (Numeral.fractionText fraction ++ exponentText e)))
      (Nat.ofDigitChars 10 (whole.chars ++ fraction.elim [] Digits.chars) 0 *
        10 ^ (e - (fraction.elim [] Digits.chars).length)) := by
  have hshift : (if decide (e < 0) = true then -((Digits.ofNat e.natAbs).value : ℤ)
      else (Digits.ofNat e.natAbs).value) = e := by
    rw [Digits.value_ofNat]
    split
    · next hneg =>
      have hlt := of_decide_eq_true hneg
      omega
    · next hpos =>
      have hge : ¬e < 0 := fun hlt => hpos (decide_eq_true hlt)
      omega
  refine ⟨⟨negative, whole, fraction, some (decide (e < 0), .ofNat e.natAbs)⟩, ?_, rfl,
    .inr rfl, ?_⟩
  · simp [Numeral.text, exponentText, Numeral.exponentText, signText, Digits.ofNat]
  · rw [Decimal.toRat, Numeral.decimal, Numeral.shift, Option.elim_some, hshift]
    rfl

lemma denotes_scientific (e : ℤ) :
    Denotes negative (signText negative ++ scientific ds.chars e)
      (ds.value * 10 ^ (e + 1 - ds.chars.length)) := by
  obtain ⟨cs, hne, hdigits⟩ := ds
  match cs with
  | [] => exact absurd rfl hne
  | [c] =>
    have hexponent := @denotes_exponent negative ⟨[c], hne, hdigits⟩ none e
    simpa [scientific, Numeral.fractionText, Digits.value] using hexponent
  | c :: d :: rest =>
    have hexponent := @denotes_exponent negative
      ⟨[c], by simp, fun a ha => hdigits a (List.mem_append_left (d :: rest) ha)⟩
      (some ⟨d :: rest, by simp, fun a ha => hdigits a (List.mem_cons_of_mem c ha)⟩) e
    have hpower : e - (d :: rest).length = e + 1 - (c :: d :: rest).length := by
      simp only [List.length_cons]
      omega
    rw [Option.elim_some, hpower] at hexponent
    exact hexponent

/-- **Written decimals**: either layout writes a numeral for the decimal. -/
theorem denotes_write (N : Layout) (negative : Bool) (c : Decimal) :
    Denotes negative (signText negative ++ N.write c) c.toRat := by
  have hvalue := Digits.value_ofNat c.digits
  have hpower : c.power + (digitsOf c.digits).length - 1 + 1 -
      (Digits.ofNat c.digits).chars.length = c.power := by
    change c.power + (digitsOf c.digits).length - 1 + 1 - (digitsOf c.digits).length = c.power
    omega
  simp only [Layout.write]
  split
  · next hzero =>
    have hpoint := @denotes_point negative ['0'] ['0'] (by simp) (by simp) (by simp)
    simpa [Decimal.toRat, hzero, Nat.ofDigitChars_cons] using hpoint
  · split
    · have hpositional := @denotes_positional negative (.ofNat c.digits)
        (c.power + (digitsOf c.digits).length - 1 + 1)
      rw [hvalue, hpower] at hpositional
      exact hpositional
    · have hscientific := @denotes_scientific negative (.ofNat c.digits)
        (c.power + (digitsOf c.digits).length - 1)
      rw [hvalue, hpower] at hscientific
      exact hscientific

end ShaderLoom.Number
