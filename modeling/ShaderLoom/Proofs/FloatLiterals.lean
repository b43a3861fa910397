import ShaderLoom.Proofs.ChainFaults
import ShaderLoom.Proofs.SourceText
import ShaderLoom.Proofs.WrittenNumber

/-!
Literals of numbers, and the texts that hold them.

The literal of a finite number is read back as that number, so no two numbers have one literal. A
number that is not finite becomes zero with one warning. Therefore a text that is generated from
numbers holds nothing but its own words, digits, signs, points and exponents.
-/

namespace ShaderLoom

namespace Number

/-! ### Reading back -/

/-- The number nearest to what a numeral stands for, with its sign. -/
def Numeral.toBinary32 (n : Numeral) : Binary32 :=
  .ofFraction n.negative (n.decimal.digits * power 10 n.decimal.power.toNat)
    (power 10 (-n.decimal.power).toNat)

/-- The number that a literal is read as. -/
def Binary32.ofText? (text : String) : Option Binary32 :=
  (Numeral.read? text.toList).map Numeral.toBinary32

lemma Numeral.toBinary32_eq {n : Numeral} {x : Binary32} {d : Dyadic} (hx : x.read = .finite d)
    (hnegative : n.negative = d.negative) (hnear : Format.single.Near d n.decimal.toRat) :
    n.toBinary32 = x := by
  rw [toRat_eq_div] at hnear
  rw [toBinary32, hnegative]
  exact Binary32.ofFraction_eq hx (power_pos (by decide) _) hnear

/-- The decimal that is written for a magnitude is near it. -/
lemma Format.denotes_literal (F : Format) (d : Dyadic) :
    ∃ q, Denotes d.negative (F.literal d) q ∧ F.Near d q := by
  refine ⟨_, denotes_write Layout.source d.negative _, ?_⟩
  split
  · next hzero =>
    have hnear := F.near_magnitude d
    simpa [Dyadic.magnitude, Decimal.toRat, hzero] using hnear
  · next hmantissa => exact F.shortest_near hmantissa

end Number

open Number

variable {x y : Binary32} {d e : Number.Dyadic}

lemma exists_numeral (h : x.read = .finite d) :
    ∃ n : Numeral, (literal x).value.toList = n.text ∧ n.Marked ∧ n.negative = d.negative ∧
      Format.single.Near d n.decimal.toRat := by
  obtain ⟨q, ⟨n, htext, hnegative, hmarked, rfl⟩, hnear⟩ := Format.single.denotes_literal d
  refine ⟨n, ?_, hmarked, hnegative, hnear⟩
  rw [← htext, literal, h, Journal.value_pure, String.toList_ofList]

/-- The literal of a finite number is read as this number, bit for bit. -/
lemma ofText?_literal (h : x.read = .finite d) : Binary32.ofText? (literal x).value = some x := by
  obtain ⟨n, htext, -, hnegative, hnear⟩ := exists_numeral h
  rw [Binary32.ofText?, htext, Numeral.read?_text, Option.map_some,
    n.toBinary32_eq h hnegative hnear]

lemma literal_injective (hx : x.read = .finite d) (hy : y.read = .finite e)
    (h : (literal x).value = (literal y).value) : x = y := by
  have hread := ofText?_literal hx
  rw [h, ofText?_literal hy] at hread
  exact (Option.some_inj.mp hread).symm

/-- A number that is not finite is written as zero, with one warning. -/
lemma literal_not_finite (h : ∀ d, x.read ≠ .finite d) :
    (literal x).value = "0.0" ∧ ∃ r : Record, r.severity = .warn ∧ x.warnings = [r] := by
  unfold literal Binary32.warnings
  cases hread : x.read with
  | finite d => exact absurd hread (h d)
  | nan => exact ⟨rfl, _, rfl, rfl⟩
  | infinite negative => exact ⟨rfl, _, rfl, rfl⟩

/-! ### Generated texts -/

/-- A text has no line end, and none of the words for what is not finite. -/
def Clean (s : String) : Prop :=
  '\n' ∉ s.toList ∧ ∀ word ∈ ["inf", "nan", "NaN"], ¬word.toList <:+: s.toList

/-- No such word could have begun in a text, nor could it be completed by what follows. -/
structure Calm (cs : List Char) : Prop where
  plain : ∀ c ∈ cs, c ≠ '\n' ∧ c ≠ 'N'
  chain : cs.IsChain fun a b => a = 'n' → b ≠ 'f' ∧ b ≠ 'a'
  last : cs.getLast? ≠ some 'n'

lemma calm_iff {cs : List Char} :
    Calm cs ↔ cs.all (fun c => c ≠ '\n' ∧ c ≠ 'N') = true ∧
      cs.IsChain (fun a b => a = 'n' → b ≠ 'f' ∧ b ≠ 'a') ∧ cs.getLast? ≠ some 'n' := by
  simp only [List.all_eq_true, decide_eq_true_eq]
  exact ⟨fun h => ⟨h.plain, h.chain, h.last⟩, fun h => ⟨h.1, h.2.1, h.2.2⟩⟩

instance (cs : List Char) : Decidable (Calm cs) := decidable_of_iff _ calm_iff.symm

namespace Calm

variable {xs ys : List Char}

lemma append (hx : Calm xs) (hy : Calm ys) : Calm (xs ++ ys) := by
  refine ⟨fun c hc => ?_, ?_, fun hc => ?_⟩
  · exact (List.mem_append.mp hc).elim (hx.plain c) (hy.plain c)
  · refine List.isChain_append.mpr ⟨hx.chain, hy.chain, fun a ha b _ hn => ?_⟩
    subst hn
    exact absurd ha hx.last
  · rw [List.getLast?_append] at hc
    rcases Option.or_eq_some_iff.mp hc with hlast | ⟨-, hlast⟩
    · exact hy.last hlast
    · exact hx.last hlast

lemma of_forall (h : ∀ c ∈ xs, c ≠ '\n' ∧ c ≠ 'N' ∧ c ≠ 'n') : Calm xs := by
  refine ⟨fun c hc => ⟨(h c hc).1, (h c hc).2.1⟩, ?_, fun hc => ?_⟩
  · exact List.Pairwise.isChain (List.pairwise_of_forall_mem_list fun a ha b _ hn =>
      absurd hn (h a ha).2.2)
  · exact (h 'n' (List.mem_of_getLast? hc)).2.2 rfl

lemma of_digits (h : ∀ c ∈ xs, c.isDigit = true) : Calm xs := by
  refine of_forall fun c hc => ?_
  have hdigit := h c hc
  refine ⟨?_, ?_, ?_⟩ <;> rintro rfl <;> cases hdigit

/-- The numerals are free of letters that such words begin with. -/
lemma numeral (n : Numeral) : Calm n.text := by
  have hsign (negative : Bool) : Calm (signText negative) := by
    cases negative <;> exact of_forall (by simp [signText])
  have hpoint : Calm ['.'] := by decide
  have hmark : Calm ['e'] := by decide
  have hdigits (ds : Digits) := of_digits ds.isDigit_of_mem
  have hfraction (f : Option Digits) : Calm (Numeral.fractionText f) := by
    cases f with
    | none => exact of_forall (by simp [Numeral.fractionText])
    | some ds => exact hpoint.append (hdigits ds)
  have hexponent (f : Option (Bool × Digits)) : Calm (Numeral.exponentText f) := by
    cases f with
    | none => exact of_forall (by simp [Numeral.exponentText])
    | some f => exact hmark.append ((hsign f.1).append (hdigits f.2))
  exact (hsign _).append ((hdigits _).append ((hfraction _).append (hexponent _)))

end Calm

/-- A calm text is clean. -/
lemma Calm.clean {s : String} (h : Calm s.toList) : Clean s := by
  refine ⟨fun hc => (h.plain _ hc).1 rfl, fun word hword hpart => ?_⟩
  have hchain := h.chain.infix hpart
  simp only [List.mem_cons, List.not_mem_nil, or_false] at hword
  rcases hword with rfl | rfl | rfl
  · exact absurd hchain (by decide)
  · exact absurd hchain (by decide)
  · exact (h.plain 'N' (hpart.subset (by decide))).2 rfl

lemma calm_literal (x : Binary32) : Calm (literal x).value.toList := by
  cases hread : x.read with
  | finite d =>
    obtain ⟨n, htext, -⟩ := exists_numeral hread
    rw [htext]
    exact .numeral n
  | _ =>
    rw [(literal_not_finite (by simp [hread])).1]
    decide

lemma calm_nameAt (n : Nat) : Calm (NameSupply.nameAt n).toList := by
  have hdigits : Calm (Nat.toDigits 10 n) := .of_digits (Digits.ofNat n).isDigit_of_mem
  have hstem : Calm NameSupply.stem.toList := by decide
  rw [NameSupply.nameAt, String.toList_append, Nat.repr_eq_ofList_toDigits, String.toList_ofList]
  exact hstem.append hdigits

/-- A hole is filled with a generated name, or with nothing. -/
lemma calm_getD_names (s : NameSupply) (k i : Nat) : Calm ((s.names k).getD i "").toList := by
  rw [List.getD_eq_getElem?_getD]
  cases hname : (s.names k)[i]? with
  | none =>
    have hempty : Calm "".toList := by decide
    exact hempty
  | some name =>
    obtain ⟨j, -, rfl⟩ := List.mem_map.mp (List.mem_of_getElem? hname)
    exact calm_nameAt _

namespace ExprCall

open Expression

/-- The calls whose texts are generated from numbers. -/
def generates : ExprCall → Bool
  | .circle .. => true
  | .wave .. => true
  | .noise _ => true
  | _ => false

variable {c : ExprCall}

lemma calm_helperText? {text : String} (h : c.helperText? = some text) : Calm text.toList := by
  cases c with
  | circle x y radius smooth =>
    cases h
    simp only [digits, String.toList_append]
    exact .append (.append (.append (.append (by decide) (calm_literal x)) (by decide))
      (calm_literal y)) (by decide)
  | noise scale =>
    cases h
    simp only [digits, String.toList_append]
    exact .append (.append (by decide) (calm_literal scale)) (by decide)
  | _ => cases h

lemma exists_calm_text? (hc : c.generates = true) {helper : String}
    (hhelper : Calm helper.toList) : ∃ text, c.text? helper = some text ∧ Calm text.toList := by
  cases c with
  | circle x y radius smooth =>
    cases smooth with
    | true =>
      refine ⟨_, rfl, ?_⟩
      simp only [digits, String.toList_append]
      exact .append (.append (.append (.append (.append (.append (by decide) (calm_literal _))
        (by decide)) (calm_literal radius)) (by decide)) hhelper) (by decide)
    | false =>
      refine ⟨_, rfl, ?_⟩
      simp only [digits, String.toList_append]
      exact .append (.append (.append (.append (by decide) (calm_literal radius)) (by decide))
        hhelper) (by decide)
  | wave axis frequency speed =>
    have haxis : Calm axis.name.toList := by cases axis <;> decide
    refine ⟨_, rfl, ?_⟩
    simp only [digits, String.toList_append]
    exact .append (.append (.append (.append (.append (.append (by decide) haxis) (by decide))
      (calm_literal frequency)) (by decide)) (calm_literal speed)) (by decide)
  | noise scale =>
    refine ⟨_, rfl, ?_⟩
    simp only [String.toList_append]
    exact .append (.append (by decide) hhelper) (by decide)
  | _ => cases hc

end ExprCall

namespace Expression

open ExprCall

/-- The helpers of an expression that was made by calls are declared by clean statements. -/
lemma clean_helperStatement {name : String} {calls : List ExprCall} {s : NameSupply}
    {statement : Statement}
    (h : statement ∈ (ofCalls name calls).value.helperStatements s) : Clean statement.text := by
  obtain ⟨i, hi⟩ := List.mem_iff_getElem?.mp h
  rw [getElem?_helperStatements, ofCalls_value, allHelpers_eq] at hi
  obtain ⟨helper, hhelper, rfl⟩ := Option.map_eq_some_iff.mp hi
  obtain ⟨text, htext, rfl⟩ := List.mem_map.mp (List.mem_of_getElem? hhelper)
  obtain ⟨c, -, hc⟩ := List.mem_filterMap.mp htext
  refine Calm.clean ?_
  simp only [Statement.text, resolve_raw, String.toList_append]
  exact .append (.append (.append (.append (.append (.append (by decide) (calm_nameAt _))
    (by decide)) (by decide)) (by decide)) (calm_helperText? hc)) (by decide)

/-- A call that generates its text sets a value that is lowered to a clean text. -/
lemma exists_clean_value (e : Expression) {c : ExprCall} (hc : c.generates = true)
    (s : NameSupply) :
    ∃ v, (e.call c).value.value = some v ∧ Clean ((e.call c).value.lower v s).value := by
  obtain ⟨text, htext, hcalm⟩ := exists_calm_text? hc
    (calm_getD_names s (e.call c).value.helpers.length e.helpers.length)
  rw [← resolve_value?] at htext
  obtain ⟨v, hv, rfl⟩ := Option.map_eq_some_iff.mp htext
  refine ⟨v, ?_, hcalm.clean⟩
  rw [call_value, hv, Option.some_or]

end Expression

/-- **Literals**: the literal of a finite number is a numeral with a point or an exponent. No
number is nearer to what it stands for, and it is read as the very number, so different numbers
have different literals. A number that is not finite becomes zero, with one warning that is kept
unless only errors are. And no text generated from numbers has a line end or a word for what is
not finite: neither the helpers of an expression nor the value that such a call sets. -/
theorem literals_read_back :
    (∀ (x : Binary32) (d : Number.Dyadic), x.read = .finite d →
      Binary32.ofText? (literal x).value = some x ∧ (literal x).notices = [] ∧
        ∃ n : Numeral, (literal x).value.toList = n.text ∧ n.Marked ∧
          n.negative = d.negative ∧ Format.single.Nearest d n.decimal.toRat) ∧
    (∀ (x y : Binary32) (d e : Number.Dyadic), x.read = .finite d → y.read = .finite e →
      x ≠ y → (literal x).value ≠ (literal y).value) ∧
    (∀ x : Binary32, (∀ d, x.read ≠ .finite d) → (literal x).value = "0.0" ∧
      ∃ r : Record, r.severity = .warn ∧ (literal x).notices = [.log r] ∧
        ∀ (η : Type) (habit : Sink.Habit η) (l : Ledger η),
          l.hearAll habit (literal x).notices =
            { l with
              records := l.records ++ if l.ceiling = .error then [] else [r] }) ∧
    (∀ (name : String) (calls : List ExprCall) (s : NameSupply),
      ∀ statement ∈ (Expression.ofCalls name calls).value.helperStatements s,
        Clean statement.text) ∧
    ∀ (e : Expression) (c : ExprCall) (s : NameSupply), c.generates = true →
      ∃ v, (e.call c).value.value = some v ∧ Clean ((e.call c).value.lower v s).value := by
  refine ⟨fun x d hx => ?_, fun x y d e hx hy hne h => hne (literal_injective hx hy h),
    fun x hx => ?_, fun name calls s statement h => Expression.clean_helperStatement h,
    fun e c s hc => e.exists_clean_value hc s⟩
  · obtain ⟨n, htext, hmarked, hnegative, hnear⟩ := exists_numeral hx
    have hnotices : (literal x).notices = [] := by
      rw [Expression.notices_literal, Binary32.warnings, hx]
      rfl
    exact ⟨ofText?_literal hx, hnotices, n, htext, hmarked, hnegative,
      hnear.isNearest (Binary32.word_of_read hx).1⟩
  · obtain ⟨htext, r, hr, hwarnings⟩ := literal_not_finite hx
    have hnotices : (literal x).notices = Notice.logs [r] := by
      rw [Expression.notices_literal, hwarnings]
    refine ⟨htext, r, hr, hnotices, fun η habit l => ?_⟩
    rw [hnotices, Ledger.hearAll_warnings habit l (by simpa using hr)]

/-- The smallest number below zero, the two zeros, what is no number, and a circle made of such
numbers. -/
theorem literals_read_back_edges :
    (Binary32.read ⟨0x80000001⟩ = .finite ⟨true, 1, -149⟩ ∧
      (literal ⟨0x80000001⟩).value = "-1e-45" ∧
      Binary32.ofText? (literal ⟨0x80000001⟩).value = some ⟨0x80000001⟩) ∧
    ((literal ⟨0⟩).value = "0.0" ∧ (literal ⟨0⟩).value ≠ (literal ⟨0x80000000⟩).value) ∧
    ((∀ d, Binary32.read ⟨0x7fc00001⟩ ≠ .finite d) ∧ (literal ⟨0x7fc00001⟩).value = "0.0") ∧
    (ExprCall.circle ⟨0x7fc00001⟩ ⟨0xff800000⟩ ⟨0x7f7fffff⟩ false).generates = true ∧
      ∃ v, ((Expression.named "disc").call
          (.circle ⟨0x7fc00001⟩ ⟨0xff800000⟩ ⟨0x7f7fffff⟩ false)).value.value = some v ∧
        Clean (((Expression.named "disc").call
          (.circle ⟨0x7fc00001⟩ ⟨0xff800000⟩ ⟨0x7f7fffff⟩ false)).value.lower v .start).value := by
  have htiny : Binary32.read ⟨0x80000001⟩ = .finite ⟨true, 1, -149⟩ := by decide
  have hzero : Binary32.read ⟨0⟩ = .finite ⟨false, 0, -149⟩ := by decide
  have hminus : Binary32.read ⟨0x80000000⟩ = .finite ⟨true, 0, -149⟩ := by decide
  have hnan : ∀ d, Binary32.read ⟨0x7fc00001⟩ ≠ .finite d := by
    intro d hd
    have hread : Binary32.read ⟨0x7fc00001⟩ = .nan := by decide
    rw [hread] at hd
    cases hd
  refine ⟨⟨htiny, by decide +kernel, (literals_read_back.1 _ _ htiny).1⟩,
    ⟨by decide +kernel, literals_read_back.2.1 _ _ _ _ hzero hminus (by decide)⟩,
    ⟨hnan, (literals_read_back.2.2.1 _ hnan).1⟩, rfl,
    literals_read_back.2.2.2.2 _ _ _ rfl⟩

end ShaderLoom
