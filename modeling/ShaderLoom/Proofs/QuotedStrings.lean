import Mathlib.Data.List.Basic
import Mathlib.Order.Lattice
import Mathlib.Tactic.Lemma
import ShaderLoom.Toml.Quoted
import ShaderLoom.Toml.Strings

/-!
Every string is read back from its quoted form.

Forms with double quotes have escapes, and take any string. Forms without escapes are only chosen
for strings that they can hold. On several lines up to two quotes may stand together, so a body
is followed one run of quotes at a time: what is claimed of a reader holds with the quotes of the
current run still in front of it.
-/

namespace ShaderLoom.Toml

/-! ### Characters -/

lemma isControl_iff {c : Char} :
    isControl c = true ↔ (c.toNat < 32 ∧ c ≠ '\t' ∧ c ≠ '\n') ∨ c = '\x7f' := by
  have hlt : c < ' ' ↔ c.toNat < 32 := Iff.rfl
  simp [isControl, hlt, and_assoc]

lemma isText_iff {c : Char} :
    isText c = true ↔ c = '\t' ∨ (32 ≤ c.toNat ∧ c.toNat ≤ 126) ∨ 128 ≤ c.toNat := by
  have hlow : ' ' ≤ c ↔ 32 ≤ c.toNat := Iff.rfl
  have hhigh : c ≤ '~' ↔ c.toNat ≤ 126 := Iff.rfl
  have hwide : '\x80' ≤ c ↔ 128 ≤ c.toNat := Iff.rfl
  simp [isText, hlow, hhigh, hwide, or_assoc]

/-- What is neither a control character nor a line end is text. -/
lemma isText_of_not_isControl {c : Char} (hc : isControl c = false) (hline : c ≠ '\n') :
    isText c = true := by
  rw [Bool.eq_false_iff, ne_eq, isControl_iff, not_or] at hc
  have hdel : c.toNat ≠ 127 := fun h => hc.2 (Char.toNat_inj.mp h)
  rw [isText_iff]
  by_cases htab : c = '\t'
  · exact .inl htab
  · have hlow : ¬c.toNat < 32 := fun h => hc.1 ⟨h, htab, hline⟩
    exact .inr (by omega)

/-- The code of a control character is read back. -/
lemma scalar?_code {c : Char} (hc : isControl c = true) :
    scalar? ['0', '0', hexDigit (c.toNat / 16), hexDigit (c.toNat % 16)] = some c := by
  have hall : ∀ n < 128, scalar? ['0', '0', hexDigit (n / 16), hexDigit (n % 16)] =
      some (Char.ofNat n) := by decide +kernel
  have hsmall : c.toNat < 128 := by
    rcases isControl_iff.mp hc with ⟨h, -⟩ | rfl
    · omega
    · decide
  rw [hall _ hsmall, Char.ofNat_toNat]

/-! ### Escapes -/

/-- A reader that takes plain characters as they are and knows the two kinds of escapes. -/
structure Unescapes (f : List Char → Content) : Prop where
  plain : ∀ {c : Char} (r : List Char), isBasic c = true → f (c :: r) = push c (f r)
  letter : ∀ {e c : Char} (r : List Char), escape? e = some c → f ('\\' :: e :: r) = push c (f r)
  code : ∀ {a b c d x : Char} (r : List Char), scalar? [a, b, c, d] = some x →
    f ('\\' :: 'u' :: a :: b :: c :: d :: r) = push x (f r)

lemma unescapes_basic : Unescapes basic where
  plain {c} r hc := by
    have hquote : c ≠ '"' := by rintro rfl; cases hc
    have hslash : c ≠ '\\' := by rintro rfl; cases hc
    simp [basic, *]
  letter {e c} r he := by
    have hu : e ≠ 'u' := by rintro rfl; cases he
    have hU : e ≠ 'U' := by rintro rfl; cases he
    simp [basic, push?, *]
  code r hx := by simp [basic, push?, hx]

lemma unescapes_multiBasic : Unescapes (multiBasic .no) where
  plain {c} r hc := by
    have hquote : c ≠ '"' := by rintro rfl; cases hc
    have hslash : c ≠ '\\' := by rintro rfl; cases hc
    have hline : c ≠ '\n' := by rintro rfl; cases hc
    have hreturn : c ≠ '\r' := by rintro rfl; cases hc
    simp [multiBasic, *]
  letter {e c} r he := by
    have hu : e ≠ 'u' := by rintro rfl; cases he
    have hU : e ≠ 'U' := by rintro rfl; cases he
    have hline : e ≠ '\n' := by rintro rfl; cases he
    have hreturn : e ≠ '\r' := by rintro rfl; cases he
    have hblank : e ≠ ' ' := by rintro rfl; cases he
    have htab : e ≠ '\t' := by rintro rfl; cases he
    simp [multiBasic, push?, *]
  code r hx := by simp [multiBasic, push?, hx]

/-- A character is written with a backslash in front, or as it is. -/
lemma written_cases (c : Char) :
    (∃ e, escape? e = some c ∧ (escaped? c).getD [c] = ['\\', e]) ∨
    (isControl c = true ∧ (escaped? c).getD [c] = codeEscape c) ∨
    (isControl c = false ∧ c ≠ '\\' ∧ (escaped? c).getD [c] = [c]) := by
  unfold escaped?
  split_ifs with hb ht hf hr hslash hcontrol
  · exact .inl ⟨'b', by rw [hb]; rfl, rfl⟩
  · exact .inl ⟨'t', by rw [ht]; rfl, rfl⟩
  · exact .inl ⟨'f', by rw [hf]; rfl, rfl⟩
  · exact .inl ⟨'r', by rw [hr]; rfl, rfl⟩
  · exact .inl ⟨'\\', by rw [hslash]; rfl, rfl⟩
  · exact .inr (.inl ⟨hcontrol, rfl⟩)
  · exact .inr (.inr ⟨Bool.eq_false_iff.mpr hcontrol, hslash, rfl⟩)

/-- However a character is written, a reader with escapes reads it back. -/
lemma Unescapes.written {f : List Char → Content} (hf : Unescapes f) {c : Char}
    (hquote : c ≠ '"') (hline : c ≠ '\n') (r : List Char) :
    f ((escaped? c).getD [c] ++ r) = push c (f r) := by
  rcases written_cases c with ⟨e, he, h⟩ | ⟨hcontrol, h⟩ | ⟨hcontrol, hslash, h⟩ <;> rw [h]
  · exact hf.letter r he
  · exact hf.code r (scalar?_code hcontrol)
  · refine hf.plain r ?_
    simp [isBasic, isText_of_not_isControl hcontrol hline, hquote, hslash]

/-- What is written of a character does not begin with a quote, and with a line end only if it is
one. -/
lemma written_eq_cons {c : Char} (hquote : c ≠ '"') :
    ∃ d t, (escaped? c).getD [c] = d :: t ∧ d ≠ '"' ∧ d ≠ '\r' ∧ (d = '\n' → c = '\n') := by
  rcases written_cases c with ⟨e, -, h⟩ | ⟨-, h⟩ | ⟨hcontrol, -, h⟩
  · exact ⟨'\\', [e], h, by decide, by decide, nofun⟩
  · exact ⟨'\\', _, h, by decide, by decide, nofun⟩
  · refine ⟨c, [], h, hquote, ?_, id⟩
    rintro rfl
    cases hcontrol

/-! ### On one line -/

lemma basic_basicBody (s r : List Char) : basic (basicBody s ++ '"' :: r) = some (s, r) := by
  induction s with
  | nil => rfl
  | cons c s ih =>
    rw [basicBody, List.append_assoc]
    split_ifs with hquote hline
    · rw [hquote]
      exact (unescapes_basic.letter _ rfl).trans (congrArg (push '"') ih)
    · rw [hline]
      exact (unescapes_basic.letter _ rfl).trans (congrArg (push '\n') ih)
    · exact (unescapes_basic.written hquote hline _).trans (congrArg (push c) ih)

lemma literal_append {s : List Char} (hs : ∀ c ∈ s, isLiteral c = true) (r : List Char) :
    literal (s ++ '\'' :: r) = some (s, r) := by
  induction s with
  | nil => rfl
  | cons c s ih =>
    have hc := hs c (by simp)
    have hquote : c ≠ '\'' := by rintro rfl; cases hc
    rw [List.cons_append, literal, if_neg hquote, if_pos hc, ih fun d hd => hs d (by simp [hd])]
    rfl

/-! ### On several lines -/

/-- A reader that takes up to two quotes for quotes, also just before the closing ones. -/
structure TakesQuotes (q : Char) (f : List Char → Content) : Prop where
  inside : ∀ {run : Nat} {c : Char} {t s r : List Char}, run ≤ 2 → c ≠ q →
    f (c :: t) = some (s, r) →
      f (List.replicate run q ++ c :: t) = some (List.replicate run q ++ s, r)
  closing : ∀ {run : Nat} {r : List Char}, run ≤ 2 → r.head? ≠ some q →
    f (List.replicate run q ++ q :: q :: q :: r) = some (List.replicate run q, r)

lemma head?_ne_some {α : Type} {a : α} {r : List α} (h : r.head? ≠ some a) (t : List α) :
    r ≠ a :: t := by
  rintro rfl
  exact h rfl

lemma takesQuotes_multiBasic : TakesQuotes '"' (multiBasic .no) where
  inside {run c t s r} hrun hc h := by
    have hruns : run = 0 ∨ run = 1 ∨ run = 2 := by omega
    rcases hruns with rfl | rfl | rfl
    · exact h
    · simp [multiBasic, hc, h, push]
    · simp [List.replicate, multiBasic, hc, h, push]
  closing {run r} hrun hr := by
    have hruns : run = 0 ∨ run = 1 ∨ run = 2 := by omega
    have hr' := head?_ne_some hr
    rcases hruns with rfl | rfl | rfl
    · simp [multiBasic, hr']
    · simp [List.replicate, multiBasic, *]
    · simp [List.replicate, multiBasic]

lemma takesQuotes_multiLiteral : TakesQuotes '\'' multiLiteral where
  inside {run c t s r} hrun hc h := by
    have hruns : run = 0 ∨ run = 1 ∨ run = 2 := by omega
    rcases hruns with rfl | rfl | rfl
    · exact h
    · simp [multiLiteral, hc, h, push]
    · simp [List.replicate, multiLiteral, hc, h, push]
  closing {run r} hrun hr := by
    have hruns : run = 0 ∨ run = 1 ∨ run = 2 := by omega
    have hr' := head?_ne_some hr
    rcases hruns with rfl | rfl | rfl
    · simp [multiLiteral, hr']
    · simp [List.replicate, multiLiteral, *]
    · simp [List.replicate, multiLiteral]

/-- A line end is written as it is. -/
lemma read_written {c : Char} (hquote : c ≠ '"') (r : List Char) :
    multiBasic .no ((escaped? c).getD [c] ++ r) = push c (multiBasic .no r) := by
  by_cases hline : c = '\n'
  · subst hline
    have hwritten : (escaped? '\n').getD ['\n'] = ['\n'] := rfl
    rw [hwritten, List.singleton_append]
    simp [multiBasic]
  · exact unescapes_multiBasic.written hquote hline r

lemma read_plain {c : Char} (hc : isControl c = false) (hquote : c ≠ '\'') (r : List Char) :
    multiLiteral (c :: r) = push c (multiLiteral r) := by
  by_cases hline : c = '\n'
  · subst hline
    simp [multiLiteral]
  · have hreturn : c ≠ '\r' := by rintro rfl; cases hc
    have hliteral : isLiteral c = true := by
      simp [isLiteral, isText_of_not_isControl hc hline, hquote]
    simp [multiLiteral, *]

/-- The body is read with the quotes of the current run in front of it. -/
lemma multiBasic_multiBasicBody {r : List Char} (hr : r.head? ≠ some '"') {run : Nat}
    (hrun : run ≤ 2) (s : List Char) :
    multiBasic .no (List.replicate run '"' ++ (multiBasicBody run s ++ '"' :: '"' :: '"' :: r)) =
      some (List.replicate run '"' ++ s, r) := by
  induction s generalizing run with
  | nil =>
    rw [List.append_nil]
    exact takesQuotes_multiBasic.closing hrun hr
  | cons c s ih =>
    rw [multiBasicBody]
    split_ifs with hquote hthird
    · -- the third quote of a run is escaped, and a new run begins
      subst hquote
      refine takesQuotes_multiBasic.inside hrun (by decide) ?_
      exact (unescapes_multiBasic.letter _ rfl).trans (congrArg (push '"') (ih (Nat.zero_le 2)))
    · subst hquote
      have hnext := ih (show run + 1 ≤ 2 by omega)
      rw [List.replicate_succ', List.append_assoc, List.append_assoc] at hnext
      exact hnext
    · obtain ⟨d, t, hd, hne, -⟩ := written_eq_cons hquote
      have hread := (read_written hquote (multiBasicBody 0 s ++ '"' :: '"' :: '"' :: r)).trans
        (congrArg (push c) (ih (Nat.zero_le 2)))
      rw [hd] at hread
      rw [hd, List.append_assoc]
      exact takesQuotes_multiBasic.inside hrun hne hread

/-- A string without long runs of quotes and without control characters. -/
lemma multiLiteral_append {r : List Char} (hr : r.head? ≠ some '\'') {run : Nat} {s : List Char}
    (hs : ∀ c ∈ s, isControl c = false) (hrun : longestRun '\'' run s ≤ 2) :
    multiLiteral (List.replicate run '\'' ++ (s ++ '\'' :: '\'' :: '\'' :: r)) =
      some (List.replicate run '\'' ++ s, r) := by
  induction s generalizing run with
  | nil =>
    rw [List.append_nil]
    exact takesQuotes_multiLiteral.closing hrun hr
  | cons c s ih =>
    have hrest : ∀ d ∈ s, isControl d = false := fun d hd => hs d (by simp [hd])
    rw [longestRun] at hrun
    split_ifs at hrun with hquote
    · subst hquote
      have hnext := ih hrest hrun
      rw [List.replicate_succ', List.append_assoc, List.append_assoc] at hnext
      exact hnext
    · have htail := ih hrest ((Nat.le_max_right _ _).trans hrun)
      have hread := read_plain (hs c (by simp)) hquote (s ++ '\'' :: '\'' :: '\'' :: r)
      refine takesQuotes_multiLiteral.inside ((Nat.le_max_left _ _).trans hrun) hquote ?_
      exact hread.trans (congrArg (push c) htail)

/-! ### The choice of a form -/

lemma le_longestRun (q : Char) (run : Nat) (s : List Char) : run ≤ longestRun q run s := by
  induction s generalizing run with
  | nil => exact Nat.le_refl run
  | cons c s ih =>
    rw [longestRun]
    split
    · exact Nat.le_of_succ_le (ih (run + 1))
    · exact Nat.le_max_left _ _

/-- Without a run there is no quote. -/
lemma not_mem_of_longestRun {q : Char} {run : Nat} {s : List Char} (h : longestRun q run s = 0) :
    q ∉ s := by
  induction s generalizing run with
  | nil => simp
  | cons c s ih =>
    rw [longestRun] at h
    split_ifs at h with hc
    · have hrun := le_longestRun q (run + 1) s
      omega
    · rw [List.mem_cons, not_or]
      have hrest : longestRun q 0 s = 0 := by omega
      exact ⟨Ne.symm hc, ih hrest⟩

/-- What can be written in a form. -/
def Form.Holds : Form → List Char → Prop
  | .basic, _ => True
  | .literal, s => ∀ c ∈ s, isLiteral c = true
  | .multiBasic, _ => True
  | .multiLiteral, s => (∀ c ∈ s, isControl c = false) ∧ longestRun '\'' 0 s ≤ 2

/-- The form that is chosen can hold the string. -/
lemma chooseForm_holds (s : List Char) : (chooseForm s).Holds s := by
  unfold chooseForm
  dsimp only
  split_ifs with hbasic hliteral hmultiBasic hmultiLiteral
  · trivial
  · simp only [Bool.and_eq_true, Bool.not_eq_true', Bool.or_eq_false_iff, decide_eq_true_eq,
      List.any_eq_false] at hliteral
    obtain ⟨⟨hcontrol, hline⟩, hsingle⟩ := hliteral
    have hquote := not_mem_of_longestRun hsingle
    intro c hc
    have htext := isText_of_not_isControl (Bool.eq_false_iff.mpr (hcontrol c hc)) (hline c hc)
    have hne : c ≠ '\'' := fun h => hquote (h ▸ hc)
    simp [isLiteral, htext, hne]
  · trivial
  · simp only [Bool.and_eq_true, Bool.not_eq_true', decide_eq_true_eq,
      List.any_eq_false] at hmultiLiteral
    exact ⟨fun c hc => Bool.eq_false_iff.mpr (hmultiLiteral.1 c hc), hmultiLiteral.2⟩
  · trivial
  · trivial

/-! ### From the opening quotes -/

lemma anyString_double {t : List Char} (ht : ∀ u, t ≠ '"' :: '"' :: u) :
    anyString ('"' :: t) = basic t := by
  simp [anyString, lineString, ht]

lemma anyString_single {t : List Char} (ht : ∀ u, t ≠ '\'' :: '\'' :: u) :
    anyString ('\'' :: t) = literal t := by
  simp [anyString, lineString, ht]

/-- The line end that is written in front of a string with line ends is not part of it. -/
lemma trimFirst_lead {s t : List Char}
    (ht : ∀ d u, t = d :: u → d ≠ '\r' ∧ (d = '\n' → '\n' ∈ s)) :
    trimFirst ((if s.any (· = '\n') then ['\n'] else []) ++ t) = t := by
  by_cases hs : '\n' ∈ s
  · have hany : s.any (· = '\n') = true := by simpa using hs
    rw [if_pos hany]
    rfl
  · have hany : ¬s.any (· = '\n') = true := by simpa using hs
    rw [if_neg hany, List.nil_append]
    cases t with
    | nil => rfl
    | cons d u =>
      obtain ⟨hreturn, hline⟩ := ht d u rfl
      have hne : d ≠ '\n' := fun h => hs (hline h)
      simp [trimFirst, *]

/-- A body on one line and its closing quote do not look like the rest of three quotes. -/
lemma basicBody_ne {r : List Char} (hr : r.head? ≠ some '"') (s u : List Char) :
    basicBody s ++ '"' :: r ≠ '"' :: '"' :: u := by
  intro h
  cases s with
  | nil => exact head?_ne_some hr u (List.cons.inj h).2
  | cons c s =>
    rw [basicBody] at h
    split_ifs at h with hquote hline
    · cases h
    · cases h
    · obtain ⟨d, t, hd, hne, -⟩ := written_eq_cons hquote
      rw [hd] at h
      exact hne (List.cons.inj h).1

lemma multiBasicBody_head {s t u : List Char} {d : Char}
    (h : multiBasicBody 0 s ++ '"' :: t = d :: u) : d ≠ '\r' ∧ (d = '\n' → '\n' ∈ s) := by
  cases s with
  | nil =>
    obtain rfl := (List.cons.inj h).1
    exact ⟨by decide, nofun⟩
  | cons c s =>
    rw [multiBasicBody] at h
    split_ifs at h with hquote hthird
    · cases hthird
    · obtain rfl := (List.cons.inj h).1
      exact ⟨by decide, nofun⟩
    · obtain ⟨e, v, he, -, hreturn, hline⟩ := written_eq_cons hquote
      rw [he] at h
      obtain rfl := (List.cons.inj h).1
      exact ⟨hreturn, fun hd => by simp [hline hd]⟩

lemma literalBody_head {s t u : List Char} {d : Char} (hs : ∀ c ∈ s, isControl c = false)
    (h : s ++ '\'' :: t = d :: u) : d ≠ '\r' ∧ (d = '\n' → '\n' ∈ s) := by
  cases s with
  | nil =>
    obtain rfl := (List.cons.inj h).1
    exact ⟨by decide, nofun⟩
  | cons c s =>
    obtain rfl := (List.cons.inj h).1
    refine ⟨?_, fun hd => by simp [hd]⟩
    rintro rfl
    cases hs _ (List.mem_cons_self)

/-- What was written in a form that can hold it is read back, and the reader stops there. -/
lemma anyString_write {form : Form} {s : List Char} (hs : form.Holds s) {r : List Char}
    (hdouble : r.head? ≠ some '"') (hsingle : r.head? ≠ some '\'') :
    anyString (write form s ++ r) = some (s, r) := by
  cases form with
  | basic =>
    have hwrite : write .basic s ++ r = '"' :: (basicBody s ++ '"' :: r) := by simp [write]
    rw [hwrite, anyString_double (basicBody_ne hdouble s), basic_basicBody]
  | literal =>
    have hwrite : write .literal s ++ r = '\'' :: (s ++ '\'' :: r) := by simp [write]
    have hstart : ∀ u, s ++ '\'' :: r ≠ '\'' :: '\'' :: u := by
      intro u h
      cases s with
      | nil => exact head?_ne_some hsingle u (List.cons.inj h).2
      | cons c s =>
        have hc := hs c List.mem_cons_self
        rw [(List.cons.inj h).1] at hc
        cases hc
    rw [hwrite, anyString_single hstart, literal_append hs]
  | multiBasic =>
    have hwrite : write .multiBasic s ++ r =
        '"' :: '"' :: '"' :: ((if s.any (· = '\n') then ['\n'] else []) ++
          (multiBasicBody 0 s ++ '"' :: '"' :: '"' :: r)) := by simp [write]
    rw [hwrite, anyString, trimFirst_lead fun d u => multiBasicBody_head]
    exact multiBasic_multiBasicBody hdouble (Nat.zero_le 2) s
  | multiLiteral =>
    have hwrite : write .multiLiteral s ++ r =
        '\'' :: '\'' :: '\'' :: ((if s.any (· = '\n') then ['\n'] else []) ++
          (s ++ '\'' :: '\'' :: '\'' :: r)) := by simp [write]
    rw [hwrite, anyString, trimFirst_lead fun d u => literalBody_head hs.1]
    exact multiLiteral_append hsingle hs.1 hs.2

/-- **Quoted strings**: every string is read back from the form that is chosen for it. -/
theorem anyString_quote (s : List Char) {r : List Char} (hdouble : r.head? ≠ some '"')
    (hsingle : r.head? ≠ some '\'') : anyString (quote s ++ r) = some (s, r) :=
  anyString_write (chooseForm_holds s) hdouble hsingle

end ShaderLoom.Toml
