import ShaderLoom.Proofs.Arguments

/-!
One reading of a command line, and readings side by side.

The words of a command line can be read in one way only: an option and the word behind it, the
flag, and what is ignored because it is none of these or an option with nothing behind it. So
two command lines that are joined are read one after the other, unless the first ends in an
option that would take a word of the second; and what is parsed from both is what the second
says, on top of what the first says.
-/

namespace ShaderLoom

namespace Argument

/-- The words that take the word behind them. -/
def takers : List String := ["--config", "--demo", "--fps"]

/-- The arguments are a reading of the words. Each word stands in one argument. A word that is
ignored is not the flag, and if it is an option, no word stands behind it. -/
structure Reads (args : List String) (as : List Argument) : Prop where
  words : as.flatMap Argument.words = args
  ignored : ∀ before word after, as = before ++ .ignored word :: after →
    word ≠ "--list" ∧ (word ∈ takers → after = [])

lemma taking?_eq_none_iff {word value : String} : taking? word value = none ↔ word ∉ takers := by
  simp [taking?_eq_none, takers]

/-! ### There is a reading, and only one -/

lemma reads_nil : Reads [] [] := ⟨rfl, by simp⟩

lemma Reads.cons {args : List String} {as : List Argument} (h : Reads args as) (a : Argument)
    (ha : ∀ word, a = .ignored word → word ≠ "--list" ∧ (word ∈ takers → as = [])) :
    Reads (a.words ++ args) (a :: as) := by
  refine ⟨by rw [List.flatMap_cons, h.words], fun before word after hsplit => ?_⟩
  cases before with
  | nil =>
    obtain ⟨rfl, rfl⟩ := List.cons.inj hsplit
    exact ha word rfl
  | cons b before => exact h.ignored before word after (List.cons.inj hsplit).2

lemma Reads.tail {args : List String} {a : Argument} {as : List Argument}
    (h : Reads args (a :: as)) : Reads (as.flatMap Argument.words) as :=
  ⟨rfl, fun before word after hsplit => h.ignored (a :: before) word after (by rw [hsplit]; rfl)⟩

lemma ofWord_eq_ignored {w word : String} (h : ofWord w = .ignored word) :
    word = w ∧ word ≠ "--list" := by
  unfold ofWord at h
  split at h
  · cases h
  · next hw =>
    obtain rfl := Argument.ignored.inj h
    exact ⟨rfl, hw⟩

theorem reads_read (args : List String) : Reads args (read args) := by
  fun_induction read args with
  | case1 => exact reads_nil
  | case2 word =>
    have h := reads_nil.cons (ofWord word) fun w hw => ⟨(ofWord_eq_ignored hw).2, fun _ => rfl⟩
    rwa [words_ofWord] at h
  | case3 word value rest argument htaking ih =>
    have h := ih.cons argument fun w hw => by
      rcases taking?_cases htaking with ⟨-, rfl⟩ | ⟨-, rfl⟩ | ⟨-, rfl⟩ <;> cases hw
    rwa [words_taking? htaking] at h
  | case4 word value rest htaking ih =>
    have h := ih.cons (ofWord word) fun w hw => by
      obtain ⟨rfl, hlist⟩ := ofWord_eq_ignored hw
      exact ⟨hlist, fun htaker => absurd htaker (taking?_eq_none_iff.mp htaking)⟩
    rwa [words_ofWord] at h

lemma read_cons_of_not_taker {word : String} (h : word ∉ takers) (rest : List String) :
    read (word :: rest) = ofWord word :: read rest := by
  cases rest with
  | nil => rfl
  | cons value rest => rw [read, taking?_eq_none_iff.mpr h]

/-- An argument is read off the front of its words. -/
lemma read_words_append (a : Argument) (rest : List String)
    (ha : ∀ word, a = .ignored word → word ≠ "--list" ∧ (word ∈ takers → rest = [])) :
    read (a.words ++ rest) = a :: read rest := by
  cases a with
  | config path => rfl
  | demo name => rfl
  | rate text => rfl
  | list =>
    have hlist : "--list" ∉ takers := by decide
    exact read_cons_of_not_taker hlist rest
  | ignored word =>
    obtain ⟨hlist, htaker⟩ := ha word rfl
    have hword : ofWord word = .ignored word := if_neg hlist
    by_cases hw : word ∈ takers
    · rw [htaker hw, ← hword, words_ofWord]
      rfl
    · rw [← hword, words_ofWord]
      exact read_cons_of_not_taker hw rest

lemma Reads.eq_read {args : List String} {as : List Argument} (h : Reads args as) :
    as = read args := by
  induction as generalizing args with
  | nil => rw [← h.words]; rfl
  | cons a as ih =>
    have hread := read_words_append a (as.flatMap Argument.words) fun word ha => by
      obtain ⟨hlist, htaker⟩ := h.ignored [] word as (by rw [ha]; rfl)
      exact ⟨hlist, fun hw => by rw [htaker hw]; rfl⟩
    rw [← h.words, List.flatMap_cons, hread, ← ih h.tail]

/-- No option is left without a word to take. -/
def Closed (as : List Argument) : Prop := ∀ word ∈ takers, as.getLast? ≠ some (.ignored word)

instance (as : List Argument) : Decidable (Closed as) :=
  inferInstanceAs (Decidable (∀ word ∈ takers, _))

/-- Command lines are read one after the other if the first takes no word of the second. -/
theorem Reads.append {args brgs : List String} {as bs : List Argument} (ha : Reads args as)
    (hb : Reads brgs bs) (hclosed : Closed as) : Reads (args ++ brgs) (as ++ bs) := by
  refine ⟨by rw [List.flatMap_append, ha.words, hb.words], fun before word after hsplit => ?_⟩
  rcases List.append_eq_append_iff.mp hsplit with ⟨front, hbefore, hbs⟩ | ⟨rest, has, hrest⟩
  · exact hb.ignored front word after hbs
  · cases rest with
    | nil => exact hb.ignored [] word after hrest.symm
    | cons r rest =>
      obtain ⟨rfl, rfl⟩ := List.cons.inj hrest
      obtain ⟨hlist, htaker⟩ := ha.ignored before word rest has
      refine ⟨hlist, fun hword => absurd ?_ (hclosed word hword)⟩
      rw [has, htaker hword, List.getLast?_append]
      rfl

theorem read_append {args : List String} (h : Closed (read args)) (brgs : List String) :
    read (args ++ brgs) = read args ++ read brgs :=
  ((reads_read args).append (reads_read brgs) h).eq_read.symm

lemma last?_append {α : Type} (f : Argument → Option α) (as bs : List Argument) :
    last? f (as ++ bs) = (last? f bs).or (last? f as) := by
  rw [last?, List.filterMap_append, List.getLast?_append]
  rfl

end Argument

namespace Options

open Argument

/-! ### Rates -/

/-- The text is a numeral of decimal digits, with or without a plus sign in front, for a number
that four bytes can hold. -/
def IsRate (text : String) (n : Nat) : Prop :=
  ∃ digits : List Char, (text.toList = digits ∨ text.toList = '+' :: digits) ∧ digits ≠ [] ∧
    (∀ c ∈ digits, '0' ≤ c ∧ c ≤ '9') ∧ Nat.ofDigitChars 10 digits 0 = n ∧ n ≤ 4294967295

/-- A text without the plus sign in front. -/
def unsigned (text : List Char) : List Char :=
  match text with
  | '+' :: r => r
  | r => r

lemma eq_or_cons_unsigned (text : List Char) :
    text = unsigned text ∨ text = '+' :: unsigned text := by
  unfold unsigned
  split
  · exact .inr rfl
  · exact .inl rfl

lemma unsigned_of_digits {digits : List Char} (h : ∀ c ∈ digits, '0' ≤ c ∧ c ≤ '9') :
    unsigned digits = digits := by
  unfold unsigned
  split
  · next r => exact absurd (h '+' (by simp)) (by decide)
  · rfl

lemma isRate_iff {text : String} {n : Nat} :
    IsRate text n ↔ unsigned text.toList ≠ [] ∧
      (∀ c ∈ unsigned text.toList, '0' ≤ c ∧ c ≤ '9') ∧
      Nat.ofDigitChars 10 (unsigned text.toList) 0 = n ∧ n ≤ 4294967295 := by
  constructor
  · rintro ⟨digits, htext, hne, hdigits, hvalue⟩
    have hunsigned : unsigned text.toList = digits := by
      rcases htext with htext | htext
      · rw [htext, unsigned_of_digits hdigits]
      · rw [htext]; rfl
    rw [hunsigned]
    exact ⟨hne, hdigits, hvalue⟩
  · rintro ⟨hne, hdigits, hvalue⟩
    exact ⟨_, eq_or_cons_unsigned _, hne, hdigits, hvalue⟩

lemma rate?_eq (text : String) :
    rate? text =
      if unsigned text.toList != [] && (unsigned text.toList).all isDigit &&
          Nat.ofDigitChars 10 (unsigned text.toList) 0 < Number.power 2 32 then
        some (UInt32.ofNat (Nat.ofDigitChars 10 (unsigned text.toList) 0))
      else none := rfl

theorem rate?_eq_some_iff {text : String} {fps : UInt32} :
    rate? text = some fps ↔ IsRate text fps.toNat := by
  have hpower : Number.power 2 32 = 4294967296 := by decide
  rw [isRate_iff, rate?_eq, hpower]
  generalize unsigned text.toList = digits
  generalize Nat.ofDigitChars 10 digits 0 = n
  have hall : digits.all isDigit = true ↔ ∀ c ∈ digits, '0' ≤ c ∧ c ≤ '9' := by
    simp [isDigit]
  split
  · next h =>
    simp only [Bool.and_eq_true, bne_iff_ne, decide_eq_true_eq, hall] at h
    obtain ⟨⟨hne, hdigits⟩, hn⟩ := h
    have hto : (UInt32.ofNat n).toNat = n := UInt32.toNat_ofNat_of_lt hn
    constructor
    · intro h
      rw [← Option.some.inj h, hto]
      exact ⟨hne, hdigits, rfl, by omega⟩
    · rintro ⟨-, -, hfps, -⟩
      rw [hfps, UInt32.ofNat_toNat]
  · next h =>
    refine ⟨nofun, fun ⟨hne, hdigits, hfps, hle⟩ => absurd ?_ h⟩
    simp only [Bool.and_eq_true, bne_iff_ne, decide_eq_true_eq, hall]
    exact ⟨⟨hne, hdigits⟩, by omega⟩

lemma rate?_eq_none_iff {text : String} : rate? text = none ↔ ∀ n, ¬ IsRate text n := by
  constructor
  · intro h n hn
    have hle : n ≤ 4294967295 := (isRate_iff.mp hn).2.2.2
    have hto : (UInt32.ofNat n).toNat = n := UInt32.toNat_ofNat_of_lt (Nat.lt_succ_of_le hle)
    have hsome : rate? text = some (UInt32.ofNat n) := rate?_eq_some_iff.mpr (by rwa [hto])
    rw [h] at hsome
    cases hsome
  · intro h
    cases hrate : rate? text with
    | none => rfl
    | some fps => exact absurd (rate?_eq_some_iff.mp hrate) (h _)

lemma badRate?_eq_none_iff {a : Argument} :
    a.badRate? = none ↔ ∀ text, a = .rate text → ∃ n, IsRate text n := by
  cases a <;> simp [badRate?, rate?_eq_none_iff]

lemma badRate?_eq_some_iff {a : Argument} {text : String} :
    a.badRate? = some text ↔ a = .rate text ∧ ∀ n, ¬ IsRate text n := by
  cases a with
  | rate word =>
    have hbad : (rate word).badRate? = if rate? word = none then some word else none := rfl
    rw [hbad]
    split
    · next h =>
      constructor
      · rintro ⟨⟩
        exact ⟨rfl, rate?_eq_none_iff.mp h⟩
      · rintro ⟨⟨⟩, -⟩
        rfl
    · next h =>
      rw [rate?_eq_none_iff] at h
      exact ⟨nofun, fun ⟨hword, htext⟩ => absurd (Argument.rate.inj hword ▸ htext) h⟩
  | _ => simp [badRate?]

lemma findSome?_badRate?_eq_none_iff {as : List Argument} :
    as.findSome? badRate? = none ↔ ∀ text, .rate text ∈ as → ∃ n, IsRate text n := by
  simp only [List.findSome?_eq_none_iff, badRate?_eq_none_iff]
  exact ⟨fun h text ht => h _ ht text rfl, fun h a ha text hat => h text (hat ▸ ha)⟩

def rateText? : Argument → Option String
  | .rate text => some text
  | _ => none

/-- If no rate is refused, the last rate is the number of the last text. -/
lemma last?_fps? {as : List Argument} (h : as.findSome? badRate? = none) :
    last? fps? as = (last? rateText? as).bind rate? := by
  induction as with
  | nil => rfl
  | cons a as ih =>
    obtain ⟨ha, has⟩ : a.badRate? = none ∧ as.findSome? badRate? = none := by
      simpa [List.findSome?_eq_none_iff] using h
    rw [last?_cons, last?_cons, ih has]
    cases htext : last? rateText? as with
    | none => cases a <;> rfl
    | some text =>
      -- the text is one of the arguments, so it is a rate and nothing before it counts
      obtain ⟨b, hb, hbtext⟩ := List.mem_filterMap.mp (List.mem_of_getLast? htext)
      have hrate : .rate text ∈ as := by
        cases b <;> simp [rateText?] at hbtext
        exact hbtext ▸ hb
      obtain ⟨n, hn⟩ := findSome?_badRate?_eq_none_iff.mp has text hrate
      obtain ⟨fps, hfps⟩ := Option.ne_none_iff_exists'.mp (mt rate?_eq_none_iff.mp fun h => h n hn)
      simp [hfps]

/-! ### What is parsed -/

/-- What is parsed says what the arguments say: the last value of each option and whether the
flag stands among them, with a warning for each word that is ignored; or the first rate that is
none, with the warnings up to there. -/
structure Parsed.Follows (p : Parsed) (as : List Argument) : Prop where
  accepts : p.refused = none ↔ ∀ text, .rate text ∈ as → ∃ n, IsRate text n
  options : p.refused = none →
    p.options.configPath = last? path? as ∧ p.options.demo = last? demo? as ∧
      (∀ fps, p.options.fps = some fps ↔
        ∃ text, last? rateText? as = some text ∧ IsRate text fps.toNat) ∧
      (p.options.list = true ↔ .list ∈ as)
  warnings : p.refused = none → p.warnings = as.filterMap warning?
  refused : ∀ text, p.refused = some text →
    ∃ before after, as = before ++ .rate text :: after ∧ (∀ n, ¬ IsRate text n) ∧
      (∀ text, .rate text ∈ before → ∃ n, IsRate text n) ∧ p.warnings = before.filterMap warning?

/-- The arguments before a rate that is refused, or all if none is. -/
lemma takeWhile_accepted {before : List Argument} (h : ∀ a ∈ before, a.badRate? = none)
    (after : List Argument) :
    (before ++ after).takeWhile (·.badRate?.isNone) =
      before ++ after.takeWhile (·.badRate?.isNone) :=
  List.takeWhile_append_of_pos fun a ha => by rw [h a ha]; rfl

lemma warnings_of_accepted {args : List String} (h : (read args).findSome? badRate? = none) :
    (parse args).warnings = (read args).filterMap warning? := by
  have hall := takeWhile_accepted (List.findSome?_eq_none_iff.mp h) []
  rw [List.append_nil] at hall
  rw [warnings_parse, hall]
  simp

theorem follows_parse (args : List String) : (parse args).Follows (read args) where
  accepts := by rw [refused_parse, findSome?_badRate?_eq_none_iff]
  options h := by
    rw [refused_parse] at h
    rw [options_parse h]
    refine ⟨rfl, rfl, fun fps => ?_, decide_eq_true_iff⟩
    rw [last?_fps? h, Option.bind_eq_some_iff]
    simp only [rate?_eq_some_iff]
  warnings h := warnings_of_accepted (by rwa [refused_parse] at h)
  refused text h := by
    rw [refused_parse] at h
    obtain ⟨before, a, after, has, hbad, hbefore⟩ := List.findSome?_eq_some_iff.mp h
    obtain ⟨rfl, htext⟩ := badRate?_eq_some_iff.mp hbad
    refine ⟨before, after, has, htext, fun text ht => ?_, ?_⟩
    · exact badRate?_eq_none_iff.mp (hbefore _ ht) text rfl
    · rw [warnings_parse, has, takeWhile_accepted hbefore,
        List.takeWhile_cons_of_neg (by rw [hbad]; nofun), List.append_nil]

/-- Options on top of others: what is not set shows through. -/
def overlay (o p : Options) : Options where
  configPath := p.configPath.or o.configPath
  demo := p.demo.or o.demo
  fps := p.fps.or o.fps
  list := o.list || p.list

/-- **Command lines side by side**: the words of a command line have one reading, and what is
parsed follows it. Behind a command line that is not refused, and does not end in an option
without a word to take, another one is parsed as by itself, on top of the first. -/
theorem arguments_joined (args : List String) :
    (∃! as, Reads args as) ∧ ∀ as, Reads args as →
      (parse args).Follows as ∧
        ((parse args).refused = none → Closed as → ∀ brgs,
          (parse (args ++ brgs)).refused = (parse brgs).refused ∧
            (parse (args ++ brgs)).warnings = (parse args).warnings ++ (parse brgs).warnings ∧
            ((parse brgs).refused = none →
              (parse (args ++ brgs)).options =
                (parse args).options.overlay (parse brgs).options)) := by
  refine ⟨⟨read args, reads_read args, fun other h => h.eq_read⟩, fun as has => ?_⟩
  obtain rfl := has.eq_read
  refine ⟨follows_parse args, fun haccepted hclosed brgs => ?_⟩
  have hread := read_append hclosed brgs
  rw [refused_parse] at haccepted
  have hrefused : (parse (args ++ brgs)).refused = (parse brgs).refused := by
    rw [refused_parse, refused_parse, hread, List.findSome?_append, haccepted, Option.none_or]
  refine ⟨hrefused, ?_, fun hb => ?_⟩
  · rw [warnings_of_accepted haccepted, warnings_parse, warnings_parse, hread,
      takeWhile_accepted (List.findSome?_eq_none_iff.mp haccepted), List.filterMap_append]
  · have hboth := hrefused.trans hb
    rw [refused_parse] at hboth hb
    rw [options_parse hboth, options_parse haccepted, options_parse hb, hread]
    simp [overlay, last?_append]

/-- An option as a value, a rate with a sign, and a word that is ignored. -/
def verbatim : List String := ["--demo", "--fps", "--fps", "+30", "x", "--list"]

def verbatimReading : List Argument := [.demo "--fps", .rate "+30", .ignored "x", .list]

/-- A command line that ends in an option. -/
def unfinished : List String := ["--demo", "tunnel-warp", "--config"]

theorem arguments_joined_verbatim :
    Reads verbatim verbatimReading ∧ (parse verbatim).refused = none ∧ Closed verbatimReading ∧
      (parse unfinished).refused = none ∧
      (parse (verbatim ++ unfinished)).options = ⟨none, some "tunnel-warp", some 30, true⟩ ∧
      (parse (verbatim ++ unfinished)).warnings =
        [⟨.warn, "Argument ignoré: x"⟩, ⟨.warn, "Argument ignoré: --config"⟩] := by
  have hread : read verbatim = verbatimReading := by decide
  have hreads : Reads verbatim verbatimReading := hread ▸ reads_read verbatim
  have haccepted : (parse verbatim).refused = none := by decide
  have hb : (parse unfinished).refused = none := by decide
  have hclosed : Closed verbatimReading := by decide
  obtain ⟨-, hwarnings, hoptions⟩ :=
    ((arguments_joined verbatim).2 _ hreads).2 haccepted hclosed unfinished
  exact ⟨hreads, haccepted, hclosed, hb, (hoptions hb).trans (by decide),
    hwarnings.trans (by decide)⟩

end Options

end ShaderLoom
