import Mathlib.Data.List.Nodup
import Mathlib.Data.Option.Basic
import Mathlib.Tactic.Lemma
import ShaderLoom.Proofs.QuotedStrings
import ShaderLoom.Toml.Document

/-!
A document of tables is read back.

What is written is data here: the values, the lines that hold them, and the tables that the lines
make up. Each kind of line is read as one change of the draft, so a text is read line by line, and
what remains is a fact about drafts: with keys that differ, header and entries build the table.
-/

namespace ShaderLoom.Toml

/-! ### Numbers -/

lemma joined_digits {cs : List Char} (hne : cs ≠ []) (hcs : ∀ c ∈ cs, isDigit c = true) :
    joined isDigit cs = some cs := by
  induction cs with
  | nil => exact absurd rfl hne
  | cons c cs ih =>
    have hc := hcs c List.mem_cons_self
    cases cs with
    | nil => simp [joined, hc]
    | cons d ds =>
      have hd := hcs d (by simp)
      have hjoint : d ≠ '_' := by rintro rfl; cases hd
      have hrest := ih (List.cons_ne_nil d ds) fun e he => hcs e (List.mem_cons_of_mem c he)
      simp [joined, hc, hjoint, hrest]

lemma isDigit_of_mem_digits {n : Nat} {c : Char} (hc : c ∈ Nat.toDigits 10 n) :
    isDigit c = true :=
  Nat.isDigit_of_mem_toDigits (by decide) (by decide) hc

lemma digits_ne {n : Nat} {cs : List Char} (hcs : cs.all isDigit = false) :
    Nat.toDigits 10 n ≠ cs := by
  rintro rfl
  have hall : (Nat.toDigits 10 n).all isDigit = true :=
    List.all_eq_true.mpr fun c => isDigit_of_mem_digits
  rw [hall] at hcs
  cases hcs

/-- Only zero is written with a zero in front. -/
lemma head_digits {n : Nat} (hn : n ≠ 0) : (Nat.toDigits 10 n).head? ≠ some '0' := by
  induction n using Nat.strongRecOn with
  | ind n ih =>
    rw [Nat.toDigits_eq_if (by decide)]
    split_ifs with hlt
    · have hall : ∀ m < 10, m ≠ 0 → [Nat.digitChar m].head? ≠ some '0' := by decide
      exact hall n hlt hn
    · have hhead := ih (n / 10) (by omega) (by omega)
      rw [List.head?_append_of_ne_nil _ Nat.toDigits_ne_nil]
      exact hhead

lemma plain_digits (n : Nat) : plain (Nat.toDigits 10 n) = some (Nat.toDigits 10 n) := by
  have hjoined := joined_digits (Nat.toDigits_ne_nil (n := n)) fun c => isDigit_of_mem_digits
  rw [plain, hjoined]
  by_cases hn : n = 0
  · rw [hn]
    rfl
  · have hhead := head_digits hn
    cases hdigits : Nat.toDigits 10 n with
    | nil => exact absurd hdigits Nat.toDigits_ne_nil
    | cons c cs =>
      have hc : c ≠ '0' := by
        rintro rfl
        exact hhead (by rw [hdigits]; rfl)
      simp [hc]

-- for any `f`: with the check of the bounds in its place, the kernel would unfold the bound
lemma plain_digits_bind {α : Type} (n : Nat) (f : List Char → Option α) :
    (plain (Nat.toDigits 10 n)).bind f = f (Nat.toDigits 10 n) := by
  rw [plain_digits]
  rfl

lemma signed_digits (n : Nat) : signed (Nat.toDigits 10 n) = (false, Nat.toDigits 10 n) := by
  unfold signed
  split
  · next heq => exact absurd heq (digits_ne rfl)
  · next heq => exact absurd heq (digits_ne rfl)
  · rfl

lemma bounded_natCast {n : Nat} (hn : n < Number.power 2 63) : bounded n = some (n : Int) := by
  have hlow : -(Number.power 2 63 : Int) ≤ n := by omega
  have hhigh : (n : Int) < Number.power 2 63 := by omega
  simp only [bounded]
  rw [if_pos ⟨hlow, hhigh⟩]

lemma integer?_digits {n : Nat} (hn : n < Number.power 2 63) :
    integer? (Nat.toDigits 10 n) = some (n : Int) := by
  have hvalue : decimalNumber (Nat.toDigits 10 n) = n := Nat.ofDigitChars_ten_toDigits
  unfold integer?
  split
  · next heq => exact absurd heq (digits_ne rfl)
  · next heq => exact absurd heq (digits_ne rfl)
  · next heq => exact absurd heq (digits_ne rfl)
  · rw [signed_digits]
    change (plain (Nat.toDigits 10 n)).bind (fun ds =>
      bounded (if false = true then -(decimalNumber ds : Int) else decimalNumber ds)) = _
    rw [plain_digits_bind, if_neg Bool.false_ne_true, hvalue, bounded_natCast hn]

lemma word?_digits {n : Nat} (hn : n < Number.power 2 63) :
    word? (Nat.toDigits 10 n) = some (.integer n) := by
  have htrue : Nat.toDigits 10 n ≠ ['t', 'r', 'u', 'e'] := digits_ne rfl
  have hfalse : Nat.toDigits 10 n ≠ ['f', 'a', 'l', 's', 'e'] := digits_ne rfl
  simp [word?, htrue, hfalse, integer?_digits hn]

/-! ### Values -/

/-- A word is read up to the line end. -/
lemma scalar_word {w : List Char} {v : Value} (hw : w.all isToken = true)
    (hv : word? w = some v) (r : List Char) :
    scalar (w ++ '\n' :: r) = some (v, '\n' :: r) := by
  have htake : (w ++ '\n' :: r).takeWhile isToken = w := by
    rw [List.takeWhile_append_of_pos (List.all_eq_true.mp hw),
      List.takeWhile_cons_of_neg (by decide), List.append_nil]
  have hdrop : (w ++ '\n' :: r).dropWhile isToken = '\n' :: r := by
    rw [List.dropWhile_append_of_pos (List.all_eq_true.mp hw),
      List.dropWhile_cons_of_neg (by decide)]
  simp [scalar, htake, hdrop, hv]

/-- A value that begins with none of the opening signs is a word. -/
lemma value_word {w : List Char} {v : Value} (hne : w ≠ []) (hw : w.all isToken = true)
    (hv : word? w = some v) (fuel room : Nat) (r : List Char) :
    value (fuel + 1) room (w ++ '\n' :: r) = some (v, '\n' :: r) := by
  have hread := scalar_word hw hv r
  cases w with
  | nil => exact absurd rfl hne
  | cons c w =>
    have hc := List.all_eq_true.mp hw c List.mem_cons_self
    have hdouble : c ≠ '"' := by rintro rfl; cases hc
    have hsingle : c ≠ '\'' := by rintro rfl; cases hc
    have hbracket : c ≠ '[' := by rintro rfl; cases hc
    have hbrace : c ≠ '\x7b' := by rintro rfl; cases hc
    rw [List.cons_append] at hread ⊢
    simp [value, *]

lemma quote_eq_cons (s : List Char) : ∃ q t, quote s = q :: t ∧ (q = '"' ∨ q = '\'') := by
  unfold quote
  cases chooseForm s with
  | basic => exact ⟨_, _, rfl, .inl rfl⟩
  | literal => exact ⟨_, _, rfl, .inr rfl⟩
  | multiBasic => exact ⟨_, _, rfl, .inl rfl⟩
  | multiLiteral => exact ⟨_, _, rfl, .inr rfl⟩

lemma value_quote (s : List Char) (fuel room : Nat) (r : List Char) :
    value (fuel + 1) room (quote s ++ '\n' :: r) =
      some (.string (String.ofList s), '\n' :: r) := by
  have hread := anyString_quote s (r := '\n' :: r) nofun nofun
  obtain ⟨q, t, hquote, hq⟩ := quote_eq_cons s
  rw [hquote, List.cons_append] at hread ⊢
  simp only [value, if_pos hq, hread]
  rfl

/-- What can stand behind a key. -/
inductive Item where
  | number (n : UInt32)
  | truth (b : Bool)
  | text (s : String)

def Item.written : Item → List Char
  | .number n => Nat.toDigits 10 n.toNat
  | .truth true => ['t', 'r', 'u', 'e']
  | .truth false => ['f', 'a', 'l', 's', 'e']
  | .text s => quote s.toList

def Item.value : Item → Value
  | .number n => .integer n.toNat
  | .truth b => .boolean b
  | .text s => .string s

lemma isToken_of_isDigit {c : Char} (hc : isDigit c = true) : isToken c = true := by
  simp [isToken, isBare, hc]

lemma isBlank_of_isToken {c : Char} (hc : isToken c = true) : isBlank c = false := by
  have hspace : c ≠ ' ' := by rintro rfl; cases hc
  have htab : c ≠ '\t' := by rintro rfl; cases hc
  simp [isBlank, hspace, htab]

lemma blanks_cons {c : Char} (hc : isBlank c = false) (r : List Char) :
    blanks (c :: r) = c :: r :=
  List.dropWhile_cons_of_neg (by simp [hc])

/-- No value begins with a blank. -/
lemma Item.blanks_written (i : Item) (r : List Char) :
    blanks (i.written ++ r) = i.written ++ r := by
  suffices h : ∃ c t, i.written = c :: t ∧ isBlank c = false by
    obtain ⟨c, t, hi, hc⟩ := h
    rw [hi, List.cons_append, blanks_cons hc]
  cases i with
  | number n =>
    have hne : Nat.toDigits 10 n.toNat ≠ [] := Nat.toDigits_ne_nil
    obtain ⟨c, t, hdigits⟩ := List.exists_cons_of_ne_nil hne
    have hc : isDigit c = true := isDigit_of_mem_digits (n := n.toNat) (by simp [hdigits])
    exact ⟨c, t, hdigits, isBlank_of_isToken (isToken_of_isDigit hc)⟩
  | truth b =>
    cases b with
    | true => exact ⟨_, _, rfl, rfl⟩
    | false => exact ⟨_, _, rfl, rfl⟩
  | text s =>
    obtain ⟨q, t, hquote, hq⟩ := quote_eq_cons s.toList
    refine ⟨q, t, hquote, ?_⟩
    rcases hq with rfl | rfl <;> rfl

/-- A value is read back, whatever is written behind the end of its line. -/
lemma value_written (i : Item) (fuel room : Nat) (r : List Char) :
    value (fuel + 1) room (i.written ++ '\n' :: r) = some (i.value, '\n' :: r) := by
  cases i with
  | number n =>
    have hn : n.toNat < Number.power 2 63 := n.toNat_lt.trans (by decide)
    have htoken : (Nat.toDigits 10 n.toNat).all isToken = true :=
      List.all_eq_true.mpr fun c hc => isToken_of_isDigit (isDigit_of_mem_digits hc)
    exact value_word Nat.toDigits_ne_nil htoken (word?_digits hn) fuel room r
  | truth b =>
    cases b with
    | true => exact value_word (by decide) rfl rfl fuel room r
    | false => exact value_word (by decide) rfl rfl fuel room r
  | text s =>
    rw [Item.written, value_quote, String.ofList_toList]
    rfl

/-! ### Keys -/

/-- A name that needs no quotes as a key. -/
structure BareKey where
  name : String
  chars_ne_nil : name.toList ≠ [] := by decide
  bare : name.toList.all isBare = true := by decide

lemma BareKey.exists_cons (k : BareKey) : ∃ c t, k.name.toList = c :: t ∧ isBare c = true := by
  have hbare := List.all_eq_true.mp k.bare
  cases hk : k.name.toList with
  | nil => exact absurd hk k.chars_ne_nil
  | cons c t =>
    rw [hk] at hbare
    exact ⟨c, t, rfl, hbare c List.mem_cons_self⟩

lemma isBlank_of_isBare {c : Char} (hc : isBare c = true) : isBlank c = false :=
  isBlank_of_isToken (by simp [isToken, hc])

lemma keyPart_bare (k : BareKey) {r : List Char} (hr : ∀ c ∈ r.head?, isBare c = false) :
    keyPart (k.name.toList ++ r) = some (k.name, r) := by
  have htake : (k.name.toList ++ r).takeWhile isBare = k.name.toList := by
    rw [List.takeWhile_append_of_pos (List.all_eq_true.mp k.bare)]
    cases r with
    | nil => simp
    | cons d u => simp [hr d rfl]
  have hdrop : (k.name.toList ++ r).dropWhile isBare = r := by
    rw [List.dropWhile_append_of_pos (List.all_eq_true.mp k.bare)]
    cases r with
    | nil => rfl
    | cons d u => simp [hr d rfl]
  obtain ⟨c, t, hk, hc⟩ := k.exists_cons
  have hdouble : c ≠ '"' := by rintro rfl; cases hc
  have hsingle : c ≠ '\'' := by rintro rfl; cases hc
  rw [hk, List.cons_append] at htake hdrop ⊢
  have hname : String.ofList (c :: t) = k.name := by rw [← hk, String.ofList_toList]
  simp [keyPart, *]

/-- A bare key ends at a character that no key can hold, and blanks behind it are skipped. -/
lemma key_bare (k : BareKey) {r : List Char} (hr : ∀ c ∈ r.head?, isBare c = false)
    (hpoint : ∀ t, blanks r ≠ '.' :: t) :
    key (k.name.toList ++ r) = some ([k.name], blanks r) := by
  have hpart := keyPart_bare k hr
  obtain ⟨c, t, hk, hc⟩ := k.exists_cons
  rw [hk, List.cons_append] at hpart ⊢
  have hparts (fuel : Nat) : keyParts (fuel + 1) (c :: (t ++ r)) = some ([k.name], blanks r) := by
    simp [keyParts, blanks_cons (isBlank_of_isBare hc), hpart]
  rw [key, List.length_cons, hparts]
  rfl

/-! ### Lines -/

inductive Line where
  | blank
  | header (key : BareKey)
  | entry (key : BareKey) (item : Item)

def Line.written : Line → List Char
  | .blank => ['\n']
  | .header k => '[' :: (k.name.toList ++ [']', '\n'])
  | .entry k i => k.name.toList ++ ' ' :: '=' :: ' ' :: (i.written ++ ['\n'])

/-- What a line does to the draft. -/
def Line.apply (d : Draft) : Line → Option Draft
  | .blank => some d
  | .header k => d.openWith openTable [k.name]
  | .entry k i => d.assign [k.name] i.value

lemma lineEnd_newline (r : List Char) : lineEnd ('\n' :: r) = some r := by
  simp [lineEnd, blanks, isBlank]

lemma header_written (k : BareKey) (d : Draft) (r : List Char) :
    header d (k.name.toList ++ ']' :: '\n' :: r) =
      (d.openWith openTable [k.name]).map (·, r) := by
  have hkey := key_bare k (r := ']' :: '\n' :: r) (by simp [isBare, isLetter, isDigit]) nofun
  obtain ⟨c, t, hk, hc⟩ := k.exists_cons
  have hbracket : c ≠ '[' := by rintro rfl; cases hc
  rw [hk, List.cons_append] at hkey ⊢
  have hblanks : blanks (']' :: '\n' :: r) = ']' :: '\n' :: r := rfl
  cases hopen : d.openWith openTable [k.name] <;> simp [header, *, lineEnd_newline]

lemma assignment_written (k : BareKey) (i : Item) (fuel : Nat) (d : Draft) (r : List Char) :
    assignment (fuel + 1) d (k.name.toList ++ ' ' :: '=' :: ' ' :: (i.written ++ '\n' :: r)) =
      (d.assign [k.name] i.value).map (·, r) := by
  have hstart : blanks (' ' :: (i.written ++ '\n' :: r)) = i.written ++ '\n' :: r :=
    i.blanks_written ('\n' :: r)
  have hequals : blanks (' ' :: '=' :: ' ' :: (i.written ++ '\n' :: r)) =
    '=' :: ' ' :: (i.written ++ '\n' :: r) := rfl
  have hkey := key_bare k (r := ' ' :: '=' :: ' ' :: (i.written ++ '\n' :: r))
    (by simp [isBare, isLetter, isDigit]) nofun
  rw [hequals] at hkey
  have hvalue := value_written i fuel (limit - 1) r
  cases hassign : d.assign [k.name] i.value <;> simp [assignment, *, lineEnd_newline]

/-- A line is read as its change of the draft, and the rest of the text as what follows. -/
lemma fileLines_line {l : Line} {fuel : Nat} (hfuel : l.written.length ≤ fuel + 1) (d : Draft)
    (r : List Char) :
    fileLines (fuel + 1) d (l.written ++ r) = (l.apply d).bind fun e => fileLines fuel e r := by
  cases l with
  | blank =>
    have hblanks : blanks ('\n' :: r) = '\n' :: r := rfl
    simp [Line.written, Line.apply, fileLines, hblanks, lineEnd_newline]
  | header k =>
    have hwritten : (Line.header k).written ++ r = '[' :: (k.name.toList ++ ']' :: '\n' :: r) := by
      simp [Line.written]
    have hblanks : blanks ('[' :: (k.name.toList ++ ']' :: '\n' :: r)) =
      '[' :: (k.name.toList ++ ']' :: '\n' :: r) := rfl
    rw [hwritten, fileLines, hblanks]
    simp only [header_written]
    exact Option.bind_map ..
  | entry k i =>
    have hwritten : (Line.entry k i).written ++ r =
        k.name.toList ++ ' ' :: '=' :: ' ' :: (i.written ++ '\n' :: r) := by
      simp [Line.written]
    -- the value takes a unit of its own
    obtain ⟨fuel, rfl⟩ : ∃ m, fuel = m + 1 := by
      simp only [Line.written, List.length_append, List.length_cons] at hfuel
      exact ⟨fuel - 1, by omega⟩
    have hread := assignment_written k i fuel d r
    obtain ⟨c, t, hk, hc⟩ := k.exists_cons
    have hbracket : c ≠ '[' := by rintro rfl; cases hc
    have hhash : c ≠ '#' := by rintro rfl; cases hc
    have hline : c ≠ '\n' := by rintro rfl; cases hc
    have hreturn : c ≠ '\r' := by rintro rfl; cases hc
    rw [hk, List.cons_append] at hread hwritten
    rw [hwritten, fileLines, blanks_cons (isBlank_of_isBare hc)]
    simp only [hhash, hline, hreturn, hread, or_self, if_false]
    exact Option.bind_map ..

lemma Line.length_written_pos (l : Line) : 0 < l.written.length := by
  cases l <;> simp only [Line.written, List.length_append, List.length_cons] <;> omega

/-- The lines of a text are read one after another. -/
lemma fileLines_written (ls : List Line) {fuel : Nat}
    (hfuel : (ls.flatMap Line.written).length ≤ fuel) (d : Draft) :
    fileLines fuel d (ls.flatMap Line.written) = ls.foldlM Line.apply d := by
  induction ls generalizing fuel d with
  | nil => cases fuel <;> rfl
  | cons l ls ih =>
    rw [List.flatMap_cons, List.length_append] at hfuel
    have hpos := l.length_written_pos
    obtain ⟨fuel, rfl⟩ : ∃ m, fuel = m + 1 := ⟨fuel - 1, by omega⟩
    rw [List.flatMap_cons, fileLines_line (by omega), List.foldlM_cons]
    exact Option.bind_congr fun e _ => ih (by omega) e

/-! ### Tables -/

/-- A table with its name and its entries, no two of which have one key. -/
structure Group where
  name : BareKey
  entries : List (BareKey × Item)
  nodup : (entries.map (·.1.name)).Nodup

/-- A header, and a line for each entry. -/
def Group.lines (g : Group) : List Line :=
  .header g.name :: g.entries.map fun e => .entry e.1 e.2

/-- What the lines of a table are read as. -/
def Group.table (g : Group) : String × Value :=
  (g.name.name, .table .header (g.entries.map fun e => (e.1.name, e.2.value)))

lemma not_mem_of_nodup {α : Type} {a : α} {l r : List α} (h : (l ++ a :: r).Nodup) : a ∉ l :=
  fun ha => List.disjoint_of_nodup_append h ha List.mem_cons_self

lemma get?_eq_none {es : Entries} {key : String} (h : key ∉ es.map (·.1)) :
    es.get? key = none := by
  simp only [Entries.get?, List.lookup_eq_none_iff, bne_iff_ne]
  rintro e he rfl
  exact h (List.mem_map_of_mem he)

lemma get?_concat {es : Entries} {key : String} (h : key ∉ es.map (·.1)) (v : Value) :
    (es ++ [(key, v)]).get? key = some v := by
  have hnone : es.lookup key = none := get?_eq_none h
  simp [Entries.get?, List.lookup_append, hnone]

lemma set_concat {es : Entries} {key : String} (h : key ∉ es.map (·.1)) (v w : Value) :
    (es ++ [(key, v)]).set key w = es ++ [(key, w)] := by
  have hkeep : es.map (fun e => if e.1 = key then (key, w) else e) = es := by
    conv_rhs => rw [← List.map_id es]
    refine List.map_congr_left fun e he => if_neg ?_
    rintro rfl
    exact h (List.mem_map_of_mem he)
  simp [Entries.set, hkeep]

lemma openWith_fresh {root : Entries} {key : String} (h : key ∉ root.map (·.1))
    (current : List String) :
    Draft.openWith openTable ⟨root, current⟩ [key] =
      some ⟨root ++ [(key, .table .header [])], [key]⟩ := by
  simp [Draft.openWith, within, openTable, get?_eq_none h]

/-- An entry with a new key goes to the end of the last table. -/
lemma assign_fresh {root es : Entries} {name key : String} (hname : name ∉ root.map (·.1))
    (hkey : key ∉ es.map (·.1)) (v : Value) :
    Draft.assign ⟨root ++ [(name, .table .header es)], [name]⟩ [key] v =
      some ⟨root ++ [(name, .table .header (es ++ [(key, v)]))], [name]⟩ := by
  have hwithin (f : Origin → Entries → Option Entries) :
      within .header f [name] .header (root ++ [(name, .table .header es)]) =
        (f .header es).bind fun inner =>
          some (Entries.set (root ++ [(name, .table .header es)]) name (.table .header inner)) := by
    rw [within, get?_concat hname]
    rfl
  have hinsert : insertAt [key] v .header es = insertNew key v es := rfl
  rw [Draft.assign, hwithin, hinsert, insertNew, get?_eq_none hkey]
  simp [set_concat hname]

lemma foldlM_entries {root es : Entries} {name : String} (hname : name ∉ root.map (·.1))
    {rest : List (BareKey × Item)}
    (hnodup : (es.map (·.1) ++ rest.map (·.1.name)).Nodup) :
    (rest.map fun e => Line.entry e.1 e.2).foldlM Line.apply
        ⟨root ++ [(name, .table .header es)], [name]⟩ =
      some ⟨root ++ [(name, .table .header (es ++ rest.map fun e => (e.1.name, e.2.value)))],
        [name]⟩ := by
  induction rest generalizing es with
  | nil => simp
  | cons e rest ih =>
    have hkey : e.1.name ∉ es.map (·.1) := not_mem_of_nodup hnodup
    have hrest : ((es ++ [(e.1.name, e.2.value)]).map (·.1) ++ rest.map (·.1.name)).Nodup := by
      simpa using hnodup
    have hassign := assign_fresh hname hkey e.2.value
    rw [List.map_cons, List.foldlM_cons, Line.apply, hassign]
    have hnext := ih hrest
    rw [List.append_assoc] at hnext
    exact hnext

/-- The lines of a table add it to the document. -/
lemma foldlM_lines (g : Group) {root : Entries} (hname : g.name.name ∉ root.map (·.1))
    (current : List String) :
    g.lines.foldlM Line.apply ⟨root, current⟩ = some ⟨root ++ [g.table], [g.name.name]⟩ := by
  have hopen := openWith_fresh hname current
  have hnodup : (([] : Entries).map (·.1) ++ g.entries.map (·.1.name)).Nodup := g.nodup
  have hentries := foldlM_entries hname hnodup
  rw [Group.lines, List.foldlM_cons, Line.apply, hopen]
  exact hentries

/-- A blank line stands between two tables. -/
def layout : List Group → List Line
  | [] => []
  | g :: gs => g.lines ++ gs.flatMap fun g => .blank :: g.lines

lemma foldlM_spaced (gs : List Group) {root : Entries}
    (hnodup : (root.map (·.1) ++ gs.map (·.name.name)).Nodup) (current : List String) :
    ∃ last, (gs.flatMap fun g => .blank :: g.lines).foldlM Line.apply ⟨root, current⟩ =
      some ⟨root ++ gs.map Group.table, last⟩ := by
  induction gs generalizing root current with
  | nil => exact ⟨current, by simp⟩
  | cons g gs ih =>
    have hname : g.name.name ∉ root.map (·.1) := not_mem_of_nodup hnodup
    have hrest : ((root ++ [g.table]).map (·.1) ++ gs.map (·.name.name)).Nodup := by
      simpa [Group.table] using hnodup
    obtain ⟨last, hlast⟩ := ih hrest [g.name.name]
    refine ⟨last, ?_⟩
    have hlines : (Line.blank :: g.lines).foldlM Line.apply ⟨root, current⟩ =
        some ⟨root ++ [g.table], [g.name.name]⟩ := foldlM_lines g hname current
    rw [List.append_assoc] at hlast
    rw [List.flatMap_cons, List.foldlM_append, hlines]
    exact hlast

/-- **Written documents**: a document of tables is read back, every table with its entries. -/
theorem document_written (gs : List Group) (hnodup : (gs.map (·.name.name)).Nodup) :
    document ((layout gs).flatMap Line.written) = some (gs.map Group.table) := by
  cases gs with
  | nil => rfl
  | cons g gs =>
    -- a blank line in front of the first table changes nothing
    obtain ⟨last, hfold⟩ : ∃ last, (layout (g :: gs)).foldlM Line.apply .empty =
        some ⟨(g :: gs).map Group.table, last⟩ :=
      @foldlM_spaced (g :: gs) [] hnodup []
    have hread := fileLines_written (layout (g :: gs)) le_rfl .empty
    rw [hfold] at hread
    -- the text begins with the bracket of a header, so with no byte-order mark
    obtain ⟨t, ht⟩ : ∃ t, (layout (g :: gs)).flatMap Line.written = '[' :: t := ⟨_, rfl⟩
    rw [ht] at hread ⊢
    exact congrArg (Option.map Draft.root) hread

end ShaderLoom.Toml
