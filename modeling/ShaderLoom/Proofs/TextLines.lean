import Mathlib.Tactic.Lemma
import Mathlib.Tactic.SplitIfs
import ShaderLoom.Text.Lines

/-!
What is kept of a text when it is cut into lines.

No line holds a newline. So lines that are written with a newline behind each of them are read
back by splitting at the newlines, and splitting knows of no carriage returns.

Cutting looks at one character more than the one it has, at a newline behind a carriage return.
So a text may be cut apart behind any newline, and a line end may be spelled with or without a
carriage return, unless another one stands before it.
-/

namespace ShaderLoom.Text

/-! ### Lines and newlines -/

lemma newline_not_mem_extend {c : Char} (hc : c ≠ '\n') {ls : List (List Char)}
    (h : ∀ l ∈ ls, '\n' ∉ l) : ∀ l ∈ extend c ls, '\n' ∉ l := by
  cases ls with
  | nil => simp [extend, hc.symm]
  | cons l ls => simpa [extend, hc.symm] using h

lemma newline_not_mem_linesOf (cs : List Char) : ∀ l ∈ linesOf cs, '\n' ∉ l := by
  induction cs with
  | nil => simp
  | cons c cs ih =>
    rw [linesOf] at ih ⊢
    rw [cut_cons, Cut.push]
    split_ifs with hn hr
    · simpa using ih
    · exact ih
    · exact newline_not_mem_extend hn ih

lemma newline_not_mem_lines (s : String) : ∀ l ∈ lines s, '\n' ∉ l.toList := by
  intro l hl
  obtain ⟨cs, hcs, rfl⟩ := List.mem_map.mp hl
  simpa using newline_not_mem_linesOf _ cs hcs

/-- Lines with a newline behind each of them. -/
def terminated (ls : List String) : String := String.join (ls.map (· ++ "\n"))

/-- What stands between the newlines of a text, before the first and behind the last. -/
def pieces (s : String) : List String := (s.toList.splitOn '\n').map String.ofList

lemma pieces_terminated {ls : List String} (h : ∀ l ∈ ls, '\n' ∉ l.toList) :
    pieces (terminated ls) = ls ++ [""] := by
  induction ls with
  | nil => rfl
  | cons l ls ih =>
    have hl : l.toList.splitOn '\n' = [l.toList] := by
      simpa using List.splitOn_intercalate '\n' (List.forall_mem_singleton.mpr (h l (by simp)))
        (List.cons_ne_nil l.toList [])
    have htext : (terminated (l :: ls)).toList = l.toList ++ '\n' :: (terminated ls).toList := by
      simp [terminated]
    have hsplit : (terminated (l :: ls)).toList.splitOn '\n' =
        l.toList.splitOn '\n' ++ (terminated ls).toList.splitOn '\n' := by
      rw [htext]
      exact List.splitOnP_append_cons _ _ (by simp)
    have hrest := ih fun t ht => h t (by simp [ht])
    rw [pieces] at hrest ⊢
    rw [hsplit, List.map_append, hrest, hl]
    simp

/-! ### Cutting a text apart -/

lemma extend_append {ls : List (List Char)} (h : ls ≠ []) (c : Char) (ms : List (List Char)) :
    extend c (ls ++ ms) = extend c ls ++ ms := by
  obtain ⟨l, ls, rfl⟩ := List.exists_cons_of_ne_nil h
  rfl

lemma linesOf_snoc_newline_ne_nil (cs : List Char) : linesOf (cs ++ ['\n']) ≠ [] := by
  induction cs with
  | nil => simp
  | cons c cs ih =>
    obtain ⟨l, ls, hl⟩ := List.exists_cons_of_ne_nil ih
    rw [linesOf] at hl ⊢
    rw [List.cons_append, cut_cons, Cut.push, hl]
    split_ifs <;> simp [extend]

lemma cut_append_newline (cs ds : List Char) :
    cut (cs ++ '\n' :: ds) =
      ⟨(cut (cs ++ ['\n'])).atNewline, linesOf (cs ++ ['\n']) ++ linesOf ds⟩ := by
  induction cs with
  | nil => rfl
  | cons c cs ih =>
    have hne := linesOf_snoc_newline_ne_nil cs
    rw [linesOf] at ih hne
    rw [List.cons_append, List.cons_append, linesOf, cut_cons, cut_cons, ih, Cut.push, Cut.push,
      extend_append hne]
    split_ifs <;> rfl

lemma lines_append {a : String} (h : a = "" ∨ ∃ t, a = t ++ "\n") (b : String) :
    lines (a ++ b) = lines a ++ lines b := by
  rcases h with rfl | ⟨t, rfl⟩
  · simp [lines]
  · have hcut : linesOf (t.toList ++ '\n' :: b.toList) =
        linesOf (t.toList ++ ['\n']) ++ linesOf b.toList :=
      congrArg Cut.lines (cut_append_newline t.toList b.toList)
    simp [lines, hcut]

/-! ### Spellings of a line end -/

/-- The second text is the first one with some of its line ends spelled with a carriage return.
A line end behind a carriage return has to stay as it is; `before` is the character in front of
both texts. -/
inductive Respelled : (before : Option Char) → List Char → List Char → Prop where
  | done {before : Option Char} : Respelled before [] []
  | keep {before : Option Char} {c : Char} {s t : List Char} (rest : Respelled (some c) s t) :
      Respelled before (c :: s) (c :: t)
  | lineEnd {before : Option Char} {s t : List Char} (free : before ≠ some '\r')
      (rest : Respelled (some '\n') s t) : Respelled before ('\n' :: s) ('\r' :: '\n' :: t)

lemma respelled_refl (before : Option Char) (s : List Char) : Respelled before s s := by
  induction s generalizing before with
  | nil => exact .done
  | cons c s ih => exact .keep (ih (some c))

/-- One line end, anywhere in a text. -/
lemma Respelled.append {before : Option Char} (s t : List Char)
    (free : (before.toList ++ s).getLast? ≠ some '\r') :
    Respelled before (s ++ '\n' :: t) (s ++ '\r' :: '\n' :: t) := by
  induction s generalizing before with
  | nil => exact .lineEnd (fun h => free (by simp [h])) (respelled_refl _ t)
  | cons c s ih => exact .keep (ih (by simpa [List.getLast?_append] using free))

lemma respelled_newline (s t : List Char) (free : s.getLast? ≠ some '\r') :
    Respelled none (s ++ '\n' :: t) (s ++ '\r' :: '\n' :: t) := .append s t (by simpa using free)

/-- The lines are the same; behind a carriage return both texts also begin with a newline, or
neither does. -/
lemma Respelled.cut_eq {before : Option Char} {s t : List Char} (h : Respelled before s t) :
    linesOf s = linesOf t ∧
      (before = some '\r' → (cut s).atNewline = (cut t).atNewline) := by
  induction h with
  | done => exact ⟨rfl, fun _ => rfl⟩
  | @keep before c s t rest ih =>
    obtain ⟨hlines, hnewline⟩ := ih
    rw [linesOf, linesOf] at hlines
    by_cases hn : c = '\n'
    · simp [linesOf, Cut.push, hn, hlines]
    · by_cases hr : c = '\r'
      · simp [linesOf, Cut.push, hr, hlines, hnewline (by rw [hr])]
      · simp [linesOf, Cut.push, hn, hr, hlines]
  | lineEnd free rest ih => exact ⟨by simp [ih.1], fun h => absurd h free⟩

lemma lines_respelled {s t : String} (h : Respelled none s.toList t.toList) :
    lines s = lines t := by
  rw [lines, lines, h.cut_eq.1]

end ShaderLoom.Text
