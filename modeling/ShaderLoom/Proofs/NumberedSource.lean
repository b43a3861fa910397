import Mathlib.Data.List.Basic
import ShaderLoom.Proofs.TextLines
import ShaderLoom.Shader.Validation

/-!
The source that a diagnostic shows, read back row by row.

A row is a number set in a column, a bar, and a line of the source. No line holds a newline, so
the rows are found by splitting at the newlines. No number holds a bar, so the first bar of a row
is the one behind its number, whatever the line itself holds.
-/

namespace ShaderLoom

namespace Text

/-! ### Cutting at a separator -/

/-- What stands before the first place where a separator stands, and what stands behind it. -/
def cutAtFirst? (separator : List Char) : List Char → Option (List Char × List Char)
  | [] => none
  | c :: cs =>
    if separator.isPrefixOf (c :: cs) then some ([], (c :: cs).drop separator.length)
    else (cutAtFirst? separator cs).map fun (before, behind) => (c :: before, behind)

/-- Between blanks, a bar is found where the first one stands. -/
lemma cutAtFirst?_bar {cs : List Char} (h : '|' ∉ cs) (ds : List Char) :
    cutAtFirst? [' ', '|', ' '] (cs ++ ' ' :: '|' :: ' ' :: ds) = some (cs, ds) := by
  induction cs with
  | nil => simp [cutAtFirst?]
  | cons c cs ih =>
    have hcs : '|' ∉ cs := fun hcs => h (List.mem_cons_of_mem c hcs)
    -- a blank in front of the bar would have to be followed by it
    have hearly : [' ', '|', ' '].isPrefixOf (c :: (cs ++ ' ' :: '|' :: ' ' :: ds)) = false := by
      cases cs with
      | nil => simp [List.isPrefixOf]
      | cons d cs =>
        have hd : '|' ≠ d := fun hd => hcs (hd ▸ List.mem_cons_self)
        simp [List.isPrefixOf, hd]
    rw [List.cons_append, cutAtFirst?, hearly, ih hcs]
    rfl

/-! ### Numbers in a column -/

/-- A number with blanks in front of it up to four places. -/
def column (n : Nat) : String :=
  String.ofList (List.replicate (4 - (toString n).length) ' ') ++ toString n

lemma padLeft_eq_column (n : Nat) : padLeft 4 (toString n) = column n := by
  rw [padLeft, column, List.leftpad, String.ofList_append, String.ofList_toList,
    String.length_toList]

/-- The number that a column shows. -/
def number? (cs : List Char) : Option Nat :=
  let ds := cs.dropWhile (· = ' ')
  if !ds.isEmpty && ds.all Char.isDigit then some (Nat.ofDigitChars 10 ds 0) else none

lemma toList_column (n : Nat) :
    (column n).toList =
      List.replicate (4 - (toString n).length) ' ' ++ Nat.toDigits 10 n := by
  simp [column, Nat.repr_eq_ofList_toDigits]

/-- A column holds blanks and digits only. -/
lemma not_mem_column {c : Char} (hblank : c ≠ ' ') (hdigit : c.isDigit = false) (n : Nat) :
    c ∉ (column n).toList := by
  rw [toList_column, List.mem_append, not_or]
  refine ⟨fun h => hblank (List.eq_of_mem_replicate h), fun h => ?_⟩
  rw [Nat.isDigit_of_mem_toDigits (by decide) (by decide) h] at hdigit
  cases hdigit

lemma number?_column (n : Nat) : number? (column n).toList = some n := by
  have hall : ∀ d ∈ Nat.toDigits 10 n, d.isDigit = true := fun d hd =>
    Nat.isDigit_of_mem_toDigits (by decide) (by decide) hd
  have hdigits : (column n).toList.dropWhile (· = ' ') = Nat.toDigits 10 n := by
    rw [toList_column, List.dropWhile_append_of_pos (by simp)]
    cases hn : Nat.toDigits 10 n with
    | nil => rfl
    | cons d ds =>
      have hblank : d ≠ ' ' := by
        rintro rfl
        cases hall ' ' (by rw [hn]; exact List.mem_cons_self)
      rw [List.dropWhile_cons_of_neg (by simpa using hblank)]
  have hread : (!(Nat.toDigits 10 n).isEmpty && (Nat.toDigits 10 n).all Char.isDigit) = true := by
    simp [List.all_eq_true.mpr hall]
  rw [number?, hdigits, if_pos hread, Nat.ofDigitChars_ten_toDigits]

end Text

namespace Validation

/-! ### Rows -/

/-- A row without its end. -/
def rowText (number : Nat) (line : String) : String := Text.column number ++ " | " ++ line

/-- The number and the line of a row. -/
def readRow? (row : String) : Option (Nat × String) := do
  let (column, line) ← Text.cutAtFirst? [' ', '|', ' '] row.toList
  let number ← Text.number? column
  some (number, String.ofList line)

lemma readRow?_rowText (number : Nat) (line : String) :
    readRow? (rowText number line) = some (number, line) := by
  have hrow : (rowText number line).toList =
      (Text.column number).toList ++ ' ' :: '|' :: ' ' :: line.toList := by
    simp [rowText]
  rw [readRow?, hrow, Text.cutAtFirst?_bar (Text.not_mem_column (by decide) (by decide) number)]
  simp [Text.number?_column]

/-- The rows of a source, without their ends. -/
def rowTexts (lines : List String) : List String :=
  (lines.zipIdx 1).map fun (line, number) => rowText number line

lemma rows_eq_terminated (lines : List String) : rows lines = Text.terminated (rowTexts lines) := by
  have hrow (number : Nat) (line : String) : row number line = rowText number line ++ "\n" := by
    rw [row, Text.padLeft_eq_column, rowText]
  rw [rows, Text.terminated, rowTexts, List.zipIdx_succ, List.map_map, List.map_map]
  exact congrArg String.join (List.map_congr_left fun l _ => hrow _ _)

lemma newline_not_mem_rowTexts {lines : List String} (h : ∀ l ∈ lines, '\n' ∉ l.toList) :
    ∀ r ∈ rowTexts lines, '\n' ∉ r.toList := by
  intro r hr
  obtain ⟨⟨line, number⟩, hmem, rfl⟩ := List.mem_map.mp hr
  have hline : '\n' ∉ line.toList := h line (List.fst_mem_of_mem_zipIdx hmem)
  have hcolumn : '\n' ∉ (Text.column number).toList :=
    Text.not_mem_column (by decide) (by decide) number
  simp [rowText, hline, hcolumn]

/-- **The numbered source**: whatever refuses a module and with whatever message, the diagnostic
shows the message without the blanks at its end and then every line of the source in a row of its
own behind its number. Splitting at the newlines and cutting each row at its first bar gives back
the numbers from one on and the lines. -/
theorem refused_source_numbered {check : Checker} {source message : String}
    (h : check source = .error message) :
    ∃ rs : List String,
      validateWith check source = .error (.compilation (.diagnostic
        (Text.trimEnd message ++ "\n\nWGSL généré:\n---\n" ++ Text.terminated rs ++ "---\n"))) ∧
      rs.length = (Text.lines source).length ∧
      (∀ i line, (Text.lines source)[i]? = some line →
        rs[i]? = some (Text.column (i + 1) ++ " | " ++ line)) ∧
      Text.pieces (Text.terminated rs) = rs ++ [""] ∧
      rs.map readRow? =
        ((Text.lines source).zipIdx 1).map fun (line, number) => some (number, line) := by
  refine ⟨rowTexts (Text.lines source), ?_, ?_, fun i line hline => ?_, ?_, ?_⟩
  · rw [validateWith, h, ← rows_eq_terminated]
    rfl
  · simp [rowTexts]
  · rw [rowTexts, List.getElem?_map, List.getElem?_zipIdx, hline, Nat.add_comm i 1]
    rfl
  · exact Text.pieces_terminated
      (newline_not_mem_rowTexts (Text.newline_not_mem_lines source))
  · rw [rowTexts, List.map_map]
    exact List.map_congr_left fun l _ => readRow?_rowText l.2 l.1

/-- Lines that hold a bar, the mark that closes the rows, a carriage return, and nothing. -/
def barred : String := "a | b\r\n---\n\n\rc | "

/-- A checker with the same complaint about every module. -/
def grumbling : Checker := fun _ => .error "bad \n"

theorem refused_source_numbered_barred :
    grumbling barred = .error "bad \n" ∧
      ∃ rs, validateWith grumbling barred = .error (.compilation (.diagnostic
          ("bad\n\nWGSL généré:\n---\n" ++ Text.terminated rs ++ "---\n"))) ∧
        rs[3]? = some "   4 | \rc | " ∧
        rs.map readRow? =
          [some (1, "a | b"), some (2, "---"), some (3, ""), some (4, "\rc | ")] := by
  have hrefused : grumbling barred = .error "bad \n" := rfl
  have hlines : Text.lines barred = ["a | b", "---", "", "\rc | "] := by decide
  have hmessage : Text.trimEnd "bad \n" = "bad" := by decide
  obtain ⟨rs, hshown, -, hrow, -, hread⟩ := refused_source_numbered hrefused
  rw [hmessage] at hshown
  rw [hlines] at hread hrow
  exact ⟨hrefused, rs, hshown, hrow 3 _ rfl, hread⟩

end Validation

end ShaderLoom
