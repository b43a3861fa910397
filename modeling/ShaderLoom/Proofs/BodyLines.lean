import ShaderLoom.Proofs.TextLines
import ShaderLoom.Shader.Fragment

/-!
The body of a rendered fragment, read back line by line.

Between its opening and its ending a fragment shows the lines of its statements, each behind an
indent unless it is empty. An indented line is never empty, so the indent is taken away without
a doubt about what stood there; and no line holds a newline, so splitting at the newlines finds
the lines as they were written. A fragment is therefore known from its text up to the way its
lines are shared out among the statements.
-/

namespace ShaderLoom.Fragment

/-- What stands before the body. -/
def opening (headers : List String) : String :=
  (if headers = [] then "" else String.intercalate "\n" headers ++ "\n\n") ++ preamble ++ "\n"

/-- What stands behind the body. -/
def ending (color : String) : String := "    return vec4<f32>(" ++ color ++ ");\n\x7d\n"

lemma opening_eq (headers : List String) :
    opening headers = headerText headers ++ preamble ++ "\n" := by
  have hheaders : headerText headers =
      if headers = [] then "" else String.intercalate "\n" headers ++ "\n\n" := by
    cases headers <;> rfl
  rw [opening, hheaders]

lemma ending_eq (color : String) : ending color = returnText color ++ closing ++ "\n" := by
  have hreturn : "    return vec4<f32>(" = indent ++ "return vec4<f32>(" := by decide
  have hend : ");\n\x7d\n" = ");\n" ++ closing ++ "\n" := by decide
  unfold ending returnText
  rw [hreturn, hend]
  simp only [String.append_assoc]

/-- The lines of all statements, in order. -/
def bodyLines (f : Fragment) : List String := f.body.flatMap fun s => Text.lines s.text

/-- A line of the body as it is written, without its end. -/
def indented (l : String) : String := if l = "" then "" else indent ++ l

/-- A written line without its indent. -/
def outdented (l : String) : String := if l = "" then "" else String.ofList (l.toList.drop 4)

lemma bodyLine_eq (l : String) : bodyLine l = indented l ++ "\n" := by
  unfold bodyLine indented
  split <;> rfl

lemma outdented_indented (l : String) : outdented (indented l) = l := by
  unfold indented
  split
  · next h => rw [h]; rfl
  · next h =>
    have hne : indent ++ l ≠ "" := by simp [h]
    rw [outdented, if_neg hne, String.toList_append, List.drop_left' (by decide),
      String.ofList_toList]

lemma indented_cases (l : String) : indented l = "" ∨ ∃ t, indented l = "    " ++ t := by
  unfold indented
  split
  · exact .inl rfl
  · exact .inr ⟨l, rfl⟩

lemma newline_not_mem_indented {l : String} (h : '\n' ∉ l.toList) :
    '\n' ∉ (indented l).toList := by
  unfold indented
  split
  · simp
  · have hindent : '\n' ∉ indent.toList := by decide
    simp [h, hindent]

lemma newline_not_mem_bodyLines (f : Fragment) : ∀ l ∈ f.bodyLines, '\n' ∉ l.toList := by
  intro l hl
  obtain ⟨s, -, hl⟩ := List.mem_flatMap.mp hl
  exact Text.newline_not_mem_lines s.text l hl

lemma join_statementText (body : List Statement) :
    String.join (body.map statementText) =
      Text.terminated ((body.flatMap fun s => Text.lines s.text).map indented) := by
  have hline (s : Statement) :
      statementText s = Text.terminated ((Text.lines s.text).map indented) := by
    rw [statementText, Text.terminated, List.map_map]
    exact congrArg String.join (List.map_congr_left fun l _ => bodyLine_eq l)
  refine String.toList_inj.mp ?_
  simp [Text.terminated, hline, List.flatMap_map, List.map_flatMap, List.flatMap_assoc]

/-- A rendered fragment is its opening, the lines of its body and its ending. -/
theorem render_eq_lines (f : Fragment) :
    f.render = opening f.headers ++ Text.terminated (f.bodyLines.map indented) ++
      ending f.color := by
  rw [render, join_statementText, opening_eq, ending_eq]
  simp [bodyLines, String.append_assoc]

/-- The text does not tell which statement a line belongs to. -/
lemma render_congr {f g : Fragment} (hheaders : g.headers = f.headers) (hcolor : g.color = f.color)
    (h : f.bodyLines = g.bodyLines) : f.render = g.render := by
  rw [render_eq_lines, render_eq_lines, hheaders, hcolor, h]

lemma append_cancel {a b x y : String} (h : a ++ x ++ b = a ++ y ++ b) : x = y := by
  have hl := congrArg String.toList h
  simp only [String.toList_append, List.append_assoc] at hl
  exact String.toList_inj.mp (List.append_cancel_right (List.append_cancel_left hl))

lemma pieces_body (f : Fragment) :
    Text.pieces (Text.terminated (f.bodyLines.map indented)) =
      f.bodyLines.map indented ++ [""] := by
  refine Text.pieces_terminated fun l hl => ?_
  obtain ⟨m, hm, rfl⟩ := List.mem_map.mp hl
  exact newline_not_mem_indented (f.newline_not_mem_bodyLines m hm)

lemma bodyLines_eq_of_render_eq {f g : Fragment} (hheaders : g.headers = f.headers)
    (hcolor : g.color = f.color) (h : f.render = g.render) : f.bodyLines = g.bodyLines := by
  rw [render_eq_lines, render_eq_lines, hheaders, hcolor] at h
  have hpieces := congrArg Text.pieces (append_cancel h)
  rw [pieces_body, pieces_body] at hpieces
  have hinj (l m : String) (hlm : indented l = indented m) : l = m := by
    rw [← outdented_indented l, hlm, outdented_indented]
  exact (List.map_inj_right hinj).mp (List.append_cancel_right hpieces)

/-- **The body read back**: whatever stands between the opening and the ending of a rendered
fragment is split at its newlines into lines that are empty or indented, and without the indent
they are the lines of the statements. So fragments with the same headers and the same colour
have the same text exactly when their statements have the same lines. -/
theorem body_read_back (f : Fragment) :
    (∃ body, f.render = opening f.headers ++ body ++ ending f.color) ∧
      (∀ body, f.render = opening f.headers ++ body ++ ending f.color →
        ∃ ls, Text.pieces body = ls ++ [""] ∧ (∀ l ∈ ls, l = "" ∨ ∃ t, l = "    " ++ t) ∧
          ls.map outdented = f.bodyLines) ∧
      ∀ g : Fragment, g.headers = f.headers → g.color = f.color →
        (f.render = g.render ↔ f.bodyLines = g.bodyLines) := by
  refine ⟨⟨_, f.render_eq_lines⟩, fun body hbody => ?_, fun g hheaders hcolor =>
    ⟨bodyLines_eq_of_render_eq hheaders hcolor, render_congr hheaders hcolor⟩⟩
  obtain rfl := append_cancel (hbody.symm.trans f.render_eq_lines)
  refine ⟨f.bodyLines.map indented, f.pieces_body, fun l hl => ?_, ?_⟩
  · obtain ⟨m, -, rfl⟩ := List.mem_map.mp hl
    exact indented_cases m
  · simp [Function.comp_def, outdented_indented]

/-- Blank lines, a line that is indented already, and a carriage return at the end. -/
def uneven : Fragment := ⟨["const A: f32 = 1.0;"], [.raw "\n    let k = A;\n   \nk\r"], "k"⟩

/-- The same lines, shared out among other statements. -/
def regrouped : Fragment :=
  ⟨["const A: f32 = 1.0;"], [.raw "\r\n    let k = A;\n", .raw "", .raw "   ", .raw "k\r"], "k"⟩

theorem body_read_back_uneven :
    (∃ body ls, uneven.render = opening uneven.headers ++ body ++ ending uneven.color ∧
      Text.pieces body = ls ++ [""] ∧ ls.map outdented = ["", "    let k = A;", "   ", "k\r"]) ∧
      regrouped.headers = uneven.headers ∧ regrouped.color = uneven.color ∧
      uneven.render = regrouped.render := by
  have hlines : uneven.bodyLines = ["", "    let k = A;", "   ", "k\r"] := by decide
  obtain ⟨⟨body, hbody⟩, hread, hsame⟩ := body_read_back uneven
  obtain ⟨ls, hpieces, -, hls⟩ := hread body hbody
  exact ⟨⟨body, ls, hbody, hpieces, hls.trans hlines⟩, rfl, rfl,
    (hsame regrouped rfl rfl).mpr (hlines.trans (by decide))⟩

end ShaderLoom.Fragment
