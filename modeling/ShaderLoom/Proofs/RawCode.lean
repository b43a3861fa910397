import ShaderLoom.Proofs.BodyLines
import ShaderLoom.Proofs.ChainFaults

/-!
Raw code in a chain counts by its lines alone.

A raw text takes no name, leaves no fault and says nothing, so the rest of a chain does not
notice how it is written; and the fragment shows its lines. So a text may be given in several
pieces, cut apart behind a newline, and each of its line ends may be spelled with a carriage
return.
-/

namespace ShaderLoom

namespace Step

lemma body_append (n : Nat) (xs ys : List Step) :
    body n (xs ++ ys) = body n xs ++ body (n + total xs) ys := by
  induction xs generalizing n with
  | nil => rfl
  | cons s xs ih => simp [body, total, ih, Nat.add_assoc]

lemma total_append (xs ys : List Step) : total (xs ++ ys) = total xs + total ys := by
  induction xs with
  | nil => simp [total]
  | cons s xs ih => simp [total, ih, Nat.add_assoc]

lemma body_codes (n : Nat) (texts : List String) : body n (texts.map code) = texts.map .raw := by
  induction texts with
  | nil => rfl
  | cons t texts ih => exact congrArg (Statement.raw t :: ·) ih

lemma total_codes (texts : List String) : total (texts.map code) = 0 := by
  induction texts with
  | nil => rfl
  | cons t texts ih => simpa [total, issues, spec?] using ih

end Step

namespace Recipe

/-- The recipe with the texts as raw code, one after the other, between other steps. -/
def around (before after : List Step) (color : Color) (texts : List String) : Recipe :=
  ⟨before ++ texts.map Step.code ++ after, color⟩

variable (before after : List Step) (color : Color)

lemma specs_around (texts : List String) :
    (around before after color texts).specs = (around before after color []).specs := by
  have hcodes : (texts.map Step.code).filterMap Step.spec? = [] := by
    simp [List.filterMap_map, Step.spec?]
  simp [around, specs, hcodes]

lemma fragment_around (texts : List String) :
    (around before after color texts).fragment =
      { headers := (before ++ after).filterMap Step.header?
        body := Step.body 0 before ++ texts.map .raw ++ Step.body (Step.total before) after ++
          color.helpers (Step.total (before ++ after))
        color := color.value (Step.total (before ++ after)) } := by
  have hcodes : (texts.map Step.code).filterMap Step.header? = [] := by
    simp [List.filterMap_map, Step.header?]
  simp [around, fragment_eq, hcodes, Step.body_append, Step.body_codes, Step.total_append,
    Step.total_codes]

/-- Texts with the same lines make no difference to anything that the chain gives or says. -/
theorem assemble_around (xs ys : List String)
    (h : xs.flatMap Text.lines = ys.flatMap Text.lines) :
    (around before after color xs).assemble = (around before after color ys).assemble := by
  have hspecs : (around before after color xs).specs = (around before after color ys).specs := by
    rw [specs_around, specs_around _ _ _ ys]
  have hrender : (around before after color xs).fragment.render =
      (around before after color ys).fragment.render := by
    rw [fragment_around, fragment_around]
    refine Fragment.render_congr rfl rfl ?_
    simp [Fragment.bodyLines, List.flatMap_map, Statement.text, h]
  have hvalue : (around before after color xs).assemble.value =
      (around before after color ys).assemble.value := by
    rw [assemble_value, assemble_value, fault?, fault?, hspecs, hrender]
  have hnotices : (around before after color xs).assemble.notices =
      (around before after color ys).assemble.notices := by
    rw [notices_assemble, notices_assemble, warnings, warnings, hspecs, hvalue]
  calc (around before after color xs).assemble
      = ⟨(around before after color xs).assemble.value,
          (around before after color xs).assemble.notices⟩ := rfl
    _ = (around before after color ys).assemble := by rw [hvalue, hnotices]

/-- **Raw code counts by its lines**: in any chain, a text that is cut apart behind a newline may
be given as two, and a text may stand for one that spells some of its line ends in another way.
The chain gives the same program, or the same fault, and says the same. -/
theorem raw_code_by_lines :
    (∀ a b : String, (a = "" ∨ ∃ t, a = t ++ "\n") →
      assemble ⟨before ++ .code (a ++ b) :: after, color⟩ =
        assemble ⟨before ++ .code a :: .code b :: after, color⟩) ∧
      ∀ s t : String, Text.Respelled none s.toList t.toList →
        assemble ⟨before ++ .code s :: after, color⟩ =
          assemble ⟨before ++ .code t :: after, color⟩ := by
  refine ⟨fun a b hab => ?_, fun s t hst => ?_⟩
  · have hlines : [a ++ b].flatMap Text.lines = [a, b].flatMap Text.lines := by
      simp [Text.lines_append hab]
    simpa [around] using assemble_around before after color [a ++ b] [a, b] hlines
  · have hlines : [s].flatMap Text.lines = [t].flatMap Text.lines := by
      simp [Text.lines_respelled hst]
    simpa [around] using assemble_around before after color [s] [t] hlines

/-- Raw code between statements with helpers of their own. -/
def flanked (codes : List Step) : Recipe where
  steps :=
    .declare .float ⟨"n", [.noise ⟨0x41200000⟩]⟩ :: codes ++ [.assign .add ⟨"n", [.noise ⟨0⟩]⟩]
  color := .expression ⟨"c", [.noise ⟨0x3f800000⟩]⟩

theorem raw_code_by_lines_flanked :
    (∃ t, "let k = 1.0;\n" = t ++ "\n") ∧
      (flanked [.code ("let k = 1.0;\n" ++ "\nk\r\r\n")]).assemble =
        (flanked [.code "let k = 1.0;\n", .code "\nk\r\r\n"]).assemble ∧
      Text.Respelled none "a\n\nb\r".toList "a\n\r\nb\r".toList ∧
      (flanked [.code "a\n\nb\r"]).assemble = (flanked [.code "a\n\r\nb\r"]).assemble := by
  have hcut : ∃ t, "let k = 1.0;\n" = t ++ "\n" := ⟨"let k = 1.0;", by decide⟩
  have hrespelled : Text.Respelled none "a\n\nb\r".toList "a\n\r\nb\r".toList :=
    Text.respelled_newline "a\n".toList "b\r".toList (by decide)
  obtain ⟨hapart, hspelled⟩ := raw_code_by_lines [.declare .float ⟨"n", [.noise ⟨0x41200000⟩]⟩]
    [.assign .add ⟨"n", [.noise ⟨0⟩]⟩] (.expression ⟨"c", [.noise ⟨0x3f800000⟩]⟩)
  exact ⟨hcut, hapart _ _ (.inr hcut), hrespelled, hspelled _ _ hrespelled⟩

end Recipe

end ShaderLoom
