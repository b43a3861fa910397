import ShaderLoom.Proofs.Assembly

/-!
The text of an assembled program, written down step by step.

The text is given here from the calls alone: what each declares, with which name, and which
value is the last. Nothing of it mentions an expression, a supply or a chain. A chain whose
expressions all have a value gives exactly this text, which depends on the headers and on the
other steps, not on how they are mixed.
-/

namespace ShaderLoom

open Number Expression

/-! ### The text -/

namespace ExprCall

/-- A number as it stands in the text. -/
def digits (x : Binary32) : String := (literal x).value

def axisText : Axis → String
  | .x => "x"
  | .y => "y"

/-- The value of the helper that a call declares. -/
def helperText? : ExprCall → Option String
  | .circle x y _ _ => some ("distance(uv, vec2<f32>(" ++ digits x ++ ", " ++ digits y ++ "))")
  | .noise scale =>
    some ("sin(dot(uv * " ++ digits scale ++ ", vec2<f32>(12.9898, 78.233))) * 43758.5453")
  | _ => none

/-- The value that a call sets, its own helper being called `helper`. -/
def text? (helper : String) : ExprCall → Option String
  | .typed _ => none
  | .expression text => some text
  | .circle _ _ radius true =>
    some ("1.0 - smoothstep(" ++ digits (radius - edge) ++ ", " ++ digits radius ++ ", " ++
      helper ++ ")")
  | .circle _ _ radius false => some ("1.0 - step(" ++ digits radius ++ ", " ++ helper ++ ")")
  | .wave axis frequency speed =>
    some ("sin(uv." ++ axisText axis ++ " * " ++ digits frequency ++ " + time * " ++ digits speed ++
      ")")
  | .noise _ => some ("fract(" ++ helper ++ ")")

/-- The value set last, the helpers being numbered from `n`. -/
def lastText (n : Nat) : List ExprCall → Option String
  | [] => none
  | c :: cs => (lastText (n + c.addsHelper.toNat) cs).or (c.text? ("_tmp" ++ n.repr))

end ExprCall

namespace ExprSpec

/-- The declarations of all helpers in the order of their calls, numbered from `n`. -/
def helperTexts (n : Nat) (s : ExprSpec) : List String :=
  ((s.calls.filterMap ExprCall.helperText?).zipIdx n).map fun (value, i) =>
    "let " ++ ("_tmp" ++ i.repr) ++ ": f32 = " ++ value ++ ";"

def valueText (n : Nat) (s : ExprSpec) : String := (ExprCall.lastText n s.calls).getD ""

end ExprSpec

namespace Step

def isHeader (s : Step) : Bool := s.header?.isSome

def helperCalls (s : Step) : Nat := s.spec?.elim 0 ExprSpec.helperCalls

def typeText : ValueType → String
  | .float => "f32"
  | .float2 => "vec2<f32>"
  | .float3 => "vec3<f32>"
  | .float4 => "vec4<f32>"

def operatorText : AssignOp → String
  | .set => "="
  | .add => "+="
  | .sub => "-="

/-- The statements of a step, as texts. -/
def texts (n : Nat) : Step → List String
  | .code text => [text]
  | .header _ => []
  | .declare type spec =>
    spec.helperTexts n ++ ["var " ++ spec.name ++ ": " ++ typeText type ++ " = " ++
      typeText type ++ "(" ++ spec.valueText n ++ ");"]
  | .assign op spec =>
    spec.helperTexts n ++ [spec.name ++ " " ++ operatorText op ++ " " ++ spec.valueText n ++ ";"]

def allTexts (n : Nat) : List Step → List String
  | [] => []
  | s :: steps => s.texts n ++ allTexts (n + s.helperCalls) steps

/-- How many helpers the steps declare. -/
def allHelperCalls : List Step → Nat
  | [] => 0
  | s :: steps => s.helperCalls + allHelperCalls steps

end Step

namespace Color

def helperTexts (n : Nat) (c : Color) : List String := c.spec?.elim [] (·.helperTexts n)

def valueText (n : Nat) : Color → String
  | .text s => s
  | .expression spec => spec.valueText n

end Color

namespace Recipe

def headerText (headers : List String) : String :=
  if headers = [] then "" else String.intercalate "\n" headers ++ "\n\n"

/-- A statement line by line, each line that is not empty behind four blanks. -/
def indented (statement : String) : String :=
  String.join ((Text.lines statement).map fun l => if l = "" then "\n" else "    " ++ l ++ "\n")

/-- The text of the program. -/
def text (r : Recipe) : String :=
  let n := Step.allHelperCalls r.steps
  headerText (r.steps.filterMap Step.header?) ++ Fragment.preamble ++ "\n" ++
    String.join ((Step.allTexts 0 r.steps ++ r.color.helperTexts n).map indented) ++
    "    return vec4<f32>(" ++ r.color.valueText n ++ ");\n\x7d\n"

end Recipe

/-! ### One expression -/

namespace ExprCall

lemma helper?_eq (c : ExprCall) :
    c.helper? = c.helperText?.map fun t => ⟨.float, Template.raw t⟩ := by
  cases c <;> rfl

lemma allHelpers_eq (cs : List ExprCall) :
    allHelpers cs = (cs.filterMap helperText?).map fun t => ⟨.float, Template.raw t⟩ := by
  rw [allHelpers, List.map_filterMap]
  exact List.filterMap_congr fun c _ => helper?_eq c

lemma resolve_raw (names : List String) (s : String) : (Template.raw s).resolve names = s := by
  simp [Template.resolve, Template.raw, Template.fill]

/-- A value, its hole filled, is the text with the name in it. -/
lemma resolve_value? (c : ExprCall) (names : List String) (i : Nat) :
    (c.value? i).map (·.resolve names) = c.text? (names.getD i "") := by
  cases c with
  | typed type => rfl
  | expression text => simp [value?, text?, resolve_raw]
  | circle x y radius smooth =>
    cases smooth <;> simp [value?, text?, Template.resolve, Template.fill, discText, digits,
      String.append_assoc]
  | wave axis frequency speed =>
    have haxis : axis.name = axisText axis := by cases axis <;> rfl
    simp [value?, text?, resolve_raw, waveText, digits, haxis]
  | noise scale => simp [value?, text?, Template.resolve, Template.fill, String.append_assoc]

/-- A call without a helper has no use for its name. -/
lemma text?_congr {c : ExprCall} (h : c.addsHelper = false) (a b : String) :
    c.text? a = c.text? b := by
  cases c <;> simp_all [addsHelper, text?]

/-- The value set last, its hole filled from the names of all helpers. -/
lemma resolve_lastValue (n k : Nat) (cs : List ExprCall) (i : Nat)
    (h : i + cs.countP addsHelper ≤ k) :
    (lastValue i cs).map (·.resolve (NameSupply.names ⟨n⟩ k)) = lastText (n + i) cs := by
  induction cs generalizing i with
  | nil => rfl
  | cons c cs ih =>
    rw [List.countP_cons] at h
    rw [lastValue, lastText, Option.map_or, resolve_value?, Nat.add_assoc]
    cases hc : c.addsHelper with
    | false =>
      rw [ih _ (by simp [hc] at h ⊢; exact h), text?_congr hc]
    | true =>
      have hi : i < k := by simp [hc] at h; omega
      rw [ih _ (by simp [hc] at h ⊢; omega), NameSupply.getD_names _ hi]
      rfl

end ExprCall

namespace ExprSpec

lemma map_text_helpers {s : ExprSpec} {n : Nat} {l : Lowered} (h : s.lowered? n = some l) :
    l.helpers.map Statement.text = s.helperTexts n := by
  obtain ⟨v, -, rfl⟩ := Option.map_eq_some_iff.mp h
  refine List.ext_getElem? fun i => ?_
  have hl : (s.build.value.lower v ⟨n⟩).helpers = s.build.value.helperStatements ⟨n⟩ := rfl
  rw [hl, List.getElem?_map, getElem?_helperStatements, build_value, ExprCall.allHelpers_eq,
    helperTexts, List.getElem?_map, List.getElem?_map, List.getElem?_zipIdx]
  cases (s.calls.filterMap ExprCall.helperText?)[i]? with
  | none => rfl
  | some t =>
    have hf : ": f32 = " = ": " ++ ValueType.float.name ++ " = " := by decide
    simp only [Option.map_some, Statement.text, ExprCall.resolve_raw, NameSupply.nameAt,
      NameSupply.stem, hf, String.append_assoc]

lemma valueText_eq {s : ExprSpec} {n : Nat} {l : Lowered} (h : s.lowered? n = some l) :
    s.valueText n = l.value := by
  obtain ⟨v, hv, rfl⟩ := Option.map_eq_some_iff.mp h
  have hlast : ExprCall.lastValue 0 s.calls = some v := by rw [← hv, build_value]
  have ht := ExprCall.resolve_lastValue n s.build.value.helpers.length s.calls 0
    (by rw [length_helpers, helperCalls]; omega)
  rw [hlast, Nat.add_zero] at ht
  rw [valueText, ← ht]
  rfl

lemma map_text_statements {s : ExprSpec} (h : s.Valued) (last : String → Statement) (n : Nat) :
    (s.statements last n).map Statement.text =
      s.helperTexts n ++ [(last (s.valueText n)).text] := by
  obtain ⟨l, hl⟩ := lowered?_of_valued h n
  rw [statements, hl, ← map_text_helpers hl, valueText_eq hl]
  simp [close]

end ExprSpec

/-! ### The steps -/

namespace Step

/-- The expression of the step, if it has one, has a value. -/
def Valued (s : Step) : Prop := ∀ spec ∈ s.spec?, spec.Valued

lemma map_text_statements {s : Step} (h : s.Valued) (n : Nat) :
    (s.statements n).map Statement.text = s.texts n := by
  cases s with
  | code text => rfl
  | header text => rfl
  | declare type spec =>
    have htype : type.name = typeText type := by cases type <;> rfl
    rw [texts, ← htype]
    exact spec.map_text_statements (h spec rfl) _ n
  | assign op spec =>
    have hop : op.symbol = operatorText op := by cases op <;> rfl
    rw [texts, ← hop]
    exact spec.map_text_statements (h spec rfl) _ n

lemma issues_of_valued {s : Step} (h : s.Valued) : s.issues = s.helperCalls := by
  unfold issues helperCalls
  cases hs : s.spec? with
  | none => rfl
  | some spec => exact ExprSpec.issues_of_valued (h spec hs)

/-- The body, statement by statement, is the text of the steps. -/
theorem map_text_body {steps : List Step} (h : ∀ s ∈ steps, s.Valued) (n : Nat) :
    (body n steps).map Statement.text = allTexts n steps := by
  induction steps generalizing n with
  | nil => rfl
  | cons s steps ih =>
    have hs : s.Valued := h s (by simp)
    rw [body, allTexts, List.map_append, map_text_statements hs, issues_of_valued hs,
      ih fun t ht => h t (by simp [ht])]

lemma total_eq {steps : List Step} (h : ∀ s ∈ steps, s.Valued) :
    total steps = allHelperCalls steps := by
  induction steps with
  | nil => rfl
  | cons s steps ih =>
    rw [total, allHelperCalls, issues_of_valued (h s (by simp)), ih fun t ht => h t (by simp [ht])]

end Step

/-! ### The whole -/

namespace Recipe

/-- Rendering writes the texts of the statements line by line. -/
lemma render_eq (f : Fragment) :
    f.render = headerText f.headers ++ Fragment.preamble ++ "\n" ++
      String.join ((f.body.map Statement.text).map indented) ++
      "    return vec4<f32>(" ++ f.color ++ ");\n\x7d\n" := by
  have hh : Fragment.headerText f.headers = headerText f.headers := by
    cases f.headers <;> rfl
  have hend : ");\n\x7d\n" = ");\n" ++ Fragment.closing ++ "\n" := by decide
  have hret : "    return vec4<f32>(" = Fragment.indent ++ "return vec4<f32>(" := by decide
  have hbody : f.body.map Fragment.statementText = (f.body.map Statement.text).map indented := by
    rw [List.map_map]; rfl
  rw [Fragment.render, hh, hbody, hend, hret]
  simp only [Fragment.returnText, String.append_assoc]

lemma step_valued {r : Recipe} (h : ∀ s ∈ r.specs, s.Valued) : ∀ s ∈ r.steps, s.Valued :=
  fun s hs spec hspec => h spec (List.mem_append_left _ (List.mem_filterMap.mpr ⟨s, hs, hspec⟩))

lemma fragment_text {r : Recipe} (h : ∀ s ∈ r.specs, s.Valued) : r.fragment.render = r.text := by
  have hs := step_valued h
  have hcolor (n : Nat) : (r.color.helpers n).map Statement.text = r.color.helperTexts n ∧
      r.color.value n = r.color.valueText n := by
    cases hc : r.color with
    | text t => exact ⟨rfl, rfl⟩
    | expression spec =>
      have hv : spec.Valued := h spec (by simp [specs, hc, Color.spec?])
      obtain ⟨l, hl⟩ := ExprSpec.lowered?_of_valued hv n
      rw [Color.helpers, Color.value, hl]
      exact ⟨ExprSpec.map_text_helpers hl, (ExprSpec.valueText_eq hl).symm⟩
  rw [render_eq, fragment_eq, List.map_append, Step.map_text_body hs, Step.total_eq hs,
    (hcolor _).1, (hcolor _).2]
  rfl

/-! ### Headers among the other steps -/

lemma filterMap_header? (steps : List Step) :
    steps.filterMap Step.header? = (steps.filter Step.isHeader).filterMap Step.header? := by
  rw [List.filterMap_filter]
  exact List.filterMap_congr fun s _ => by cases s <;> rfl

lemma filterMap_spec? (steps : List Step) :
    steps.filterMap Step.spec? = (steps.filter (!·.isHeader)).filterMap Step.spec? := by
  rw [List.filterMap_filter]
  exact List.filterMap_congr fun s _ => by cases s <;> rfl

lemma allHelperCalls_filter (steps : List Step) :
    Step.allHelperCalls steps = Step.allHelperCalls (steps.filter (!·.isHeader)) := by
  induction steps with
  | nil => rfl
  | cons s steps ih =>
    rw [Step.allHelperCalls, ih, List.filter_cons]
    cases s <;> simp [Step.allHelperCalls, Step.isHeader, Step.header?, Step.helperCalls,
      Step.spec?]

lemma allTexts_filter (steps : List Step) (n : Nat) :
    Step.allTexts n steps = Step.allTexts n (steps.filter (!·.isHeader)) := by
  induction steps generalizing n with
  | nil => rfl
  | cons s steps ih =>
    rw [Step.allTexts, ih, List.filter_cons]
    cases s <;> simp [Step.allTexts, Step.isHeader, Step.header?, Step.texts, Step.helperCalls,
      Step.spec?]

/-- **The text of a program**: a chain whose expressions all have a value gives the text of its
steps, and so does any chain with the same headers and the same other steps, each in the same
order, under the same colour. -/
theorem assemble_text (r : Recipe) (h : ∀ s ∈ r.specs, s.Valued) :
    r.assemble.value = .ok ⟨r.text⟩ ∧
      ∀ q : Recipe, q.steps.filter Step.isHeader = r.steps.filter Step.isHeader →
        q.steps.filter (!·.isHeader) = r.steps.filter (!·.isHeader) → q.color = r.color →
        q.assemble.value = .ok ⟨r.text⟩ := by
  have hok {q : Recipe} (hq : ∀ s ∈ q.specs, s.Valued) : q.assemble.value = .ok ⟨q.text⟩ := by
    rw [assemble_value, (fault?_eq_none_iff q).mpr hq, fragment_text hq]
  refine ⟨hok h, fun q hheaders hothers hcolor => ?_⟩
  have hspecs : q.specs = r.specs := by
    rw [specs, specs, filterMap_spec?, hothers, ← filterMap_spec?, hcolor]
  have htext : q.text = r.text := by
    rw [text, text, filterMap_header?, hheaders, ← filterMap_header?, allHelperCalls_filter,
      hothers, ← allHelperCalls_filter, allTexts_filter, hothers, ← allTexts_filter, hcolor]
  rw [hok (by rw [hspecs]; exact h), htext]

/-- Code of three lines, a header, an expression that carries another type, and the three
assignments. -/
def mixed : Recipe where
  steps :=
    [.code "let k = 2.0;\n\nlet m = k;", .header "const A: f32 = 1.0;",
     .declare .float2 ⟨"v", [.typed .float, .noise ⟨0x41200000⟩, .expression "uv"]⟩,
     .assign .set ⟨"v", [.noise ⟨0x40000000⟩]⟩,
     .assign .add ⟨"v", [.wave .y ⟨0x41200000⟩ ⟨0x3f800000⟩]⟩,
     .assign .sub ⟨"v", [.expression "uv"]⟩]
  color := .text "v, k, 1.0"

/-- The same steps with the header in front. -/
def headed : Recipe where
  steps := mixed.steps.filter Step.isHeader ++ mixed.steps.filter (!·.isHeader)
  color := mixed.color

def mixedText : String :=
  "const A: f32 = 1.0;\n\n" ++
  "@fragment\n" ++
  "fn pixel_main(vertex_out: VertexOut) -> @location(0) vec4<f32> \x7b\n" ++
  "    var uv = vertex_out.uv;\n" ++
  "    var time = uniforms.time;\n" ++
  "    var resolution = uniforms.resolution;\n" ++
  "    let k = 2.0;\n\n    let m = k;\n" ++
  "    let _tmp0: f32 = sin(dot(uv * 10.0, vec2<f32>(12.9898, 78.233))) * 43758.5453;\n" ++
  "    var v: vec2<f32> = vec2<f32>(uv);\n" ++
  "    let _tmp1: f32 = sin(dot(uv * 2.0, vec2<f32>(12.9898, 78.233))) * 43758.5453;\n" ++
  "    v = fract(_tmp1);\n" ++
  "    v += sin(uv.y * 10.0 + time * 1.0);\n" ++
  "    v -= uv;\n" ++
  "    return vec4<f32>(v, k, 1.0);\n\x7d\n"

theorem assemble_text_mixed :
    (∀ s ∈ mixed.specs, s.Valued) ∧ mixed.assemble.value = .ok ⟨mixedText⟩ ∧
      headed.assemble.value = .ok ⟨mixedText⟩ := by
  have h : ∀ s ∈ mixed.specs, s.Valued := by decide
  have htext : mixed.text = mixedText := by decide +kernel
  obtain ⟨hmixed, hsame⟩ := assemble_text mixed h
  rw [htext] at hmixed hsame
  exact ⟨h, hmixed, hsame headed (by decide) (by decide) rfl⟩

end Recipe

end ShaderLoom
