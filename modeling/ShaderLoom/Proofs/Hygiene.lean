import Mathlib.Data.List.Forall2
import ShaderLoom.Proofs.Assembly

/-!
Generated names in an assembled program.

An expression numbers its helpers from zero, and only the chain knows their names. The names
that a chain gives out are those of the supply, in order and each once. So a hole that is filled
when an expression is lowered names a helper of the same expression, declared further up, and
no helper of any other expression has that name. An expression that is used several times has
helpers of its own at each use.
-/

namespace ShaderLoom

open Statement

/-- The text of a template whose holes stand for the helpers that `hs` declares: each hole gives
way to the name of its helper, and the rest is kept. -/
inductive Template.FilledFrom (hs : List Statement) : Template → String → Prop where
  | nil : FilledFrom hs [] ""
  | text (s : String) {t : Template} {rest : String} (ht : FilledFrom hs t rest) :
      FilledFrom hs (.text s :: t) (s ++ rest)
  | helper {i : Nat} {name : String} {type : ValueType} {value : String} {t : Template}
      {rest : String} (declared : hs[i]? = some (.helper name type value))
      (ht : FilledFrom hs t rest) : FilledFrom hs (.helper i :: t) (name ++ rest)

/-- The statements declare the helpers of the expression in order, each filled from those
before it. -/
structure Expression.DeclaredBy (e : Expression) (hs : List Statement) : Prop where
  length : hs.length = e.helpers.length
  helper : ∀ i (h : Helper), e.helpers[i]? = some h → ∃ name text,
    hs[i]? = some (.helper name h.type text) ∧ h.value.FilledFrom (hs.take i) text

/-- What a step may add to the body: nothing of any other expression is referred to. -/
inductive Step.Block : Step → List Statement → Prop where
  | code (text : String) : Block (.code text) [.raw text]
  | header (text : String) : Block (.header text) []
  | declare {type : ValueType} {spec : ExprSpec} {hs : List Statement} {v : Template}
      {text : String} (declared : spec.build.value.DeclaredBy hs)
      (value : spec.build.value.value = some v) (filled : v.FilledFrom hs text) :
      Block (.declare type spec) (hs ++ [.declare spec.name type text])
  | assign {op : AssignOp} {spec : ExprSpec} {hs : List Statement} {v : Template}
      {text : String} (declared : spec.build.value.DeclaredBy hs)
      (value : spec.build.value.value = some v) (filled : v.FilledFrom hs text) :
      Block (.assign op spec) (hs ++ [.assign spec.name op text])

/-- The helpers and the text that a colour may end with. -/
inductive Color.Block : Color → List Statement → String → Prop where
  | text (s : String) : Block (.text s) [] s
  | expression {spec : ExprSpec} {hs : List Statement} {v : Template} {text : String}
      (declared : spec.build.value.DeclaredBy hs) (value : spec.build.value.value = some v)
      (filled : v.FilledFrom hs text) : Block (.expression spec) hs text

/-! ### One expression -/

namespace Expression

lemma getElem?_helperStatements_of {e : Expression} {i : Nat} {h : Helper}
    (hi : e.helpers[i]? = some h) (s : NameSupply) :
    (e.helperStatements s)[i]? =
      some (.helper (NameSupply.nameAt (s.issued + i)) h.type (h.value.resolve (s.names i))) := by
  rw [getElem?_helperStatements, hi]
  rfl

/-- The names of the supply, in their order, are those of the helpers that are declared. -/
lemma filledFrom_take (e : Expression) (s : NameSupply) {k : Nat} (hk : k ≤ e.helpers.length)
    {t : Template} (h : t.Within k) :
    t.FilledFrom ((e.helperStatements s).take k) (t.resolve (s.names k)) := by
  induction t with
  | nil => exact .nil
  | cons p t ih =>
    have hrest := ih fun i hi => h i (List.mem_cons_of_mem p hi)
    rw [Template.resolve_cons]
    cases p with
    | text x => exact .text x hrest
    | helper i =>
      have hi : i < k := h i List.mem_cons_self
      obtain ⟨d, hd⟩ : ∃ d, e.helpers[i]? = some d :=
        ⟨_, List.getElem?_eq_getElem (Nat.lt_of_lt_of_le hi hk)⟩
      have hname : Template.fill (s.names k) (.helper i) = NameSupply.nameAt (s.issued + i) :=
        s.getD_names hi
      have hdeclared := getElem?_helperStatements_of hd s
      rw [← List.getElem?_take_of_lt hi] at hdeclared
      rw [hname]
      exact .helper hdeclared hrest

lemma WellScoped.declaredBy {e : Expression} (h : e.WellScoped) (s : NameSupply) :
    e.DeclaredBy (e.helperStatements s) := by
  refine ⟨length_helperStatements e s, fun i d hd => ?_⟩
  have hi : i < e.helpers.length := (List.getElem?_eq_some_iff.mp hd).1
  exact ⟨_, _, getElem?_helperStatements_of hd s,
    e.filledFrom_take s (Nat.le_of_lt hi) (h.helper i d hd)⟩

lemma WellScoped.filledFrom {e : Expression} (h : e.WellScoped) {v : Template}
    (hv : e.value = some v) (s : NameSupply) :
    v.FilledFrom (e.helperStatements s) (e.lower v s).value := by
  have hfilled := e.filledFrom_take s (Nat.le_refl _) (h.value v hv)
  rwa [List.take_of_length_le (Nat.le_of_eq (length_helperStatements e s))] at hfilled

end Expression

namespace ExprSpec

lemma helperNames_lowered {s : ExprSpec} {n : Nat} {l : Expression.Lowered}
    (h : s.lowered? n = some l) : helperNames l.helpers = NameSupply.names ⟨n⟩ s.helperCalls := by
  obtain ⟨v, -, rfl⟩ := Option.map_eq_some_iff.mp h
  rw [← length_helpers]
  exact Expression.helperNames_helperStatements _ _

/-- The helpers and the value of a lowered expression, in its own terms. -/
lemma exists_filled {s : ExprSpec} {n : Nat} {l : Expression.Lowered}
    (h : s.lowered? n = some l) :
    ∃ v, s.build.value.DeclaredBy l.helpers ∧ s.build.value.value = some v ∧
      v.FilledFrom l.helpers l.value := by
  obtain ⟨v, hv, rfl⟩ := Option.map_eq_some_iff.mp h
  have hs := s.wellScoped_build
  exact ⟨v, hs.declaredBy _, hv, hs.filledFrom hv _⟩

lemma helperNames_statements (s : ExprSpec) (last : String → Statement)
    (hlast : ∀ text, (last text).helperName? = none) (n : Nat) :
    helperNames (s.statements last n) = NameSupply.names ⟨n⟩ s.issues := by
  by_cases h : s.Valued
  · obtain ⟨l, hl⟩ := lowered?_of_valued h n
    have hend : helperNames [last l.value] = [] := by simp [helperNames, hlast]
    rw [statements, hl, issues_of_valued h, ← helperNames_lowered hl]
    simp [Expression.close, hend]
  · rw [statements, lowered?_of_not_valued h, issues, if_neg h]
    rfl

end ExprSpec

/-! ### The steps -/

namespace Step

lemma helperNames_statements (s : Step) (n : Nat) :
    helperNames (s.statements n) = NameSupply.names ⟨n⟩ s.issues := by
  cases s with
  | code text => rfl
  | header text => rfl
  | declare type spec => exact spec.helperNames_statements _ (fun _ => rfl) n
  | assign op spec => exact spec.helperNames_statements _ (fun _ => rfl) n

/-- The steps declare the next names of the supply, in order. -/
theorem helperNames_body (steps : List Step) (n : Nat) :
    helperNames (body n steps) = NameSupply.names ⟨n⟩ (total steps) := by
  induction steps generalizing n with
  | nil => rfl
  | cons s steps ih =>
    rw [body, helperNames_append, helperNames_statements, ih, total, NameSupply.names_add]
    rfl

lemma block_statements {s : Step} (h : s.fault? = none) (n : Nat) :
    s.Block (s.statements n) := by
  cases s with
  | code text => exact .code text
  | header text => exact .header text
  | declare type spec =>
    obtain ⟨l, hl⟩ := ExprSpec.lowered?_of_valued ((spec.fault?_eq_none_iff).mp h) n
    obtain ⟨v, hd, hv, hf⟩ := ExprSpec.exists_filled hl
    rw [statements, ExprSpec.statements, hl]
    exact .declare hd hv hf
  | assign op spec =>
    obtain ⟨l, hl⟩ := ExprSpec.lowered?_of_valued ((spec.fault?_eq_none_iff).mp h) n
    obtain ⟨v, hd, hv, hf⟩ := ExprSpec.exists_filled hl
    rw [statements, ExprSpec.statements, hl]
    exact .assign hd hv hf

theorem exists_blocks {steps : List Step} (h : ∀ s ∈ steps, s.fault? = none) (n : Nat) :
    ∃ blocks, List.Forall₂ Block steps blocks ∧ body n steps = blocks.flatten := by
  induction steps generalizing n with
  | nil => exact ⟨[], .nil, rfl⟩
  | cons s steps ih =>
    obtain ⟨blocks, hb, he⟩ := ih (fun t ht => h t (by simp [ht])) (n + s.issues)
    refine ⟨s.statements n :: blocks, .cons (block_statements (h s (by simp)) n) hb, ?_⟩
    rw [body, he, List.flatten_cons]

end Step

/-! ### The whole -/

namespace Color

def issues (c : Color) : Nat := c.spec?.elim 0 ExprSpec.issues

lemma helperNames_helpers (c : Color) (n : Nat) :
    helperNames (c.helpers n) = NameSupply.names ⟨n⟩ c.issues := by
  cases c with
  | text s => rfl
  | expression spec =>
    by_cases h : spec.Valued
    · obtain ⟨l, hl⟩ := ExprSpec.lowered?_of_valued h n
      have hi : (Color.expression spec).issues = spec.helperCalls := ExprSpec.issues_of_valued h
      rw [helpers, hl, hi]
      exact ExprSpec.helperNames_lowered hl
    · have hi : (Color.expression spec).issues = 0 := if_neg h
      rw [helpers, ExprSpec.lowered?_of_not_valued h, hi]
      rfl

lemma block_value {c : Color} (h : c.fault? = none) (n : Nat) :
    c.Block (c.helpers n) (c.value n) := by
  cases c with
  | text s => exact .text s
  | expression spec =>
    obtain ⟨l, hl⟩ := ExprSpec.lowered?_of_valued ((spec.fault?_eq_none_iff).mp h) n
    obtain ⟨v, hd, hv, hf⟩ := ExprSpec.exists_filled hl
    rw [helpers, value, hl]
    exact .expression hd hv hf

end Color

namespace Recipe

/-- How many calls of all expressions need a helper, whether or not a later call replaced the
value. -/
def helperCalls (r : Recipe) : Nat := (r.specs.flatMap ExprSpec.calls).countP ExprCall.addsHelper

lemma total_eq_helperCalls {r : Recipe} (h : ∀ s ∈ r.specs, s.Valued) :
    Step.total r.steps + r.color.issues = r.helperCalls := by
  have hsum (ss : List ExprSpec) (hs : ∀ s ∈ ss, s.Valued) :
      (ss.map ExprSpec.issues).sum = (ss.flatMap ExprSpec.calls).countP ExprCall.addsHelper := by
    induction ss with
    | nil => rfl
    | cons s ss ih =>
      rw [List.map_cons, List.sum_cons, ExprSpec.issues_of_valued (hs s (by simp)),
        ih fun t ht => hs t (by simp [ht])]
      simp [ExprSpec.helperCalls]
  have hsteps (steps : List Step) :
      Step.total steps = ((steps.filterMap Step.spec?).map ExprSpec.issues).sum := by
    induction steps with
    | nil => rfl
    | cons s steps ih =>
      rw [Step.total, ih, Step.issues]
      cases hs : s.spec? <;> simp [hs]
  have hcolor : r.color.issues = (r.color.spec?.toList.map ExprSpec.issues).sum := by
    cases hc : r.color.spec? <;> simp [Color.issues, hc]
  rw [helperCalls, ← hsum _ h, specs, List.map_append, List.sum_append, ← hsteps, ← hcolor]

lemma helperNames_fragment {r : Recipe} (h : ∀ s ∈ r.specs, s.Valued) :
    helperNames r.fragment.body = NameSupply.start.names r.helperCalls := by
  rw [fragment_eq, helperNames_append, Step.helperNames_body, Color.helperNames_helpers,
    ← total_eq_helperCalls h, NameSupply.names_add, NameSupply.start, NameSupply.advance,
    Nat.zero_add]

/-- **Hygiene**: the helpers of an assembled program have the names of the numbers from zero,
in order and no name twice. Each step stands in a block of its own, in which only helpers of
its own expression are referred to, further up; and no two blocks declare the same name. -/
theorem helpers_hygienic (r : Recipe) (p : Program) (h : r.assemble.value = .ok p) :
    p.source = r.fragment.render ∧
      helperNames r.fragment.body = (List.range r.helperCalls).map ("_tmp" ++ ·.repr) ∧
      (helperNames r.fragment.body).Nodup ∧
      ∃ blocks last, List.Forall₂ Step.Block r.steps blocks ∧
        r.color.Block last r.fragment.color ∧ r.fragment.body = blocks.flatten ++ last ∧
        (blocks ++ [last]).Pairwise fun a b => (helperNames a).Disjoint (helperNames b) := by
  rw [assemble_value] at h
  cases hf : r.fault? with
  | some fault => simp [hf] at h
  | none =>
    have hp : p = ⟨r.fragment.render⟩ := by simpa [hf] using h.symm
    have hnames := helperNames_fragment ((fault?_eq_none_iff r).mp hf)
    have hnodup : (helperNames r.fragment.body).Nodup := hnames ▸ NameSupply.nodup_names _ _
    rw [fault?_eq, Option.or_eq_none_iff, List.findSome?_eq_none_iff] at hf
    obtain ⟨blocks, hb, he⟩ := Step.exists_blocks hf.1 0
    have hbody : r.fragment.body = blocks.flatten ++ r.color.helpers (Step.total r.steps) := by
      rw [fragment_eq, he]
    have hblock : r.color.Block (r.color.helpers (Step.total r.steps)) r.fragment.color := by
      rw [fragment_eq]; exact Color.block_value hf.2 _
    have hstart : NameSupply.start.names r.helperCalls =
        (List.range r.helperCalls).map ("_tmp" ++ ·.repr) := by
      simp [NameSupply.names, NameSupply.start, NameSupply.nameAt, NameSupply.stem]
    refine ⟨by rw [hp], hnames.trans hstart, hnodup,
      blocks, _, hb, hblock, hbody, ?_⟩
    -- the names of the body are those of all blocks together, so none occurs in two blocks
    have hflat : r.fragment.body =
        (blocks ++ [r.color.helpers (Step.total r.steps)]).flatten := by simp [hbody]
    rw [hflat, helperNames_flatten, List.nodup_flatMap] at hnodup
    exact hnodup.2

/-- An expression whose first value is replaced, used twice, under a colour of its own. -/
def twice : Recipe :=
  let grain : ExprSpec := ⟨"grain", [.noise ⟨0x41200000⟩, .circle ⟨0⟩ ⟨0⟩ ⟨0x3f800000⟩ true]⟩
  { steps := [.declare .float grain, .code "let k = grain;", .assign .add grain]
    color := .expression ⟨"color", [.noise ⟨0x3f800000⟩]⟩ }

theorem helpers_hygienic_twice :
    (∃ p, twice.assemble.value = .ok p ∧ p.source = twice.fragment.render ∧
      helperNames twice.fragment.body = ["_tmp0", "_tmp1", "_tmp2", "_tmp3", "_tmp4"]) ∧
      twice.fragment.body =
        [.helper "_tmp0" .float "sin(dot(uv * 10.0, vec2<f32>(12.9898, 78.233))) * 43758.5453",
         .helper "_tmp1" .float "distance(uv, vec2<f32>(0.0, 0.0))",
         .declare "grain" .float "1.0 - smoothstep(0.99, 1.0, _tmp1)",
         .raw "let k = grain;",
         .helper "_tmp2" .float "sin(dot(uv * 10.0, vec2<f32>(12.9898, 78.233))) * 43758.5453",
         .helper "_tmp3" .float "distance(uv, vec2<f32>(0.0, 0.0))",
         .assign "grain" .add "1.0 - smoothstep(0.99, 1.0, _tmp3)",
         .helper "_tmp4" .float "sin(dot(uv * 1.0, vec2<f32>(12.9898, 78.233))) * 43758.5453"] ∧
      twice.fragment.color = "fract(_tmp4)" := by
  have h : twice.assemble.value = .ok ⟨twice.fragment.render⟩ := by
    rw [assemble_value]; rfl
  obtain ⟨hs, hn, -⟩ := helpers_hygienic twice _ h
  exact ⟨⟨_, h, hs, hn.trans (by decide)⟩, by decide +kernel, by decide +kernel⟩

end Recipe

end ShaderLoom
