import ShaderLoom.Proofs.SourceText

/-!
What the requests to an expression give.

An expression is asked for a declaration, for an assignment or for its value. All three lower it
in the same way: its helpers take the next names of the supply, one by one, each seeing the names
of those before it; and the value that was set last sees them all. No hole is ever without a
name. If something is missing the request is refused, and the supply is as it was.
-/

namespace ShaderLoom

open Expression

/-! ### Lowering name by name -/

namespace Template

/-- The text with every hole filled, if there is a name for each. -/
def resolve? (names : List String) : Template → Option String
  | [] => some ""
  | .text s :: t => (resolve? names t).map (s ++ ·)
  | .helper i :: t => names[i]?.bind fun name => (resolve? names t).map (name ++ ·)

lemma resolve?_of_within {names : List String} {t : Template} (h : t.Within names.length) :
    t.resolve? names = some (t.resolve names) := by
  induction t with
  | nil => rfl
  | cons p t ih =>
    have ht := ih fun i hi => h i (List.mem_cons_of_mem p hi)
    rw [resolve_cons]
    cases p with
    | text s => simp [resolve?, ht, fill]
    | helper i =>
      have hi : i < names.length := h i (by simp)
      simp [resolve?, ht, fill, hi]

end Template

namespace Expression

/-- Helpers declared one after the other, each under a fresh name, when `names` have been given
to those before. -/
def declareEach : List Helper → List String → NameSupply →
    Option (List Statement × List String × NameSupply)
  | [], names, s => some ([], names, s)
  | h :: hs, names, s => do
    let text ← h.value.resolve? names
    let (name, s) := s.fresh
    let (statements, names, s) ← declareEach hs (names ++ [name]) s
    some (.helper name h.type text :: statements, names, s)

/-- Lowering done name by name. It comes to nothing if a hole has no name. -/
def lowerEach (e : Expression) (value : Template) (s : NameSupply) :
    Option (Lowered × NameSupply) := do
  let (helpers, names, s) ← declareEach e.helpers [] s
  let text ← value.resolve? names
  some (⟨helpers, text⟩, s)

lemma names_succ (s : NameSupply) (i : Nat) :
    s.names (i + 1) = s.names i ++ [(s.advance i).fresh.1] := by
  rw [NameSupply.names_add]
  simp [NameSupply.names, NameSupply.advance, NameSupply.fresh]

lemma declareEach_eq {hs : List Helper} {i : Nat}
    (hscope : ∀ j (h : Helper), hs[j]? = some h → h.value.Within (i + j)) (s : NameSupply) :
    declareEach hs (s.names i) (s.advance i) =
      some ((hs.zipIdx i).map fun (h, j) =>
          .helper (NameSupply.nameAt (s.issued + j)) h.type (h.value.resolve (s.names j)),
        s.names (i + hs.length), s.advance (i + hs.length)) := by
  induction hs generalizing i with
  | nil => rfl
  | cons h hs ih =>
    have hwithin : h.value.Within (s.names i).length := by
      simpa using hscope 0 h rfl
    have hrest := ih (i := i + 1) fun j d hd => by
      rw [Nat.add_assoc, Nat.add_comm 1]
      exact hscope (j + 1) d hd
    have hsupply : (s.advance i).fresh.2 = s.advance (i + 1) := rfl
    rw [declareEach, Template.resolve?_of_within hwithin]
    simp only [Option.bind_eq_bind, Option.bind_some, ← names_succ, hsupply, hrest]
    simp [NameSupply.fresh, NameSupply.advance, Nat.add_assoc, Nat.add_comm 1]

/-- Every hole has a name when its turn comes, and lowering is what is done name by name. -/
theorem WellScoped.lowerEach_eq {e : Expression} (h : e.WellScoped) {v : Template}
    (hv : e.value = some v) (s : NameSupply) :
    e.lowerEach v s = some (e.lower v s, s.advance e.helpers.length) := by
  have hhelpers := declareEach_eq (i := 0) (fun j d hd => by simpa using h.helper j d hd) s
  have hvalue : v.Within (s.names e.helpers.length).length := by simpa using h.value v hv
  have hs : s.advance 0 = s := rfl
  rw [NameSupply.names_zero, hs, Nat.zero_add] at hhelpers
  rw [lowerEach, hhelpers]
  simp [Template.resolve?_of_within hvalue, lower, helperStatements]

end Expression

/-! ### The calls and what they ask for -/

namespace ExprCall

lemma lastType_eq (cs : List ExprCall) : lastType cs = (cs.filterMap type?).getLast? := by
  rw [List.getLast?_filterMap]
  induction cs with
  | nil => rfl
  | cons c cs ih => simp [lastType, ih, List.findSome?_append]

lemma text?_isSome (helper : String) (c : ExprCall) : (c.text? helper).isSome = c.setsValue := by
  cases c with
  | circle x y radius smooth => cases smooth <;> rfl
  | _ => rfl

lemma lastText_isSome (n : Nat) (cs : List ExprCall) :
    (lastText n cs).isSome = cs.any setsValue := by
  induction cs generalizing n with
  | nil => rfl
  | cons c cs ih => simp [lastText, ih, text?_isSome, Bool.or_comm]

/-- A value is set last: by the call `c`, whose helper has the number behind those of the calls
before, and by no call after it. -/
def SetsLast (n : Nat) (cs : List ExprCall) (text : String) : Prop :=
  ∃ before c after, cs = before ++ c :: after ∧ (∀ d ∈ after, d.setsValue = false) ∧
    c.text? ("_tmp" ++ (n + before.countP addsHelper).repr) = some text

lemma setsLast_of_lastText {n : Nat} {cs : List ExprCall} {text : String}
    (h : lastText n cs = some text) : SetsLast n cs text := by
  induction cs generalizing n with
  | nil => cases h
  | cons c cs ih =>
    rcases Option.or_eq_some_iff.mp h with hcs | ⟨hcs, hc⟩
    · obtain ⟨before, d, after, rfl, hafter, hd⟩ := ih hcs
      have hcount : n + c.addsHelper.toNat + before.countP addsHelper =
          n + (c :: before).countP addsHelper := by
        rw [List.countP_cons]
        cases c.addsHelper <;> simp [Nat.add_assoc, Nat.add_comm 1]
      exact ⟨c :: before, d, after, rfl, hafter, hcount ▸ hd⟩
    · have hsilent : cs.any setsValue = false := by rw [← lastText_isSome, hcs]; rfl
      exact ⟨[], c, cs, rfl, by simpa using hsilent, hc⟩

end ExprCall

namespace ExprSpec

/-- The helpers that the calls need, whether or not a later call replaced the value, numbered
from `n`. -/
def helpersFrom (s : ExprSpec) (n : Nat) : List Statement :=
  ((s.calls.filterMap ExprCall.helperText?).zipIdx n).map fun (value, i) =>
    .helper ("_tmp" ++ i.repr) .float value

lemma helperStatements_build (s : ExprSpec) (n : Nat) :
    s.build.value.helperStatements ⟨n⟩ = s.helpersFrom n := by
  refine List.ext_getElem? fun i => ?_
  rw [getElem?_helperStatements, build_value, ExprCall.allHelpers_eq, helpersFrom,
    List.getElem?_map, List.getElem?_map, List.getElem?_zipIdx]
  cases (s.calls.filterMap ExprCall.helperText?)[i]? with
  | none => rfl
  | some t => simp only [Option.map_some, ExprCall.resolve_raw, NameSupply.nameAt, NameSupply.stem]

lemma exists_lowered {s : ExprSpec} (h : s.Valued) (n : Nat) :
    ∃ v text, s.build.value.value = some v ∧ ExprCall.SetsLast n s.calls text ∧
      s.build.value.lower v ⟨n⟩ = ⟨s.helpersFrom n, text⟩ := by
  obtain ⟨v, hv⟩ := exists_value h
  obtain ⟨text, htext⟩ : ∃ text, ExprCall.lastText n s.calls = some text :=
    Option.isSome_iff_exists.mp (by rw [ExprCall.lastText_isSome]; exact h)
  have hl : s.lowered? n = some (s.build.value.lower v ⟨n⟩) := by rw [lowered?, hv]; rfl
  have hvalue : (s.build.value.lower v ⟨n⟩).value = text := by
    rw [← valueText_eq hl, valueText, htext]; rfl
  refine ⟨v, text, hv, ExprCall.setsLast_of_lastText htext, ?_⟩
  rw [← helperStatements_build, ← hvalue]
  rfl

/-! ### The requests -/

/-- What the requests give when `n` names have been issued: each lowers to `l` and takes a name
for each helper, and none of the look-ups of a name fails on the way. -/
structure Gives (s : ExprSpec) (n : Nat) (l : Lowered) : Prop where
  lowered : ∃ v, s.build.value.value = some v ∧
    s.build.value.lowerEach v ⟨n⟩ = some (l, ⟨n + s.helperCalls⟩)
  value : s.build.value.toValue ⟨n⟩ = pure (.ok l, ⟨n + s.helperCalls⟩)
  assignment : ∀ op, s.build.value.toAssignment op ⟨n⟩ =
    pure (.ok (l.helpers ++ [.assign s.name op l.value]), ⟨n + s.helperCalls⟩)
  declaration : ∀ type, s.build.value.type = some type → s.build.value.toDeclaration ⟨n⟩ =
    pure (.ok (l.helpers ++ [.declare s.name type l.value]), ⟨n + s.helperCalls⟩)

/-- A request is refused for what is missing, and `n` names have been issued after it as well. -/
def Refused {α : Type} (s : ExprSpec) (n : Nat) (missing : Missing) (r : Journal (Answer α)) :
    Prop :=
  r.value = (.error (.malformed s.name missing), ⟨n⟩)

lemma toDeclaration_of_type {e : Expression} {type : ValueType} (h : e.type = some type)
    (n : NameSupply) : e.toDeclaration n = e.toStatements (.declare e.name type) n := by
  rw [toDeclaration, h]

lemma gives_of_valued {s : ExprSpec} {n : Nat} {v : Template} (hv : s.build.value.value = some v) :
    s.Gives n (s.build.value.lower v ⟨n⟩) := by
  have hsupply : NameSupply.advance ⟨n⟩ s.build.value.helpers.length = ⟨n + s.helperCalls⟩ := by
    rw [length_helpers]
    rfl
  have heach := s.wellScoped_build.lowerEach_eq hv ⟨n⟩
  have hvalue : s.build.value.toValue ⟨n⟩ =
      pure (.ok (s.build.value.lower v ⟨n⟩), ⟨n + s.helperCalls⟩) := by
    rw [toValue, hv, hsupply]
  rw [hsupply] at heach
  refine ⟨⟨v, hv, heach⟩, hvalue, fun op => ?_, fun type ht => ?_⟩
  · rw [toAssignment, toStatements, hvalue, name_build]; rfl
  · rw [toDeclaration_of_type ht, toStatements, hvalue, name_build]; rfl

/-- Without a value no statement is made, whichever is asked for. -/
lemma refused_toStatements {s : ExprSpec} (h : ¬ s.Valued) (statement : String → Statement)
    (n : Nat) : s.Refused n .value (s.build.value.toStatements statement ⟨n⟩) := by
  have hvalue : (s.build.value.toValue ⟨n⟩).value = (.error (.malformed s.name .value), ⟨n⟩) := by
    rw [toValue_build, lowered?_of_not_valued h]
  rw [Refused, toStatements, Journal.value_bind, hvalue]
  rfl

/-- **Requests**: an expression whose calls set a value answers every request with one helper for
each call that needs one and with the value that was set last, and as many names are taken. Its
type is the one that was given last. Without a value every request is refused, and without a type
that for a declaration, and the supply is left as it was. -/
theorem requests_answered (s : ExprSpec) (n : Nat) :
    s.build.value.type = (s.calls.filterMap ExprCall.type?).getLast? ∧
      (s.helpersFrom n).length = s.helperCalls ∧
      (s.Valued → ∃ text, ExprCall.SetsLast n s.calls text ∧ s.Gives n ⟨s.helpersFrom n, text⟩) ∧
      (¬ s.Valued →
        s.Refused n .value (s.build.value.toValue ⟨n⟩) ∧
          (∀ op, s.Refused n .value (s.build.value.toAssignment op ⟨n⟩)) ∧
          (s.build.value.type ≠ none →
            s.Refused n .value (s.build.value.toDeclaration ⟨n⟩))) ∧
      (s.build.value.type = none → s.Refused n .type (s.build.value.toDeclaration ⟨n⟩)) := by
  refine ⟨by rw [build_value, ExprCall.lastType_eq],
    by rw [← helperStatements_build, length_helperStatements, length_helpers],
    fun h => ?_, fun h => ⟨?_, fun op => refused_toStatements h _ n, fun ht => ?_⟩, fun h => ?_⟩
  · obtain ⟨v, text, hv, htext, hlower⟩ := exists_lowered h n
    exact ⟨text, htext, hlower ▸ gives_of_valued hv⟩
  · rw [Refused, toValue_build, lowered?_of_not_valued h]
  · obtain ⟨type, ht⟩ := Option.ne_none_iff_exists'.mp ht
    rw [toDeclaration_of_type ht]
    exact refused_toStatements h _ n
  · rw [Refused, toDeclaration, h, Journal.value_bind, missingType, Journal.value_bind, name_build]
    rfl

/-- A value that is replaced, and types on both sides of the one that stays. -/
def blend : ExprSpec :=
  ⟨"blend", [.typed .float2, .noise ⟨0x40000000⟩, .circle ⟨0⟩ ⟨0⟩ ⟨0x3f800000⟩ true, .typed .float]⟩

theorem requests_answered_blend :
    (blend.Valued ∧ (∃ text, ExprCall.SetsLast 7 blend.calls text ∧
      blend.build.value.toDeclaration ⟨7⟩ =
        pure (.ok (blend.helpersFrom 7 ++ [.declare "blend" .float text]), ⟨9⟩)) ∧
      (blend.build.value.toDeclaration ⟨7⟩).value =
        (.ok [.helper "_tmp7" .float "sin(dot(uv * 2.0, vec2<f32>(12.9898, 78.233))) * 43758.5453",
          .helper "_tmp8" .float "distance(uv, vec2<f32>(0.0, 0.0))",
          .declare "blend" .float "1.0 - smoothstep(0.99, 1.0, _tmp8)"], ⟨9⟩)) ∧
      (¬ ExprSpec.Valued ⟨"bare", [.typed .float]⟩ ∧
        ((build ⟨"bare", [.typed .float]⟩).value.toDeclaration ⟨7⟩).value =
          (.error (.malformed "bare" .value), ⟨7⟩)) ∧
      ((build ⟨"y", []⟩).value.type = none ∧
        ((build ⟨"y", []⟩).value.toDeclaration ⟨7⟩).value =
          (.error (.malformed "y" .type), ⟨7⟩)) := by
  have hblend : blend.Valued := by decide
  have hbare : ¬ ExprSpec.Valued ⟨"bare", [.typed .float]⟩ := by decide
  obtain ⟨htype, -, hgives, -⟩ := requests_answered blend 7
  obtain ⟨text, htext, hrequests⟩ := hgives hblend
  obtain ⟨-, -, -, hmissing, -⟩ := requests_answered ⟨"bare", [.typed .float]⟩ 7
  obtain ⟨-, -, -, -, huntyped⟩ := requests_answered ⟨"y", []⟩ 7
  exact ⟨⟨hblend, ⟨text, htext, hrequests.declaration .float (htype.trans rfl)⟩,
      by decide +kernel⟩,
    ⟨hbare, (hmissing hbare).2.2 nofun⟩, rfl, huntyped rfl⟩

end ExprSpec

end ShaderLoom
