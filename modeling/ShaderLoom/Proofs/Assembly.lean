import ShaderLoom.Proofs.Lowering

/-!
What a chain has gathered after any steps, and what it ends with.

A step adds to the headers or to the body, or leaves a fault. How many names it takes depends
on its own expression alone; so the body is known step by step from the number of names issued
before, and the chain ends with the first fault, or with the fragment of all that was gathered.
-/

namespace ShaderLoom

open Expression

namespace ExprSpec

/-- Some call sets a value. -/
def Valued (s : ExprSpec) : Prop := s.calls.any ExprCall.setsValue = true

instance (s : ExprSpec) : Decidable s.Valued := inferInstanceAs (Decidable (_ = true))

def helperCalls (s : ExprSpec) : Nat := s.calls.countP ExprCall.addsHelper

/-- How many names are taken from the supply. Without a value none is. -/
def issues (s : ExprSpec) : Nat := if s.Valued then s.helperCalls else 0

def fault? (s : ExprSpec) : Option Fault :=
  if s.Valued then none else some (.malformed s.name .value)

lemma issues_of_valued {s : ExprSpec} (h : s.Valued) : s.issues = s.helperCalls := if_pos h

lemma fault?_eq_none_iff (s : ExprSpec) : s.fault? = none ↔ s.Valued := by
  by_cases h : s.Valued <;> simp [fault?, h]

/-- The expression lowered when `n` names have been issued. -/
def lowered? (s : ExprSpec) (n : Nat) : Option Lowered :=
  s.build.value.value.map fun v => s.build.value.lower v ⟨n⟩

lemma build_value (s : ExprSpec) :
    s.build.value = ⟨s.name, ExprCall.lastType s.calls, ExprCall.lastValue 0 s.calls,
      ExprCall.allHelpers s.calls⟩ := ofCalls_value s.name s.calls

lemma name_build (s : ExprSpec) : s.build.value.name = s.name := by
  rw [build_value]

lemma length_helpers (s : ExprSpec) : s.build.value.helpers.length = s.helperCalls := by
  rw [build_value, helperCalls, ExprCall.length_allHelpers]

lemma wellScoped_build (s : ExprSpec) : s.build.value.WellScoped :=
  wellScoped_ofCalls s.name s.calls

lemma isSome_value (s : ExprSpec) :
    s.build.value.value.isSome = s.calls.any ExprCall.setsValue := by
  rw [build_value, ExprCall.lastValue_isSome]

lemma exists_value {s : ExprSpec} (h : s.Valued) : ∃ v, s.build.value.value = some v :=
  Option.isSome_iff_exists.mp (by rw [isSome_value]; exact h)

lemma value_none {s : ExprSpec} (h : ¬ s.Valued) : s.build.value.value = none := by
  rw [← Option.not_isSome_iff_eq_none, isSome_value]; exact h

/-- Asking for the value gives the lowered expression, or the fault and the supply as it was. -/
lemma toValue_build (s : ExprSpec) (n : NameSupply) :
    (s.build.value.toValue n).value =
      match s.lowered? n.issued with
      | none => (.error (.malformed s.name .value), n)
      | some l => (.ok l, n.advance s.helperCalls) := by
  unfold toValue lowered?
  cases s.build.value.value <;> simp [missingValue, name_build, length_helpers]

lemma lowered?_of_valued {s : ExprSpec} (h : s.Valued) (n : Nat) :
    ∃ l, s.lowered? n = some l := by
  obtain ⟨v, hv⟩ := exists_value h
  exact ⟨_, by rw [lowered?, hv]; rfl⟩

lemma lowered?_of_not_valued {s : ExprSpec} (h : ¬ s.Valued) (n : Nat) : s.lowered? n = none := by
  rw [lowered?, value_none h]; rfl

/-- The statements of the expression when `n` names have been issued, with `last` around its
value. -/
def statements (last : String → Statement) (n : Nat) (s : ExprSpec) : List Statement :=
  match s.lowered? n with
  | none => []
  | some l => close last l

end ExprSpec

namespace Step

def header? : Step → Option String
  | .header text => some text
  | _ => none

/-- The expression of a step. -/
def spec? : Step → Option ExprSpec
  | .declare _ spec => some spec
  | .assign _ spec => some spec
  | _ => none

def issues (s : Step) : Nat := s.spec?.elim 0 ExprSpec.issues

def fault? (s : Step) : Option Fault := s.spec?.bind ExprSpec.fault?

/-- What a step adds to the body when `n` names have been issued. -/
def statements (n : Nat) : Step → List Statement
  | .code text => [.raw text]
  | .header _ => []
  | .declare type spec => spec.statements (.declare spec.name type) n
  | .assign op spec => spec.statements (.assign spec.name op) n

/-- How many names the steps take. -/
def total : List Step → Nat
  | [] => 0
  | s :: steps => s.issues + total steps

/-- What the steps add to the body when `n` names have been issued before them. -/
def body (n : Nat) : List Step → List Statement
  | [] => []
  | s :: steps => s.statements n ++ body (n + s.issues) steps

end Step

namespace Chain

/-- An expression that is lowered adds its statements; one that cannot be leaves its fault. -/
lemma append_built (c : Chain) (last : String → Statement) (s : ExprSpec) :
    c.append (s.build.value.toStatements last c.supply).value =
      { headers := c.headers
        body := c.body ++ s.statements last c.supply.issued
        supply := c.supply.advance s.issues
        failure := c.failure.or s.fault? } := by
  have hvalue : (s.build.value.toStatements last c.supply).value =
      ((s.build.value.toValue c.supply).value.1.map (close last),
        (s.build.value.toValue c.supply).value.2) := rfl
  rw [hvalue, ExprSpec.toValue_build, ExprSpec.statements, ExprSpec.issues, ExprSpec.fault?]
  by_cases h : s.Valued
  · obtain ⟨l, hl⟩ := ExprSpec.lowered?_of_valued h c.supply.issued
    rw [hl, if_pos h, if_pos h, Option.or_none]
    simp [append, Except.map]
  · rw [ExprSpec.lowered?_of_not_valued h, if_neg h, if_neg h]
    simp [append, Except.map, NameSupply.advance]

lemma step_declare (c : Chain) (type : ValueType) (s : ExprSpec) :
    (c.step (.declare type s)).value =
      c.append (s.build.value.toStatements (.declare s.build.value.name type) c.supply).value := rfl

lemma step_assign (c : Chain) (op : AssignOp) (s : ExprSpec) :
    (c.step (.assign op s)).value =
      c.append (s.build.value.toStatements (.assign s.build.value.name op) c.supply).value := rfl

/-- What one step does to a chain. -/
theorem step_value (c : Chain) (s : Step) :
    (c.step s).value =
      { headers := c.headers ++ s.header?.toList
        body := c.body ++ s.statements c.supply.issued
        supply := c.supply.advance s.issues
        failure := c.failure.or s.fault? } := by
  cases s with
  | code text => simp [step, code, Step.header?, Step.statements, Step.issues, Step.fault?,
      Step.spec?, NameSupply.advance]
  | header text => simp [step, header, Step.header?, Step.statements, Step.issues, Step.fault?,
      Step.spec?, NameSupply.advance]
  | declare type spec =>
    rw [step_declare, append_built, ExprSpec.name_build]
    simp [Step.header?, Step.statements, Step.issues, Step.fault?, Step.spec?]
  | assign op spec =>
    rw [step_assign, append_built, ExprSpec.name_build]
    simp [Step.header?, Step.statements, Step.issues, Step.fault?, Step.spec?]

/-- What a sequence of steps does to a chain. -/
theorem run_value (c : Chain) (steps : List Step) :
    (c.run steps).value =
      { headers := c.headers ++ steps.filterMap Step.header?
        body := c.body ++ Step.body c.supply.issued steps
        supply := c.supply.advance (Step.total steps)
        failure := c.failure.or (steps.findSome? Step.fault?) } := by
  induction steps generalizing c with
  | nil => simp [run, Step.body, Step.total, NameSupply.advance]
  | cons s steps ih =>
    have hrun : (c.run (s :: steps)).value = ((c.step s).value.run steps).value := rfl
    rw [hrun, ih, step_value]
    have hbody (xs ys : List Statement) : c.body ++ xs ++ ys = c.body ++ (xs ++ ys) :=
      Array.ext' (by simp)
    cases hh : s.header? <;> cases hf : s.fault? <;>
      simp [hh, hf, hbody, Step.body, Step.total, NameSupply.advance, Nat.add_assoc]

end Chain

/-! ### The end of a chain -/

namespace Color

def spec? : Color → Option ExprSpec
  | .text _ => none
  | .expression spec => some spec

def fault? (c : Color) : Option Fault := c.spec?.bind ExprSpec.fault?

/-- The helpers of the colour when `n` names have been issued. -/
def helpers (n : Nat) : Color → List Statement
  | .text _ => []
  | .expression spec => (spec.lowered? n).elim [] (·.helpers)

/-- The text of the colour when `n` names have been issued. -/
def value (n : Nat) : Color → String
  | .text s => s
  | .expression spec => (spec.lowered? n).elim "" (·.value)

end Color

namespace Chain

/-- The fragment of all that a chain has gathered, the helpers of the colour last. -/
def fragment (c : Chain) (color : Color) : Fragment :=
  { headers := c.headers.toList
    body := c.body.toList ++ color.helpers c.supply.issued
    color := color.value c.supply.issued }

lemma finalizeWith_value (c : Chain) (e : Expression) :
    (c.finalizeWith e).value =
      match (e.toValue c.supply).value with
      | (.ok l, supply) => ((c.addHelpers l.helpers supply).finalize l.value).value
      | (.error fault, _) => .error (c.failure.getD fault) := by
  rw [finalizeWith, Journal.value_bind]
  rcases (e.toValue c.supply).value with ⟨fault | l, supply⟩ <;> rfl

lemma finalize_value (c : Chain) (color : String) :
    (c.finalize color).value =
      match c.failure with
      | some fault => .error fault
      | none => .ok ⟨(c.toFragment color).render⟩ := by
  unfold finalize
  cases c.failure <;> rfl

/-- A chain ends with its first fault, or with its fragment. -/
theorem finish_value (c : Chain) (color : Color) :
    (c.finish color).value =
      match c.failure.or color.fault? with
      | some fault => .error fault
      | none => .ok ⟨(c.fragment color).render⟩ := by
  cases color with
  | text s =>
    have hf : c.toFragment s = c.fragment (.text s) := by
      simp [toFragment, fragment, Color.helpers, Color.value]
    rw [finish, finalize_value, hf]
    simp [Color.fault?, Color.spec?]
  | expression spec =>
    have hfin : (c.finish (.expression spec)).value = (c.finalizeWith spec.build.value).value := rfl
    rw [hfin, finalizeWith_value, ExprSpec.toValue_build]
    by_cases h : spec.Valued
    · obtain ⟨l, hl⟩ := ExprSpec.lowered?_of_valued h c.supply.issued
      have hf (supply : NameSupply) :
          (c.addHelpers l.helpers supply).toFragment l.value = c.fragment (.expression spec) := by
        simp [toFragment, fragment, addHelpers, Color.helpers, Color.value, hl]
      have hn : (Color.expression spec).fault? = none := (spec.fault?_eq_none_iff).mpr h
      rw [hl, hn, Option.or_none]
      simp only [finalize_value, hf]
      rfl
    · have hs : (Color.expression spec).fault? = some (.malformed spec.name .value) := if_neg h
      rw [ExprSpec.lowered?_of_not_valued h, hs]
      cases c.failure <;> rfl

end Chain

namespace Recipe

/-- The fragment that the chain of a recipe has gathered at its end. -/
def fragment (r : Recipe) : Fragment := (Chain.empty.run r.steps).value.fragment r.color

/-- All expressions in the order of their use, that of the colour last. -/
def specs (r : Recipe) : List ExprSpec := r.steps.filterMap Step.spec? ++ r.color.spec?.toList

/-- The first fault. -/
def fault? (r : Recipe) : Option Fault := r.specs.findSome? ExprSpec.fault?

lemma fault?_eq_none_iff (r : Recipe) : r.fault? = none ↔ ∀ s ∈ r.specs, s.Valued := by
  simp [fault?, List.findSome?_eq_none_iff, ExprSpec.fault?_eq_none_iff]

lemma findSome?_spec? (steps : List Step) :
    (steps.filterMap Step.spec?).findSome? ExprSpec.fault? = steps.findSome? Step.fault? := by
  induction steps with
  | nil => rfl
  | cons s steps ih =>
    cases h : s.spec? <;> simp [h, ih, Step.fault?, List.findSome?_cons]

lemma fault?_eq (r : Recipe) :
    r.fault? = (r.steps.findSome? Step.fault?).or r.color.fault? := by
  rw [fault?, specs, List.findSome?_append, findSome?_spec?]
  cases h : r.color.spec? <;> simp [Color.fault?, h]

lemma fragment_eq (r : Recipe) :
    r.fragment =
      { headers := r.steps.filterMap Step.header?
        body := Step.body 0 r.steps ++ r.color.helpers (Step.total r.steps)
        color := r.color.value (Step.total r.steps) } := by
  simp [fragment, Chain.run_value, Chain.fragment, Chain.empty, NameSupply.advance,
    NameSupply.start]

/-- A recipe gives its first fault, or the program of its fragment. -/
theorem assemble_value (r : Recipe) :
    r.assemble.value =
      match r.fault? with
      | some fault => .error fault
      | none => .ok ⟨r.fragment.render⟩ := by
  have hrun : r.assemble.value = ((Chain.empty.run r.steps).value.finish r.color).value := rfl
  have hfail : (Chain.empty.run r.steps).value.failure = r.steps.findSome? Step.fault? := by
    simp [Chain.run_value, Chain.empty]
  rw [hrun, Chain.finish_value, hfail, ← fault?_eq]
  rfl

end Recipe

end ShaderLoom
