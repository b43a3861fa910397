import Mathlib.Data.List.Nodup
import Mathlib.Tactic.Lemma
import ShaderLoom.Shader.Recipe

/-!
What the calls make of an expression, and what lowering makes of it.

A call adds at most one helper and sets at most one value, whose hole stands for the helper of
the same call. So an expression has the helpers of its calls in order and the value of the last
call that sets one, and no hole ever lies beyond the helpers. Lowering gives the helpers the
next names of the supply, in order.
-/

namespace ShaderLoom

lemma Template.resolve_cons (names : List String) (p : Piece) (t : Template) :
    Template.resolve names (p :: t) = Template.fill names p ++ Template.resolve names t := by
  simp [Template.resolve, String.join_cons]

namespace ExprCall

open Expression

/-- Circles and noise need a helper. -/
def addsHelper : ExprCall → Bool
  | .circle .. => true
  | .noise _ => true
  | _ => false

/-- Every call but the one that gives the type sets the value. -/
def setsValue : ExprCall → Bool
  | .typed _ => false
  | _ => true

def type? : ExprCall → Option ValueType
  | .typed type => some type
  | _ => none

def helper? : ExprCall → Option Helper
  | .circle x y _ _ => some ⟨.float, Template.raw (distanceText x y).value⟩
  | .noise scale => some ⟨.float, Template.raw (hashText scale).value⟩
  | _ => none

/-- The value that a call sets when `i` helpers stand before its own. -/
def value? (i : Nat) : ExprCall → Option Template
  | .typed _ => none
  | .expression text => some (Template.raw text)
  | .circle _ _ radius smooth => some [.text (discText radius smooth).value, .helper i, .text ")"]
  | .wave axis frequency speed => some (Template.raw (waveText axis frequency speed).value)
  | .noise _ => some [.text "fract(", .helper i, .text ")"]

lemma value?_isSome (i : Nat) (c : ExprCall) : (c.value? i).isSome = c.setsValue := by
  cases c <;> rfl

lemma length_helper? (c : ExprCall) : c.helper?.toList.length = c.addsHelper.toNat := by
  cases c <;> rfl

lemma value?_within {i : Nat} {c : ExprCall} {v : Template} (h : c.value? i = some v) :
    v.Within (i + c.addsHelper.toNat) := by
  intro j hj
  cases c <;> simp [value?] at h <;> subst h <;> simp_all [Template.raw, addsHelper]

lemma helper?_within {c : ExprCall} {h : Helper} (hc : c.helper? = some h) (n : Nat) :
    h.value.Within n := by
  cases c <;> simp [helper?] at hc <;> subst hc <;> exact Template.within_raw n _

/-! ### Sequences of calls -/

def lastType : List ExprCall → Option ValueType
  | [] => none
  | c :: cs => (lastType cs).or c.type?

/-- The value set last, when `i` helpers stand before those of the calls. -/
def lastValue (i : Nat) : List ExprCall → Option Template
  | [] => none
  | c :: cs => (lastValue (i + c.addsHelper.toNat) cs).or (c.value? i)

def allHelpers (cs : List ExprCall) : List Helper := cs.filterMap helper?

lemma allHelpers_cons (c : ExprCall) (cs : List ExprCall) :
    allHelpers (c :: cs) = c.helper?.toList ++ allHelpers cs := by
  cases h : c.helper? <;> simp [allHelpers, h]

lemma length_allHelpers (cs : List ExprCall) : (allHelpers cs).length = cs.countP addsHelper := by
  induction cs with
  | nil => rfl
  | cons c cs ih =>
    rw [allHelpers_cons, List.length_append, length_helper?, ih, List.countP_cons]
    cases c.addsHelper <;> simp [Nat.add_comm]

lemma lastValue_isSome (i : Nat) (cs : List ExprCall) :
    (lastValue i cs).isSome = cs.any setsValue := by
  induction cs generalizing i with
  | nil => rfl
  | cons c cs ih => simp [lastValue, ih, value?_isSome, Bool.or_comm]

end ExprCall

namespace Expression

open ExprCall

/-- What one call does. -/
lemma call_value (e : Expression) (c : ExprCall) :
    (e.call c).value =
      { name := e.name
        type := c.type?.or e.type
        value := (c.value? e.helpers.length).or e.value
        helpers := e.helpers ++ c.helper?.toList } := by
  cases c <;> simp [call, withHelper, type?, value?, helper?]

lemma callAll_cons (e : Expression) (c : ExprCall) (cs : List ExprCall) :
    (e.callAll (c :: cs)).value = ((e.call c).value.callAll cs).value := rfl

/-- What a sequence of calls does. -/
theorem callAll_value (e : Expression) (cs : List ExprCall) :
    (e.callAll cs).value =
      { name := e.name
        type := (lastType cs).or e.type
        value := (lastValue e.helpers.length cs).or e.value
        helpers := e.helpers ++ allHelpers cs } := by
  induction cs generalizing e with
  | nil => simp [callAll, lastType, lastValue, allHelpers]
  | cons c cs ih =>
    rw [callAll_cons, ih, call_value]
    simp [lastType, lastValue, allHelpers_cons, length_helper?, Option.or_assoc]

/-- What an expression is that was made by calls alone. -/
theorem ofCalls_value (name : String) (cs : List ExprCall) :
    (ofCalls name cs).value = ⟨name, lastType cs, lastValue 0 cs, allHelpers cs⟩ := by
  rw [ofCalls, callAll_value]
  simp [named]

/-! ### Scope -/

/-- A helper refers only to those before it, and the value to any of them. -/
structure WellScoped (e : Expression) : Prop where
  helper : ∀ i (h : Helper), e.helpers[i]? = some h → h.value.Within i
  value : ∀ v, e.value = some v → v.Within e.helpers.length

lemma wellScoped_named (name : String) : (named name).WellScoped :=
  ⟨fun i h hi => by simp [named] at hi, fun v hv => by simp [named] at hv⟩

lemma WellScoped.call {e : Expression} (h : e.WellScoped) (c : ExprCall) :
    (e.call c).value.WellScoped := by
  rw [call_value]
  refine ⟨fun i d hd => ?_, fun v hv => ?_⟩
  · rcases Nat.lt_or_ge i e.helpers.length with hi | hi
    · exact h.helper i d (by simpa [List.getElem?_append_left hi] using hd)
    · rw [List.getElem?_append_right hi] at hd
      exact helper?_within (by simpa using List.mem_of_getElem? hd) i
  · simp only [List.length_append, length_helper?]
    rcases Option.or_eq_some_iff.mp hv with hc | ⟨-, he⟩
    · exact value?_within hc
    · exact (h.value v he).mono (Nat.le_add_right _ _)

lemma WellScoped.callAll {e : Expression} (h : e.WellScoped) (cs : List ExprCall) :
    (e.callAll cs).value.WellScoped := by
  induction cs generalizing e with
  | nil => exact h
  | cons c cs ih => rw [callAll_cons]; exact ih (h.call c)

theorem wellScoped_ofCalls (name : String) (cs : List ExprCall) :
    (ofCalls name cs).value.WellScoped := (wellScoped_named name).callAll cs

end Expression

/-! ### Names -/

namespace NameSupply

/-- Different numbers give different names. -/
theorem nameAt_injective : Function.Injective nameAt := by
  intro i j h
  have hl := congrArg String.toList h
  simp only [nameAt, String.toList_append] at hl
  have hd := congrArg (fun ds => Nat.ofDigitChars 10 ds 0) (List.append_cancel_left hl)
  simpa [Nat.repr_eq_ofList_toDigits] using hd

lemma getD_names (s : NameSupply) {i k : Nat} (h : i < k) :
    (s.names k).getD i "" = nameAt (s.issued + i) := by
  simp [names, h]

lemma names_add (s : NameSupply) (j k : Nat) :
    s.names (j + k) = s.names j ++ (s.advance j).names k := by
  simp [names, advance, List.range_add, Nat.add_assoc, Function.comp_def]

lemma nodup_names (s : NameSupply) (k : Nat) : (s.names k).Nodup :=
  List.nodup_range.map fun _ _ h => Nat.add_left_cancel (nameAt_injective h)

end NameSupply

namespace Statement

def helperName? : Statement → Option String
  | helper name _ _ => some name
  | _ => none

/-- The names that the statements declare as helpers, in order. -/
def helperNames (body : List Statement) : List String := body.filterMap helperName?

@[simp] lemma helperNames_nil : helperNames [] = [] := rfl
@[simp] lemma helperNames_append (xs ys : List Statement) :
    helperNames (xs ++ ys) = helperNames xs ++ helperNames ys := List.filterMap_append

lemma helperNames_flatten (blocks : List (List Statement)) :
    helperNames blocks.flatten = blocks.flatMap helperNames := by
  rw [helperNames, List.filterMap_flatten, List.flatMap_def]
  rfl

end Statement

namespace Expression

open NameSupply Statement

lemma getElem?_helperStatements (e : Expression) (s : NameSupply) (i : Nat) :
    (e.helperStatements s)[i]? = e.helpers[i]?.map fun h =>
      .helper (nameAt (s.issued + i)) h.type (h.value.resolve (s.names i)) := by
  simp [helperStatements, List.getElem?_zipIdx, Option.map_map, Function.comp_def]

@[simp] lemma length_helperStatements (e : Expression) (s : NameSupply) :
    (e.helperStatements s).length = e.helpers.length := by
  simp [helperStatements]

lemma helperNames_helperStatements (e : Expression) (s : NameSupply) :
    helperNames (e.helperStatements s) = s.names e.helpers.length := by
  have hz : e.helpers.zipIdx.map Prod.snd = List.range e.helpers.length := by
    rw [List.zipIdx_map_snd, List.range_eq_range']
  rw [helperNames, helperStatements, List.filterMap_map, names, ← hz, List.map_map,
    ← List.filterMap_eq_map]
  rfl

end Expression

end ShaderLoom
