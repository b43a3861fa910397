import Mathlib.Data.List.Basic
import ShaderLoom.App.Options

/-!
The command line as a list of arguments.

An option takes the word after it, so the words are read from left to right two at a time, and
every word has one place in what is read. Parsing follows this reading: the first rate that is
none is refused, and otherwise the last argument of each kind counts.
-/

namespace ShaderLoom

/-- What the words of the command line are read as. -/
inductive Argument where
  | config (path : String)
  | demo (name : String)
  | rate (text : String)
  | list
  | ignored (word : String)
  deriving DecidableEq, Repr

namespace Argument

def words : Argument → List String
  | config path => ["--config", path]
  | demo name => ["--demo", name]
  | rate text => ["--fps", text]
  | list => ["--list"]
  | ignored word => [word]

/-- A word that takes no value. -/
def ofWord (word : String) : Argument := if word = "--list" then list else ignored word

/-- A word that takes the word after it. -/
def taking? (word value : String) : Option Argument :=
  if word = "--config" then some (config value)
  else if word = "--demo" then some (demo value)
  else if word = "--fps" then some (rate value)
  else none

def read : List String → List Argument
  | [] => []
  | [word] => [ofWord word]
  | word :: value :: rest =>
    match taking? word value with
    | some argument => argument :: read rest
    | none => ofWord word :: read (value :: rest)

lemma words_ofWord (word : String) : (ofWord word).words = [word] := by
  unfold ofWord
  split
  · next h => rw [h]; rfl
  · rfl

lemma taking?_cases {word value : String} {a : Argument} (h : taking? word value = some a) :
    (word = "--config" ∧ a = config value) ∨ (word = "--demo" ∧ a = demo value) ∨
      (word = "--fps" ∧ a = rate value) := by
  unfold taking? at h
  split_ifs at h with hconfig hdemo hrate
  · exact .inl ⟨hconfig, (Option.some.inj h).symm⟩
  · exact .inr (.inl ⟨hdemo, (Option.some.inj h).symm⟩)
  · exact .inr (.inr ⟨hrate, (Option.some.inj h).symm⟩)

lemma taking?_eq_none {word value : String} :
    taking? word value = none ↔ word ≠ "--config" ∧ word ≠ "--demo" ∧ word ≠ "--fps" := by
  unfold taking?
  split_ifs <;> simp_all

lemma words_taking? {word value : String} {a : Argument} (h : taking? word value = some a) :
    a.words = [word, value] := by
  rcases taking?_cases h with ⟨rfl, rfl⟩ | ⟨rfl, rfl⟩ | ⟨rfl, rfl⟩ <;> rfl

/-! ### What an argument says -/

def path? : Argument → Option String
  | config path => some path
  | _ => none

def demo? : Argument → Option String
  | demo name => some name
  | _ => none

def fps? : Argument → Option UInt32
  | rate text => Options.rate? text
  | _ => none

/-- The text of a rate that is none. -/
def badRate? : Argument → Option String
  | rate text => if Options.rate? text = none then some text else none
  | _ => none

def warning? : Argument → Option Record
  | ignored word => some ⟨.warn, "Argument ignoré: " ++ word⟩
  | _ => none

/-- The options when one argument more is given. -/
def given (o : Options) : Argument → Options
  | config path => { o with configPath := some path }
  | demo name => { o with demo := some name }
  | rate text => { o with fps := (Options.rate? text).or o.fps }
  | list => { o with list := true }
  | ignored _ => o

/-- The last thing said of a kind. -/
def last? {α : Type} (f : Argument → Option α) (arguments : List Argument) : Option α :=
  (arguments.filterMap f).getLast?

lemma last?_nil {α : Type} (f : Argument → Option α) : last? f [] = none := rfl

lemma last?_cons {α : Type} (f : Argument → Option α) (a : Argument) (as : List Argument) :
    last? f (a :: as) = (last? f as).or (f a) := by
  cases h : f a with
  | none => rw [last?, last?, List.filterMap_cons_none h, Option.or_none]
  | some x =>
    rw [last?, last?, List.filterMap_cons_some h, List.getLast?_cons]
    cases (as.filterMap f).getLast? <;> rfl

end Argument

namespace Options

open Argument

/-- The options when arguments are given on top of them. -/
def overlaid (o : Options) (arguments : List Argument) : Options where
  configPath := (last? path? arguments).or o.configPath
  demo := (last? demo? arguments).or o.demo
  fps := (last? fps? arguments).or o.fps
  list := o.list || decide (.list ∈ arguments)

lemma overlaid_nil (o : Options) : o.overlaid [] = o := by
  simp [overlaid, last?_nil]

lemma overlaid_cons (o : Options) (a : Argument) (as : List Argument) :
    o.overlaid (a :: as) = (given o a).overlaid as := by
  simp only [overlaid, last?_cons, Option.or_assoc, List.mem_cons]
  cases a <;> simp [given, path?, demo?, fps?]

/-- What is parsed from an argument that is not refused and from those after it. -/
def Parsed.after (p : Parsed) (a : Argument) : Parsed :=
  { p with warnings := a.warning?.toList ++ p.warnings }

/-- What is parsed from arguments, on top of the options given so far. -/
def ofArguments (o : Options) : List Argument → Parsed
  | [] => ⟨o, [], none⟩
  | a :: as =>
    match a.badRate? with
    | some text => ⟨o, [], some text⟩
    | none => (ofArguments (given o a) as).after a

/-- A word by itself lists the demos, or is ignored. -/
lemma ofArguments_ofWord (o : Options) (word : String) (as : List Argument) :
    o.ofArguments (ofWord word :: as) =
      if word = "--list" then { o with list := true }.ofArguments as
      else (o.ofArguments as).warn word := by
  unfold ofWord
  split <;> rfl

lemma parseFrom_taking? (o : Options) {word value : String} {a : Argument}
    (h : taking? word value = some a) (rest : List String) :
    parseFrom o (word :: value :: rest) =
      match a.badRate? with
      | some text => ⟨o, [], some text⟩
      | none => (parseFrom (given o a) rest).after a := by
  rcases taking?_cases h with ⟨rfl, rfl⟩ | ⟨rfl, rfl⟩ | ⟨rfl, rfl⟩
  · rfl
  · rfl
  · rw [parseFrom, if_neg (by decide), if_neg (by decide), if_pos rfl]
    cases hrate : rate? value <;> simp [badRate?, given, hrate, Parsed.after, warning?]

/-- Parsing follows the reading. -/
theorem parseFrom_eq (o : Options) (args : List String) :
    parseFrom o args = o.ofArguments (read args) := by
  fun_induction read args generalizing o with
  | case1 => rfl
  | case2 word => exact (o.ofArguments_ofWord word []).symm
  | case3 word value rest argument h ih =>
    rw [parseFrom_taking? o h, ofArguments]
    cases hbad : argument.badRate? with
    | some text => rfl
    | none => rw [ih]
  | case4 word value rest h ih =>
    obtain ⟨hconfig, hdemo, hrate⟩ := taking?_eq_none.mp h
    rw [parseFrom, if_neg hconfig, if_neg hdemo, if_neg hrate, ih, ih, ofArguments_ofWord]

lemma refused_ofArguments (o : Options) (as : List Argument) :
    (o.ofArguments as).refused = as.findSome? badRate? := by
  induction as generalizing o with
  | nil => rfl
  | cons a as ih =>
    rw [ofArguments, List.findSome?_cons]
    cases a.badRate? with
    | some text => rfl
    | none => exact ih (given o a)

lemma options_ofArguments (o : Options) {as : List Argument}
    (h : as.findSome? badRate? = none) : (o.ofArguments as).options = o.overlaid as := by
  induction as generalizing o with
  | nil => exact o.overlaid_nil.symm
  | cons a as ih =>
    obtain ⟨hbad, has⟩ : a.badRate? = none ∧ as.findSome? badRate? = none := by
      simpa [List.findSome?_eq_none_iff] using h
    rw [ofArguments, hbad, overlaid_cons]
    exact ih (given o a) has

lemma warnings_ofArguments (o : Options) (as : List Argument) :
    (o.ofArguments as).warnings =
      (as.takeWhile (·.badRate?.isNone)).filterMap warning? := by
  induction as generalizing o with
  | nil => rfl
  | cons a as ih =>
    rw [ofArguments]
    cases hbad : a.badRate? with
    | some text => simp [hbad]
    | none =>
      rw [List.takeWhile_cons_of_pos (by rw [hbad]; rfl), Parsed.after, ih]
      cases hwarning : a.warning? with
      | none => rw [List.filterMap_cons_none hwarning]; rfl
      | some record => rw [List.filterMap_cons_some hwarning]; rfl

/-- The first rate that is none is refused. -/
theorem refused_parse (args : List String) :
    (parse args).refused = (read args).findSome? badRate? := by
  rw [parse, parseFrom_eq, refused_ofArguments]

/-- If none is refused, the last argument of each kind counts. -/
theorem options_parse {args : List String} (h : (read args).findSome? badRate? = none) :
    (parse args).options =
      ⟨last? path? (read args), last? demo? (read args), last? fps? (read args),
        decide (.list ∈ read args)⟩ := by
  rw [parse, parseFrom_eq, options_ofArguments unset h]
  simp [overlaid, unset]

/-- Every word that is ignored is named in a warning, up to the rate that is refused. -/
theorem warnings_parse (args : List String) :
    (parse args).warnings = ((read args).takeWhile (·.badRate?.isNone)).filterMap warning? := by
  rw [parse, parseFrom_eq, warnings_ofArguments]

end Options

end ShaderLoom
