import ShaderLoom.App.Launch
import ShaderLoom.Proofs.Arguments
import ShaderLoom.Proofs.Assembly

/-!
What a launch comes to.

The stages are passed in one order: the arguments, the file, the rate that overrides it, the list
of demos, the program. Each way to end says that the stages before it were passed, so a launch
ends in exactly one way, and what it has done on its way is what belongs to the stages it passed.
-/

namespace ShaderLoom

namespace Demo

/-- Every demo gives all its expressions a value. -/
lemma fault?_every : ∀ demo ∈ every, demo.recipe.fault? = none := by decide

lemma program_of_not_mem {name : String} (h : name ∉ names) :
    program name = pure (.error (.config (.unknownDemo name))) := by
  have hnone : every.find? (·.name = name) = none := by
    rw [List.find?_eq_none]
    intro demo hdemo hname
    exact h (List.mem_map.mpr ⟨demo, hdemo, of_decide_eq_true hname⟩)
  rw [program, hnone]

lemma exists_program {name : String} (h : name ∈ names) :
    ∃ p, (program name).value = .ok p := by
  obtain ⟨demo, hdemo, hname⟩ := List.mem_map.mp h
  obtain ⟨found, hfound⟩ : ∃ found, every.find? (·.name = name) = some found :=
    Option.isSome_iff_exists.mp (List.find?_isSome.mpr ⟨demo, hdemo, decide_eq_true hname⟩)
  have hvalue := found.recipe.assemble_value
  rw [fault?_every found (List.mem_of_find?_eq_some hfound)] at hvalue
  exact ⟨_, by rw [program, hfound]; exact hvalue⟩

end Demo

namespace Settings

/-- Settings that can be rendered. -/
def Renderable (s : Settings) : Prop :=
  s.render.targetFps ≠ 0 ∧ s.window.width ≠ 0 ∧ s.window.height ≠ 0

instance (s : Settings) : Decidable s.Renderable := inferInstanceAs (Decidable (_ ∧ _ ∧ _))

lemma validate_eq_ok {s : Settings} : s.validate = .ok () ↔ s.Renderable := by
  rw [Renderable, ← problem?_eq_none_iff, validate]
  cases s.problem? <;> simp

lemma validate_zeroRate {s : Settings} (h : s.render.targetFps = 0) :
    s.validate = .error (.config .zeroRate) := by
  simp [validate, problem?, h]

/-- A file with this content describes these settings, good or not. -/
def Holds (content : Option ByteArray) (s : Settings) : Prop :=
  ∃ bytes text, content = some bytes ∧ String.fromUTF8? bytes = some text ∧ ofText? text = some s

/-- What a file with this content comes to: settings that can be rendered, or the first thing
that is wrong with it. -/
def Loads (content : Option ByteArray) : Except LoadError Settings → Prop
  | .ok s => Holds content s ∧ s.Renderable
  | .error .unreadable => ∀ bytes, content = some bytes → String.fromUTF8? bytes = none
  | .error .unparsable =>
    ∃ bytes text, content = some bytes ∧ String.fromUTF8? bytes = some text ∧ ofText? text = none
  | .error (.refused fault) => ∃ s, Holds content s ∧ s.validate = .error fault

variable {content : Option ByteArray}

lemma load_of_loads {r : Except LoadError Settings} (h : Loads content r) : load content = r := by
  match r, h with
  | .ok s, ⟨⟨bytes, text, hbytes, htext, hsettings⟩, hgood⟩ =>
    simp only [load, ofText, hbytes, htext, hsettings, validate_eq_ok.mpr hgood]
  | .error .unreadable, h =>
    cases hbytes : content with
    | none => rfl
    | some bytes => simp only [load, h bytes hbytes]
  | .error .unparsable, ⟨bytes, text, hbytes, htext, hnone⟩ =>
    simp only [load, ofText, hbytes, htext, hnone]
  | .error (.refused fault), ⟨s, ⟨bytes, text, hbytes, htext, hsettings⟩, hfault⟩ =>
    simp only [load, ofText, hbytes, htext, hsettings, hfault]

lemma exists_loads (content : Option ByteArray) : ∃ r, Loads content r := by
  cases hbytes : content with
  | none => exact ⟨.error .unreadable, nofun⟩
  | some bytes =>
    cases htext : String.fromUTF8? bytes with
    | none => exact ⟨.error .unreadable, fun _ h => Option.some.inj h ▸ htext⟩
    | some text =>
      cases hsettings : ofText? text with
      | none => exact ⟨.error .unparsable, bytes, text, rfl, htext, hsettings⟩
      | some s =>
        have hholds : Holds (some bytes) s := ⟨bytes, text, rfl, htext, hsettings⟩
        cases hvalid : s.validate with
        | ok => exact ⟨.ok s, hholds, validate_eq_ok.mp hvalid⟩
        | error fault => exact ⟨.error (.refused fault), s, hholds, hvalid⟩

end Settings

namespace Launch

open Argument

/-! ### The stages -/

section

variable (files : String → Option ByteArray) (as : List Argument)

/-- What the file that is named last comes to, or the defaults if none is named. -/
def Base (r : Except LoadError Settings) : Prop :=
  match last? path? as with
  | none => r = .ok .default
  | some path => Settings.Loads (files path) r

/-- Settings with the rate that is given last, if one is. -/
def rated (s : Settings) : Settings :=
  { s with render := { s.render with targetFps := (last? fps? as).getD s.render.targetFps } }

/-- The demo that is named last, or the first there is. -/
def chosenDemo : String := (last? demo? as).getD (Demo.names.head (by decide))

/-- No rate is refused. -/
def Readable : Prop := as.findSome? badRate? = none

instance : Decidable (Readable as) := inferInstanceAs (Decidable (_ = none))

/-- The arguments, the file and the override are good, and these are the settings. -/
structure Prepared (s : Settings) : Prop where
  readable : Readable as
  settings : ∃ b, Base files as (.ok b) ∧ s = rated as b
  renderable : s.Renderable

/-- The first of the arguments, the file and the override that is not good, and why. -/
def Stops : LaunchError → Prop
  | .badRate text => as.findSome? badRate? = some text
  | .config e => Readable as ∧ Base files as (.error e)
  | .fault f => Readable as ∧ ∃ b, Base files as (.ok b) ∧ (rated as b).validate = .error f

/-- Why a launch ends as it does. -/
def EndsAs : Launch → Prop
  | .refused e =>
    Stops files as e ∨
      (∃ s, Prepared files as s) ∧ .list ∉ as ∧ chosenDemo as ∉ Demo.names ∧
        e = .fault (.config (.unknownDemo (chosenDemo as)))
  | .listed names => (∃ s, Prepared files as s) ∧ .list ∈ as ∧ names = Demo.names
  | .ready s program =>
    Prepared files as s ∧ .list ∉ as ∧ (Demo.program (chosenDemo as)).value = .ok program

end

variable {files : String → Option ByteArray} {as : List Argument} {args : List String}

lemma exists_base (files : String → Option ByteArray) (as : List Argument) :
    ∃ r, Base files as r := by
  unfold Base
  split
  · exact ⟨_, rfl⟩
  · exact Settings.exists_loads _

lemma stops_or_prepared (files : String → Option ByteArray) (as : List Argument) :
    (∃ e, Stops files as e) ∨ ∃ s, Prepared files as s := by
  cases hrate : as.findSome? badRate? with
  | some text => exact .inl ⟨.badRate text, hrate⟩
  | none =>
    obtain ⟨e | b, hbase⟩ := exists_base files as
    · exact .inl ⟨.config e, hrate, hbase⟩
    · cases hvalid : (rated as b).validate with
      | error f => exact .inl ⟨.fault f, hrate, b, hbase, hvalid⟩
      | ok => exact .inr ⟨rated as b, hrate, ⟨b, hbase, rfl⟩, Settings.validate_eq_ok.mp hvalid⟩

/-! ### The plan, stage by stage -/

lemma override_eq (s : Settings) : override (last? fps? as) s = rated as s := by
  unfold override rated
  cases last? fps? as <;> rfl

lemma configured_of_base (h : Readable (read args)) {r : Except LoadError Settings}
    (hbase : Base files (read args) r) : configured files (Options.parse args).options = r := by
  rw [Options.options_parse h, configured]
  unfold Base at hbase
  split at hbase
  · next hnone => rw [hbase, hnone]
  · next path hpath => rw [hpath]; exact Settings.load_of_loads hbase

lemma consulted_eq (args : List String) :
    consulted (Options.parse args) =
      if Readable (read args) then last? path? (read args) else none := by
  rw [consulted, Options.refused_parse]
  cases h : (read args).findSome? badRate? with
  | some text => rw [if_neg (by simp [Readable, h])]
  | none => rw [if_pos (show Readable _ from h), Options.options_parse h]

lemma prepare_of_base (h : Readable (read args)) {r : Except LoadError Settings}
    (hbase : Base files (read args) r) :
    prepare files (Options.parse args) =
      match r with
      | .error e => .error (.config e)
      | .ok b =>
        match (rated (read args) b).validate with
        | .error f => .error (.fault f)
        | .ok () => .ok (rated (read args) b) := by
  rw [prepare, Options.refused_parse, h, configured_of_base h hbase]
  cases r with
  | error e => rfl
  | ok b =>
    cases hvalid : (rated (read args) b).validate <;>
      simp only [Options.options_parse h, override_eq, hvalid]

lemma prepare_of_stops {e : LaunchError} (h : Stops files (read args) e) :
    prepare files (Options.parse args) = .error e := by
  cases e with
  | badRate text => rw [prepare, Options.refused_parse, h]
  | config e =>
    obtain ⟨hrate, hbase⟩ := h
    rw [prepare_of_base hrate hbase]
  | fault f =>
    obtain ⟨hrate, b, hbase, hvalid⟩ := h
    simp only [prepare_of_base hrate hbase, hvalid]

lemma prepare_of_prepared {s : Settings} (h : Prepared files (read args) s) :
    prepare files (Options.parse args) = .ok s := by
  obtain ⟨b, hbase, rfl⟩ := h.settings
  simp only [prepare_of_base h.readable hbase, Settings.validate_eq_ok.mpr h.renderable]

/-- The stages after the settings. -/
lemma proceed_eq (h : Readable (read args)) (s : Settings) :
    proceed (Options.parse args).options s =
      if .list ∈ read args then pure (.listed Demo.names)
      else start (chosenDemo (read args)) s := by
  rw [Options.options_parse h, proceed]
  simp only [decide_eq_true_eq]
  rfl

lemma start_unknown {demo : String} (h : demo ∉ Demo.names) (s : Settings) :
    (start demo s).value = .refused (.fault (.config (.unknownDemo demo))) := by
  rw [start, Demo.program_of_not_mem h]
  rfl

lemma start_known {demo : String} {program : Program}
    (h : (Demo.program demo).value = .ok program) (s : Settings) :
    (start demo s).value = .ready s program := by
  rw [start, Journal.value_bind, Journal.value_bind, h]
  rfl

lemma start_notices (demo : String) (s : Settings) :
    (start demo s).notices = .log ⟨.info, greeting demo⟩ :: (Demo.program demo).notices := by
  rw [start, Journal.notices_bind, Journal.notices_bind, Journal.notices_log]
  cases (Demo.program demo).value <;> simp

lemma plan_file (files : String → Option ByteArray) (args : List String) :
    (plan files args).file = consulted (Options.parse args) := by
  simp only [plan]
  cases prepare files (Options.parse args) <;> rfl

lemma plan_unheard (files : String → Option ByteArray) (args : List String) :
    (plan files args).unheard = (Options.parse args).warnings := by
  simp only [plan]
  cases prepare files (Options.parse args) <;> rfl

/-- Only the file that is consulted is looked at. -/
lemma plan_congr {files' : String → Option ByteArray}
    (h : ∀ path, (plan files args).file = some path → files' path = files path) :
    plan files' args = plan files args := by
  have hprepare : prepare files' (Options.parse args) = prepare files (Options.parse args) := by
    rw [plan_file, consulted] at h
    unfold prepare
    cases hrefused : (Options.parse args).refused with
    | some text => rfl
    | none =>
      rw [hrefused] at h
      unfold configured
      cases hpath : (Options.parse args).options.configPath with
      | none => rfl
      | some path => simp only [h path hpath]
  rw [plan, plan, hprepare]

lemma plan_of_stops {e : LaunchError} (h : Stops files (read args) e) :
    plan files args =
      ⟨consulted (Options.parse args), (Options.parse args).warnings, none, [], .refused e⟩ := by
  rw [plan, prepare_of_stops h]

lemma plan_of_prepared {s : Settings} (h : Prepared files (read args) s) :
    plan files args =
      ⟨consulted (Options.parse args), (Options.parse args).warnings, some s.logging.level,
        (proceed (Options.parse args).options s).notices,
        (proceed (Options.parse args).options s).value⟩ := by
  rw [plan, prepare_of_prepared h]

/-! ### The whole launch -/

lemma outcome_of_endsAs {l : Launch} (h : EndsAs files (read args) l) :
    (plan files args).outcome = l := by
  cases l with
  | refused e =>
    rcases h with hstops | ⟨⟨s, hs⟩, hlist, hdemo, rfl⟩
    · rw [plan_of_stops hstops]
    · rw [plan_of_prepared hs, proceed_eq hs.readable, if_neg hlist]
      exact start_unknown hdemo s
  | listed names =>
    obtain ⟨⟨s, hs⟩, hlist, rfl⟩ := h
    rw [plan_of_prepared hs, proceed_eq hs.readable, if_pos hlist]
    rfl
  | ready s program =>
    obtain ⟨hs, hlist, hprogram⟩ := h
    rw [plan_of_prepared hs, proceed_eq hs.readable, if_neg hlist]
    exact start_known hprogram s

lemma exists_endsAs (files : String → Option ByteArray) (as : List Argument) :
    ∃ l, EndsAs files as l := by
  rcases stops_or_prepared files as with ⟨e, he⟩ | ⟨s, hs⟩
  · exact ⟨.refused e, .inl he⟩
  · by_cases hlist : .list ∈ as
    · exact ⟨.listed Demo.names, ⟨s, hs⟩, hlist, rfl⟩
    · by_cases hdemo : chosenDemo as ∈ Demo.names
      · obtain ⟨program, hprogram⟩ := Demo.exists_program hdemo
        exact ⟨.ready s program, hs, hlist, hprogram⟩
      · exact ⟨.refused _, .inr ⟨⟨s, hs⟩, hlist, hdemo, rfl⟩⟩

/-- A launch ends in exactly one way. -/
lemma outcome_iff (files : String → Option ByteArray) (args : List String) (l : Launch) :
    (plan files args).outcome = l ↔ EndsAs files (read args) l := by
  refine ⟨fun h => ?_, outcome_of_endsAs⟩
  obtain ⟨m, hm⟩ := exists_endsAs files (read args)
  rwa [← h, outcome_of_endsAs hm]

lemma ending?_iff (l : Launch) :
    l.ending? = some ⟨0, Demo.names, none⟩ ↔ l = .listed Demo.names := by
  cases l <;> simp [ending?, Ending.failed]

lemma diagnostics_iff (files : String → Option ByteArray) (args : List String) (v : Verbosity) :
    (plan files args).diagnostics = some v ↔
      ∃ s, Prepared files (read args) s ∧ v = s.logging.level := by
  constructor
  · intro h
    rcases stops_or_prepared files (read args) with ⟨e, he⟩ | ⟨s, hs⟩
    · rw [plan_of_stops he] at h
      cases h
    · rw [plan_of_prepared hs] at h
      exact ⟨s, hs, (Option.some.inj h).symm⟩
  · rintro ⟨s, hs, rfl⟩
    rw [plan_of_prepared hs]

/-- What is said: nothing until the settings are good, and nothing when the demos are listed. -/
lemma notices_eq (files : String → Option ByteArray) (args : List String) :
    (plan files args).notices =
      if (plan files args).diagnostics = none ∨ .list ∈ read args then []
      else .log ⟨.info, greeting (chosenDemo (read args))⟩ ::
        (Demo.program (chosenDemo (read args))).notices := by
  rcases stops_or_prepared files (read args) with ⟨e, he⟩ | ⟨s, hs⟩
  · rw [plan_of_stops he, if_pos (.inl rfl)]
  · rw [plan_of_prepared hs, proceed_eq hs.readable]
    by_cases hlist : .list ∈ read args
    · simp [hlist]
    · simp [hlist, start_notices]

/-- What a launch does, given what the arguments read. -/
structure Course (files : String → Option ByteArray) (as : List Argument) (r : Report) : Prop where
  /-- The first stage that refuses ends it, the list ends it well, and else a window is opened. -/
  outcome : ∀ l, r.outcome = l ↔ EndsAs files as l
  /-- A window is opened with settings that can be rendered. -/
  renderable : ∀ s program, r.outcome = .ready s program →
    s.render.targetFps ≠ 0 ∧ s.window.width ≠ 0 ∧ s.window.height ≠ 0
  /-- The arguments are read up to the one that is refused. -/
  unheard : r.unheard = (as.takeWhile (·.badRate?.isNone)).filterMap warning?
  /-- No file is read before the arguments are good. -/
  file : r.file = if Readable as then last? path? as else none
  /-- The diagnostics are set up when the settings are good, and not before. -/
  diagnostics : ∀ v, r.diagnostics = some v ↔ ∃ s, Prepared files as s ∧ v = s.logging.level
  notices : r.notices =
    if r.diagnostics = none ∨ .list ∈ as then []
    else .log ⟨.info, greeting (chosenDemo as)⟩ :: (Demo.program (chosenDemo as)).notices
  /-- The names of the demos are printed, whatever demo is named. -/
  listing : r.outcome.ending? = some ⟨0, Demo.names, none⟩ ↔
    (∃ s, Prepared files as s) ∧ .list ∈ as
  /-- No rate of the arguments rescues a file whose own rate is zero. -/
  rescue : Readable as → ∀ path s, last? path? as = some path → Settings.Holds (files path) s →
    s.render.targetFps = 0 → r.outcome = .refused (.config (.refused (.config .zeroRate)))
  /-- A rate of zero is refused, however good the file is. -/
  override : Readable as → ∀ s, Base files as (.ok s) → last? fps? as = some 0 →
    r.outcome = .refused (.fault (.config .zeroRate))

/-- There is one file, and its rate is zero. -/
def zeroFile (path : String) : Option ByteArray :=
  if path = "zero.toml" then some "[render]\ntarget_fps = 0\n".toUTF8 else none

end Launch

end ShaderLoom
