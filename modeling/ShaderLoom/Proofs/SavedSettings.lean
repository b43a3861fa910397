import Mathlib.Tactic.FinCases
import ShaderLoom.Config.Disk
import ShaderLoom.Proofs.GivenSettings
import ShaderLoom.Proofs.WrittenDocument

/-!
Settings that are saved are loaded again.

The text of settings is a document of three tables, so what is loaded are its entries; decoding
undoes each of them. Whether the settings can be rendered is asked by the loader alone.
-/

namespace ShaderLoom.Settings

open Toml

/-! ### The tables of settings -/

def renderGroup (r : RenderSettings) : Group where
  name := { name := "render" }
  entries :=
    [({ name := "target_fps" }, .number r.targetFps), ({ name := "vsync" }, .truth r.vsync)]
  nodup := by simp

def windowGroup (w : WindowSettings) : Group where
  name := { name := "window" }
  entries := [({ name := "title" }, .text w.title), ({ name := "width" }, .number w.width),
    ({ name := "height" }, .number w.height)]
  nodup := by simp

def loggingGroup (l : LoggingSettings) : Group where
  name := { name := "logging" }
  entries := [({ name := "level" }, .text l.level.name)]
  nodup := by simp

def groups (s : Settings) : List Group :=
  [renderGroup s.render, windowGroup s.window, loggingGroup s.logging]

lemma toList_number (n : UInt32) : (toString n.toNat).toList = (Item.number n).written := by
  simp [Item.written]

lemma toList_boolText (b : Bool) : (boolText b).toList = (Item.truth b).written := by
  cases b <;> rfl

lemma toList_quoted (s : String) : (quoted s).toList = (Item.text s).written := by
  simp [quoted, Item.written]

/-- The text of settings is that of their tables. -/
lemma toList_toText (s : Settings) : s.toText.toList = (layout s.groups).flatMap Line.written := by
  unfold toText
  simp only [String.toList_append, toList_number, toList_boolText, toList_quoted]
  simp only [groups, layout, renderGroup, windowGroup, loggingGroup, Group.lines, List.map_cons,
    List.map_nil, List.flatMap_cons, List.flatMap_nil, List.flatMap_append, Line.written]
  simp only [List.append_assoc, List.cons_append, List.nil_append, List.append_nil]
  rfl

/-! ### Decoding -/

/-- All settings, each of them given. -/
def Given.all (s : Settings) : Given where
  targetFps := some s.render.targetFps
  vsync := some s.render.vsync
  title := some s.window.title
  width := some s.window.width
  height := some s.window.height
  level := some s.logging.level

lemma says_groups (s : Settings) : Says (s.groups.map Group.table) (Given.all s) := by
  refine ⟨fun name hname v hv => ?_, rfl, rfl, rfl, rfl, rfl, rfl⟩
  fin_cases hname <;> cases hv <;> exact ⟨_, _, rfl⟩

/-- The entries of the three tables give back the settings. -/
lemma ofEntries?_tables (s : Settings) : ofEntries? (s.groups.map Group.table) = some s :=
  ofEntries?_given s.says_groups

lemma ofText?_toText (s : Settings) : ofText? s.toText = some s := by
  have hread : document s.toText.toList = some (s.groups.map Group.table) := by
    rw [toList_toText]
    exact document_written s.groups (by simp [groups, renderGroup, windowGroup, loggingGroup])
  rw [ofText?, hread, Option.bind_some, ofEntries?_tables]

/-! ### Files -/

lemma fromUTF8?_toUTF8 (text : String) : String.fromUTF8? text.toUTF8 = some text := by
  have hvalid : text.toUTF8.IsValidUTF8 := text.isValidUTF8
  rw [String.fromUTF8?, dif_pos hvalid]
  rfl

lemma load_text (text : String) : load (some text.toUTF8) = ofText text := by
  simp only [load, fromUTF8?_toUTF8]

/-- What is loaded of a text that is read as settings. -/
lemma load_of_some {text : String} {s : Settings} (h : ofText? text = some s) :
    s.validate = .ok () ∧ load (some text.toUTF8) = .ok s ∨
      ∃ cause, s.validate = .error (.config cause) ∧
        load (some text.toUTF8) = .error (.refused (.config cause)) := by
  rw [load_text, ofText, h]
  cases hproblem : s.problem? with
  | none => simp [validate, hproblem]
  | some cause => simp [validate, hproblem]

/-- What is loaded of the text of settings. -/
lemma load_toText (s : Settings) :
    s.validate = .ok () ∧ load (some s.toText.toUTF8) = .ok s ∨
      ∃ cause, s.validate = .error (.config cause) ∧
        load (some s.toText.toUTF8) = .error (.refused (.config cause)) :=
  load_of_some s.ofText?_toText

/-- **Saved settings**: a file that can be written is written, and loading it gives exactly the
settings that were saved if they can be rendered, and otherwise says what is wrong with them. -/
theorem load_saved (s : Settings) {path : String} {d : Disk}
    (hpath : d.writable (d.resolve path) = true) :
    ∃ saved, s.save path d = .ok saved ∧
      (s.validate = .ok () ∧ loadFrom path saved = .ok s ∨
        ∃ cause, s.validate = .error (.config cause) ∧
          loadFrom path saved = .error (.refused (.config cause))) := by
  obtain ⟨saved, hsave, hread⟩ := Disk.exists_write hpath s.toText.toUTF8
  refine ⟨saved, hsave, ?_⟩
  rw [loadFrom, hread]
  exact load_toText s

/-- A title that fits none of the forms without escapes: three quotes of each kind, a backslash,
line ends and control characters. -/
def awkward : Settings where
  render := ⟨4294967295, false⟩
  window := ⟨"\"\"\"'''\\\r\n\t\x00\x7fé", 1, 4294967295⟩
  logging := ⟨.all⟩

def emptyDisk : Disk := ⟨id, fun _ => none, fun _ => true⟩

/-- Settings with an awkward title, saved and loaded. -/
theorem load_saved_awkward :
    emptyDisk.writable (emptyDisk.resolve "config.toml") = true ∧
      ∃ saved, awkward.save "config.toml" emptyDisk = .ok saved ∧
        loadFrom "config.toml" saved = .ok awkward := by
  have hpath : emptyDisk.writable (emptyDisk.resolve "config.toml") = true := rfl
  obtain ⟨saved, hsave, hload⟩ := load_saved awkward hpath
  have hvalid : awkward.validate = .ok () := rfl
  refine ⟨hpath, saved, hsave, ?_⟩
  rcases hload with ⟨-, hload⟩ | ⟨cause, hcause, -⟩
  · exact hload
  · rw [hvalid] at hcause
    cases hcause

end ShaderLoom.Settings
