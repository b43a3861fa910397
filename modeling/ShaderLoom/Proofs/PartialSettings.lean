import ShaderLoom.Proofs.SavedSettings

/-!
Files that give some of the settings.

Whatever a document gives is put in the place of the defaults, and only then it is asked whether
the result can be rendered. A number that is too large or a level that has no such name is no
setting, and the file is refused. Where a file is refused the application goes on with the
defaults, so it never runs with settings that cannot be rendered.
-/

namespace ShaderLoom.Settings

open Toml

/-! ### What is loaded of a text -/

lemma load_of_none {text : String} (h : ofText? text = none) :
    load (some text.toUTF8) = .error .unparsable := by
  rw [load_text, ofText, h]

lemma ofText?_document {text : String} {es : Entries} (h : document text.toList = some es) :
    ofText? text = ofEntries? es := by
  rw [ofText?, h, Option.bind_some]

/-- Only settings that can be rendered are loaded. -/
lemma validate_of_load {content : Option ByteArray} {s : Settings} (h : load content = .ok s) :
    s.validate = .ok () := by
  unfold load at h
  split at h
  · cases h
  · split at h
    · cases h
    · unfold ofText at h
      split at h
      · cases h
      · split at h
        · next hvalid =>
          cases h
          exact hvalid
        · cases h

/-! ### What is no setting -/

/-- The keys whose values are whole numbers. -/
def wordKeys : List (String × String) :=
  [("render", "target_fps"), ("window", "width"), ("window", "height")]

/-- Some value is of the right kind, but not one of the values of its setting. -/
inductive Misfit (es : Entries) : Prop where
  | number (table key : String) (n : Int) (known : (table, key) ∈ wordKeys)
      (given : es.inTable? table key = some (.integer n)) (outside : n < 0 ∨ 4294967295 < n)
  | level (name : String) (given : es.inTable? "logging" "level" = some (.string name))
      (unknown : ∀ l : Verbosity, name ≠ l.name)

lemma ofEntries?_misfit {es : Entries} (h : Misfit es) : ofEntries? es = none := by
  refine Option.eq_none_iff_forall_ne_some.mpr fun s hs => ?_
  obtain ⟨hrender, hwindow, hlogging⟩ := ofEntries?_eq_some_iff.mp hs
  cases h with
  | number table key n hknown hgiven houtside =>
    obtain ⟨origin, inner, htable, hkey⟩ := exists_of_inTable? hgiven
    -- each reading of a whole number is within the bounds
    have hread : ∀ {w fallback : UInt32},
        orDefault Value.word? fallback (Entries.get? inner key) ≠ some w := by
      intro w fallback hw
      rw [hkey] at hw
      have hbounds := word?_integer hw
      omega
    simp only [wordKeys, List.mem_cons, Prod.mk.injEq, List.not_mem_nil, or_false] at hknown
    rcases hknown with ⟨rfl, rfl⟩ | ⟨rfl, rfl⟩ | ⟨rfl, rfl⟩
    · rw [htable] at hrender
      exact hread (renderOf?_table_iff.mp hrender).1
    · rw [htable] at hwindow
      exact hread (windowOf?_table_iff.mp hwindow).2.1
    · rw [htable] at hwindow
      exact hread (windowOf?_table_iff.mp hwindow).2.2
  | level name hgiven hunknown =>
    obtain ⟨origin, inner, htable, hkey⟩ := exists_of_inTable? hgiven
    rw [htable] at hlogging
    have hread := loggingOf?_table_iff.mp hlogging
    rw [hkey] at hread
    exact hunknown _ (eq_name_of_verbosity? hread)

/-! ### Every choice of settings -/

/-- Whether the setting with a key is given. -/
def Given.gives (g : Given) : String → Bool
  | "target_fps" => g.targetFps.isSome
  | "vsync" => g.vsync.isSome
  | "title" => g.title.isSome
  | "width" => g.width.isSome
  | "height" => g.height.isSome
  | "level" => g.level.isSome
  | _ => false

/-- The entries of a table that are given. -/
def Given.part (g : Given) (table : Group) : Group where
  name := table.name
  entries := table.entries.filter fun e => g.gives e.1.name
  nodup := table.nodup.sublist (List.filter_sublist.map _)

/-- The tables of all settings, with what is not given left out. -/
def Given.groups (g : Given) : List Group := g.settings.groups.map g.part

/-- There is a document that gives exactly these settings. -/
lemma exists_document (g : Given) :
    ∃ (text : String) (es : Entries), document text.toList = some es ∧ Says es g := by
  refine ⟨String.ofList ((layout g.groups).flatMap Line.written), g.groups.map Group.table, ?_, ?_⟩
  · rw [String.toList_ofList]
    refine document_written g.groups ?_
    have hnames : g.groups.map (·.name.name) = ["render", "window", "logging"] := rfl
    simp [hnames]
  · obtain ⟨fps, vsync, title, width, height, level⟩ := g
    refine ⟨fun name hname v hv => ?_, ?_, ?_, ?_, ?_, ?_, ?_⟩
    · fin_cases hname <;> cases hv <;> exact ⟨_, _, rfl⟩
    · cases fps <;> cases vsync <;> rfl
    · cases fps <;> cases vsync <;> rfl
    · cases title <;> cases width <;> cases height <;> rfl
    · cases title <;> cases width <;> cases height <;> rfl
    · cases title <;> cases width <;> cases height <;> rfl
    · cases level <;> rfl

/-- **Partial settings**: any choice of the settings can be given, and a document that gives
them is loaded as the defaults with these in their place, if they can be rendered, and is refused
for what is wrong with them if not, whatever else it holds. What is no document, a number that is
too large or too small and a level of no known name are refused as well. And whatever a file
holds, the application has settings that can be rendered: those of the file, or the defaults if
there are none to load. -/
theorem partial_settings_loaded :
    (∀ g : Given, ∃ (text : String) (es : Entries),
      document text.toList = some es ∧ Says es g) ∧
    (∀ (text : String) (es : Entries) (g : Given),
      document text.toList = some es → Says es g →
        g.settings.validate = .ok () ∧ load (some text.toUTF8) = .ok g.settings ∨
          ∃ fault, g.settings.validate = .error fault ∧
            load (some text.toUTF8) = .error (.refused fault)) ∧
    (∀ text : String,
      (document text.toList = none ∨ ∃ es, document text.toList = some es ∧ Misfit es) →
        load (some text.toUTF8) = .error .unparsable) ∧
    ∀ (path : String) (content : Option ByteArray),
      (loadOrDefault path content).value.validate = .ok () ∧
        (load content = .ok (loadOrDefault path content).value ∨
          (∃ e, load content = .error e) ∧ (loadOrDefault path content).value = default) := by
  refine ⟨exists_document, fun text es g hes hsays => ?_, fun text htext => ?_,
    fun path content => ?_⟩
  · have hread := (ofText?_document hes).trans (ofEntries?_given hsays)
    exact (load_of_some hread).imp_right fun ⟨cause, hcause⟩ => ⟨.config cause, hcause⟩
  · refine load_of_none ?_
    rcases htext with hnone | ⟨es, hes, hmisfit⟩
    · rw [ofText?, hnone, Option.bind_none]
    · rw [ofText?_document hes, ofEntries?_misfit hmisfit]
  · unfold loadOrDefault
    cases hload : load content with
    | ok s => exact ⟨validate_of_load hload, .inl rfl⟩
    | error e => exact ⟨rfl, .inr ⟨⟨e, rfl⟩, rfl⟩⟩

/-- Tables out of order, with other keys beside the settings, and a table that holds none. -/
def sparse : String :=
  "[window]\nheight = 1080\nicon = \"a.png\"\n\n[logging]\nlevel = \"debug\"\n\n" ++
    "[extra]\ntarget_fps = 0\n\n[render]\nwidth = 0\nvsync = false\n"

def sparseEntries : Entries :=
  [("window", .table .header [("height", .integer 1080), ("icon", .string "a.png")]),
    ("logging", .table .header [("level", .string "debug")]),
    ("extra", .table .header [("target_fps", .integer 0)]),
    ("render", .table .header [("width", .integer 0), ("vsync", .boolean false)])]

lemma document_sparse : document sparse.toList = some sparseEntries := by
  have hread := document_written
    [⟨⟨"window", by decide, by decide⟩, [(⟨"height", by decide, by decide⟩, .number 1080),
        (⟨"icon", by decide, by decide⟩, .text "a.png")], by simp⟩,
      ⟨⟨"logging", by decide, by decide⟩, [(⟨"level", by decide, by decide⟩, .text "debug")],
        by simp⟩,
      ⟨⟨"extra", by decide, by decide⟩, [(⟨"target_fps", by decide, by decide⟩, .number 0)],
        by simp⟩,
      ⟨⟨"render", by decide, by decide⟩, [(⟨"width", by decide, by decide⟩, .number 0),
        (⟨"vsync", by decide, by decide⟩, .truth false)], by simp⟩] (by simp)
  refine (congrArg document ?_).trans hread
  decide +kernel

/-- A document whose only setting is a level that is written in another case. -/
def shouted : String := "[logging]\nlevel = \"DEBUG\"\n"

lemma misfit_shouted : ∃ es, document shouted.toList = some es ∧ Misfit es := by
  have hread := document_written
    [⟨⟨"logging", by decide, by decide⟩, [(⟨"level", by decide, by decide⟩, .text "DEBUG")],
      by simp⟩] (by simp)
  exact ⟨_, hread, .level "DEBUG" rfl fun l => by cases l <;> decide⟩

/-- A document that gives three of the settings, and one that gives none of the levels. -/
theorem partial_settings_loaded_sparse :
    (document sparse.toList = some sparseEntries ∧
      Says sparseEntries { vsync := some false, height := some 1080, level := some .debug } ∧
      load (some sparse.toUTF8) =
        .ok ⟨⟨24, false⟩, ⟨"Pixel Shader", 800, 1080⟩, ⟨.debug⟩⟩) ∧
    (∃ es, document shouted.toList = some es ∧ Misfit es) ∧
      load (some shouted.toUTF8) = .error .unparsable := by
  have hsays : Says sparseEntries
      { vsync := some false, height := some 1080, level := some .debug } := by
    refine ⟨fun name hname v hv => ?_, rfl, rfl, rfl, rfl, rfl, rfl⟩
    fin_cases hname <;> cases hv <;> exact ⟨_, _, rfl⟩
  refine ⟨⟨document_sparse, hsays, ?_⟩, misfit_shouted,
    partial_settings_loaded.2.2.1 _ (.inr misfit_shouted)⟩
  obtain ⟨-, hload⟩ | ⟨fault, hfault, -⟩ :=
    partial_settings_loaded.2.1 _ _ _ document_sparse hsays
  · exact hload
  · cases hfault

end ShaderLoom.Settings
