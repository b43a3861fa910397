import Mathlib.Data.Option.Basic
import Mathlib.Tactic.Lemma
import ShaderLoom.Config.Decode

/-!
Settings of which a document gives some.

A document gives a setting by a key in one of three tables. Decoding looks at each key alone: it
takes the value if there is one, which then has to be readable, and the default otherwise. What
else the document holds, and in which order, is not looked at.
-/

namespace ShaderLoom

open Toml

/-- The value of a key in a table of a document. -/
def Toml.Entries.inTable? (es : Entries) (table key : String) : Option Value :=
  match es.get? table with
  | some (.table _ inner) => Entries.get? inner key
  | _ => none

namespace Settings

/-- The six settings, each of which may be given or not. -/
structure Given where
  targetFps : Option UInt32 := none
  vsync : Option Bool := none
  title : Option String := none
  width : Option UInt32 := none
  height : Option UInt32 := none
  level : Option Verbosity := none
  deriving DecidableEq

/-- The defaults, with what is given in their place. -/
def Given.settings (g : Given) : Settings where
  render := ⟨g.targetFps.getD default.render.targetFps, g.vsync.getD default.render.vsync⟩
  window := ⟨g.title.getD default.window.title, g.width.getD default.window.width,
    g.height.getD default.window.height⟩
  logging := ⟨g.level.getD default.logging.level⟩

/-- A document gives these settings and none of the others, and the tables that hold settings are
tables wherever they occur. -/
structure Says (es : Entries) (g : Given) : Prop where
  tables : ∀ name ∈ ["render", "window", "logging"], ∀ v, es.get? name = some v →
    ∃ origin inner, v = .table origin inner
  targetFps : es.inTable? "render" "target_fps" = g.targetFps.map fun n => .integer n.toNat
  vsync : es.inTable? "render" "vsync" = g.vsync.map .boolean
  title : es.inTable? "window" "title" = g.title.map .string
  width : es.inTable? "window" "width" = g.width.map fun n => .integer n.toNat
  height : es.inTable? "window" "height" = g.height.map fun n => .integer n.toNat
  level : es.inTable? "logging" "level" = g.level.map fun l => .string l.name

/-! ### One value -/

lemma word?_integer {n : Int} {w : UInt32} (h : (Value.integer n).word? = some w) :
    0 ≤ n ∧ n ≤ 4294967295 := by
  have hsize : Number.power 2 32 = 4294967296 := rfl
  simp only [Value.word?, hsize] at h
  split at h
  · omega
  · cases h

lemma word?_toNat (n : UInt32) : (Value.integer n.toNat).word? = some n := by
  have hsize : Number.power 2 32 = 2 ^ 32 := rfl
  have hn := n.toNat_lt
  have hlow : (0 : Int) ≤ n.toNat := by omega
  have hhigh : (n.toNat : Int) < (2 ^ 32 : Nat) := by omega
  simp only [Value.word?, hsize]
  rw [if_pos ⟨hlow, hhigh⟩]
  simp

lemma boolean?_boolean (b : Bool) : (Value.boolean b).boolean? = some b := rfl

lemma string?_string (s : String) : (Value.string s).string? = some s := rfl

lemma eq_name_of_verbosity? {s : String} {l : Verbosity}
    (h : (Value.string s).verbosity? = some l) : s = l.name := by
  have hname : l.name = s := by simpa using List.find?_some h
  exact hname.symm

/-- What is given is read, and otherwise there is the default. -/
lemma orDefault_map {α : Type} {read : Value → Option α} {write : α → Value}
    (h : ∀ a, read (write a) = some a) (given : Option α) (fallback : α) :
    orDefault read fallback (given.map write) = some (given.getD fallback) := by
  cases given with
  | none => rfl
  | some a => exact h a

/-! ### One table -/

variable {es inner : Entries} {origin : Origin}

lemma renderOf?_table_iff {r : RenderSettings} :
    renderOf? (.table origin inner) = some r ↔
      orDefault Value.word? default.render.targetFps (Entries.get? inner "target_fps") =
          some r.targetFps ∧
        orDefault Value.boolean? default.render.vsync (Entries.get? inner "vsync") =
          some r.vsync := by
  obtain ⟨targetFps, vsync⟩ := r
  simp [renderOf?, Value.fields?, Option.bind_eq_some_iff]

lemma windowOf?_table_iff {w : WindowSettings} :
    windowOf? (.table origin inner) = some w ↔
      orDefault Value.string? default.window.title (Entries.get? inner "title") = some w.title ∧
        orDefault Value.word? default.window.width (Entries.get? inner "width") = some w.width ∧
        orDefault Value.word? default.window.height (Entries.get? inner "height") =
          some w.height := by
  obtain ⟨title, width, height⟩ := w
  simp only [windowOf?, Value.fields?, Option.bind_eq_bind, Option.bind_some,
    Option.bind_eq_some_iff, Option.some_inj, WindowSettings.mk.injEq]
  constructor
  · rintro ⟨_, htitle, _, hwidth, _, hheight, rfl, rfl, rfl⟩
    exact ⟨htitle, hwidth, hheight⟩
  · rintro ⟨htitle, hwidth, hheight⟩
    exact ⟨_, htitle, _, hwidth, _, hheight, rfl, rfl, rfl⟩

lemma loggingOf?_table_iff {l : LoggingSettings} :
    loggingOf? (.table origin inner) = some l ↔
      orDefault Value.verbosity? default.logging.level (Entries.get? inner "level") =
        some l.level := by
  obtain ⟨level⟩ := l
  simp [loggingOf?, Value.fields?, Option.bind_eq_some_iff]

lemma ofEntries?_eq_some_iff {s : Settings} :
    ofEntries? es = some s ↔
      orDefault renderOf? default.render (es.get? "render") = some s.render ∧
        orDefault windowOf? default.window (es.get? "window") = some s.window ∧
        orDefault loggingOf? default.logging (es.get? "logging") = some s.logging := by
  obtain ⟨render, window, logging⟩ := s
  simp only [ofEntries?, Option.bind_eq_bind, Option.bind_eq_some_iff, Option.some_inj,
    Settings.mk.injEq]
  constructor
  · rintro ⟨_, hrender, _, hwindow, _, hlogging, rfl, rfl, rfl⟩
    exact ⟨hrender, hwindow, hlogging⟩
  · rintro ⟨hrender, hwindow, hlogging⟩
    exact ⟨_, hrender, _, hwindow, _, hlogging, rfl, rfl, rfl⟩

lemma inTable?_table {table : String} (h : es.get? table = some (.table origin inner))
    (key : String) : es.inTable? table key = Entries.get? inner key := by
  rw [Entries.inTable?, h]

lemma inTable?_absent {table : String} (h : es.get? table = none) (key : String) :
    es.inTable? table key = none := by
  rw [Entries.inTable?, h]

/-- A value is given inside a table. -/
lemma exists_of_inTable? {table key : String} {v : Value} (h : es.inTable? table key = some v) :
    ∃ origin inner, es.get? table = some (.table origin inner) ∧
      Entries.get? inner key = some v := by
  unfold Entries.inTable? at h
  split at h
  · next origin inner htable => exact ⟨origin, inner, htable, h⟩
  · cases h

/-! ### A document -/

variable {g : Given}

/-- A document that gives some settings is decoded to the defaults with these in their place. -/
lemma ofEntries?_given (h : Says es g) : ofEntries? es = some g.settings := by
  obtain ⟨htables, hfps, hvsync, htitle, hwidth, hheight, hlevel⟩ := h
  refine ofEntries?_eq_some_iff.mpr ⟨?_, ?_, ?_⟩
  · cases htable : es.get? "render" with
    | none =>
      rw [inTable?_absent htable, eq_comm, Option.map_eq_none_iff] at hfps hvsync
      simp [orDefault, Given.settings, hfps, hvsync]
    | some v =>
      obtain ⟨origin, inner, rfl⟩ := htables _ (by simp) _ htable
      rw [inTable?_table htable] at hfps hvsync
      refine renderOf?_table_iff.mpr ⟨?_, ?_⟩
      · rw [hfps]; exact orDefault_map word?_toNat _ _
      · rw [hvsync]; exact orDefault_map boolean?_boolean _ _
  · cases htable : es.get? "window" with
    | none =>
      rw [inTable?_absent htable, eq_comm, Option.map_eq_none_iff] at htitle hwidth hheight
      simp [orDefault, Given.settings, htitle, hwidth, hheight]
    | some v =>
      obtain ⟨origin, inner, rfl⟩ := htables _ (by simp) _ htable
      rw [inTable?_table htable] at htitle hwidth hheight
      refine windowOf?_table_iff.mpr ⟨?_, ?_, ?_⟩
      · rw [htitle]; exact orDefault_map string?_string _ _
      · rw [hwidth]; exact orDefault_map word?_toNat _ _
      · rw [hheight]; exact orDefault_map word?_toNat _ _
  · cases htable : es.get? "logging" with
    | none =>
      rw [inTable?_absent htable, eq_comm, Option.map_eq_none_iff] at hlevel
      simp [orDefault, Given.settings, hlevel]
    | some v =>
      obtain ⟨origin, inner, rfl⟩ := htables _ (by simp) _ htable
      rw [inTable?_table htable] at hlevel
      refine loggingOf?_table_iff.mpr ?_
      rw [hlevel]
      exact orDefault_map Verbosity.ofName?_name _ _

end Settings

end ShaderLoom
