import ShaderLoom.Config.Decode
import ShaderLoom.Diagnostics.Journal
import ShaderLoom.Toml.Document
import ShaderLoom.Toml.Quoted

/-!
Configuration files: reading one, falling back on the defaults, and writing one.

What is read is validated, what is written is not.
-/

namespace ShaderLoom

/-- A file cannot be read as text, is no document with settings of the right types, or holds
settings that are refused. -/
inductive LoadError where
  | unreadable
  | unparsable
  | refused (fault : Fault)
  deriving DecidableEq, Repr

def LoadError.message : LoadError → String
  | unreadable => "fichier illisible"
  | unparsable => "fichier mal formé"
  | refused fault => fault.message

namespace Settings

def ofText? (text : String) : Option Settings := (Toml.document text.toList).bind ofEntries?

def ofText (text : String) : Except LoadError Settings :=
  match ofText? text with
  | none => .error .unparsable
  | some s =>
    match s.validate with
    | .ok () => .ok s
    | .error fault => .error (.refused fault)

/-- Reads the content of a file, if there is one. -/
def load : Option ByteArray → Except LoadError Settings
  | none => .error .unreadable
  | some bytes =>
    match String.fromUTF8? bytes with
    | none => .error .unreadable
    | some text => ofText text

/-- Reads a file, or takes the defaults with a warning that says why. -/
def loadOrDefault (path : String) (content : Option ByteArray) : Journal Settings :=
  match load content with
  | .ok s => pure s
  | .error e => do
    Journal.log .warn ("Configuration '" ++ path ++ "' ignorée: " ++ e.message)
    pure default

def boolText (b : Bool) : String := if b then "true" else "false"

def quoted (s : String) : String := String.ofList (Toml.quote s.toList)

/-- All settings, group by group. -/
def toText (s : Settings) : String :=
  "[render]\n" ++
  "target_fps = " ++ toString s.render.targetFps.toNat ++ "\n" ++
  "vsync = " ++ boolText s.render.vsync ++ "\n" ++
  "\n[window]\n" ++
  "title = " ++ quoted s.window.title ++ "\n" ++
  "width = " ++ toString s.window.width.toNat ++ "\n" ++
  "height = " ++ toString s.window.height.toNat ++ "\n" ++
  "\n[logging]\n" ++
  "level = " ++ quoted s.logging.level.name ++ "\n"

end Settings

end ShaderLoom
