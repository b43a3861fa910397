import ShaderLoom.App.Options
import ShaderLoom.Config.File
import ShaderLoom.Shader.Demo

/-!
Everything the application does before it opens a window, stage by stage: the arguments, the
configuration, the override of its rate, the diagnostics, the list of demos, and the program.
The first stage that fails ends the launch, and no later stage has an effect.
-/

namespace ShaderLoom

def version : String := "0.1.0"

inductive LaunchError where
  | badRate (value : String)
  | config (error : LoadError)
  | fault (fault : Fault)
  deriving DecidableEq, Repr

def LaunchError.message : LaunchError → String
  | badRate value => Options.refusal value
  | config e => e.message
  | fault f => f.message

/-- How a launch ends: refused, with the demos listed, or ready to open a window. -/
inductive Launch where
  | refused (error : LaunchError)
  | listed (names : List String)
  | ready (settings : Settings) (program : Program)
  deriving DecidableEq, Repr

namespace Launch

/-- What a launch does on its way. The warnings about the arguments come before the diagnostics
are set up, so nobody hears them. The verbosity is what the diagnostics were set up with, if the
launch came to that; the error handler is installed at the same time. -/
structure Report where
  /-- The configuration file that was read. -/
  file : Option String
  unheard : List Record
  diagnostics : Option Verbosity
  notices : List Notice
  outcome : Launch

/-- The file that is read: none if an argument is refused. -/
def consulted (p : Options.Parsed) : Option String :=
  match p.refused with
  | some _ => none
  | none => p.options.configPath

/-- The settings that the options ask for, before validation. -/
def configured (files : String → Option ByteArray) (o : Options) : Except LoadError Settings :=
  match o.configPath with
  | none => .ok Settings.default
  | some path => Settings.load (files path)

def override (fps : Option UInt32) (s : Settings) : Settings :=
  match fps with
  | none => s
  | some fps => { s with render := { s.render with targetFps := fps } }

/-- The settings after every check, or the first stage that refuses. -/
def prepare (files : String → Option ByteArray) (p : Options.Parsed) :
    Except LaunchError Settings :=
  match p.refused with
  | some value => .error (.badRate value)
  | none =>
    match configured files p.options with
    | .error e => .error (.config e)
    | .ok s =>
      let t := override p.options.fps s
      match t.validate with
      | .error f => .error (.fault f)
      | .ok () => .ok t

/-- The demo that is shown when none is asked for. -/
def defaultDemo : String := Demo.bubbles.name

def greeting (demo : String) : String :=
  "Démarrage de Pixel Shader Rust v" ++ version ++ " (démo '" ++ demo ++ "')"

def start (demo : String) (s : Settings) : Journal Launch := do
  Journal.log .info (greeting demo)
  match ← Demo.program demo with
  | .error f => pure (.refused (.fault f))
  | .ok program => pure (.ready s program)

/-- What follows once the settings are good. -/
def proceed (o : Options) (s : Settings) : Journal Launch :=
  if o.list then pure (.listed Demo.names) else start (o.demo.getD defaultDemo) s

def plan (files : String → Option ByteArray) (args : List String) : Report :=
  let p := Options.parse args
  match prepare files p with
  | .error e => ⟨consulted p, p.warnings, none, [], .refused e⟩
  | .ok s =>
    let j := proceed p.options s
    ⟨consulted p, p.warnings, some s.logging.level, j.notices, j.value⟩

/-- How the process ends when no window is opened. -/
structure Ending where
  code : UInt32
  lines : List String
  complaint : Option String
  deriving DecidableEq, Repr

def Ending.failed (message : String) : Ending := ⟨1, [], some message⟩

/-- A launch that is ready goes on, and has no end yet. -/
def ending? : Launch → Option Ending
  | refused e => some (.failed e.message)
  | listed names => some ⟨0, names, none⟩
  | ready _ _ => none

end Launch

end ShaderLoom
