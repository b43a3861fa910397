import ShaderLoom.App.Launch
import ShaderLoom.Diagnostics.Ledger

/-!
The command line. There is no window system here, so a launch that is ready to open a window
ends with an error.
-/

namespace ShaderLoom.CommandLine

/-- The content of the configuration file that the arguments name. -/
def fileContent (args : List String) : IO (Option ByteArray) := do
  match Launch.consulted (Options.parse args) with
  | some path =>
    try
      pure (some (← IO.FS.readBinFile path))
    catch _ => pure none
  | none => pure none

def printRecord (r : Record) : IO Unit :=
  IO.eprintln ("[" ++ r.severity.name ++ "] " ++ r.text)

/-- Shows what passes the verbosity once the diagnostics are set up. -/
def printNotices (v : Verbosity) (ns : List Notice) : IO Unit := do
  for n in ns do
    match n with
    | .log r => if r.severity.passes v.ceiling then printRecord r
    | .report f => IO.eprintln ("❌ " ++ f.message)

def finish (e : Launch.Ending) : IO UInt32 := do
  for line in e.lines do IO.println line
  match e.complaint with
  | some message => IO.eprintln ("Error: " ++ message)
  | none => pure ()
  pure e.code

def run (args : List String) : IO UInt32 := do
  let content ← fileContent args
  let report := Launch.plan (fun _ => content) args
  match report.diagnostics with
  | some v => printNotices v report.notices
  | none => pure ()
  finish (report.outcome.ending?.getD (.failed "aucun système de fenêtres"))

end ShaderLoom.CommandLine

def main (args : List String) : IO UInt32 := ShaderLoom.CommandLine.run args
