import ShaderLoom.Number.Binary32
import ShaderLoom.Number.Fixed
import ShaderLoom.Number.Literal
import ShaderLoom.Diagnostics.Journal

/-!
Numbers written into generated code. The language has no literal for what is not finite: that
becomes zero, with a warning.
-/

namespace ShaderLoom

open Number

def literal (x : Binary32) : Journal String :=
  match x.read with
  | .finite d => pure (String.ofList (Format.single.literal d))
  | r => do
    Journal.log .warn
      ("Valeur non finie " ++ r.fixed 0 ++ " dans une expression, remplacée par 0.0")
    pure "0.0"

end ShaderLoom
