import ShaderLoom.Frame.Pipeline
import ShaderLoom.Frame.Uniforms
import ShaderLoom.Diagnostics.Journal
import ShaderLoom.Number.Fixed

/-!
A pipeline measured in floating-point seconds: the numbers a frame is drawn with, the rates
that are shown, and the notices that events give rise to.
-/

namespace ShaderLoom

open Number

def Frame.uniforms (f : Frame Float) : Uniforms :=
  ⟨.ofFloat f.elapsed, .ofUInt32 f.width, .ofUInt32 f.height⟩

def Rates.averageFps (r : Rates Float) : Binary32 := r.average
def Rates.instantFps (r : Rates Float) : Binary32 := r.instant

def Event.notices : Event Float → List Notice
  | .rateRaised => [.log ⟨.warn, "FPS cible nul, ramené à 1"⟩]
  | .compiled rate => [.log ⟨.info, "Pipeline compilé (" ++ toString rate ++ " FPS cible)"⟩]
  | .refused fault => [.report fault]
  | .ignored => [.log ⟨.warn, "Pipeline déjà compilé, recompilation ignorée"⟩]
  | .attached t =>
    [.log ⟨.debug, "Pipeline attaché à t=" ++ (Reading.ofFloat t).fixed 3 ++ "s"⟩]
  | .detached => [.log ⟨.debug, "Pipeline détaché"⟩]
  | _ => []

end ShaderLoom
