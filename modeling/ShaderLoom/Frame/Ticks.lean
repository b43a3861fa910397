/-!
Sources of ticks: started with a preferred rate, and stopped.
-/

namespace ShaderLoom

structure TickSource where
  running : Bool
  preferred : Option Nat
  deriving DecidableEq, Repr

namespace TickSource

def idle : TickSource := ⟨false, none⟩
def start (_ : TickSource) (rate : Nat) : TickSource := ⟨true, some rate⟩
def stop (s : TickSource) : TickSource := { s with running := false }

end TickSource

end ShaderLoom
