import ShaderLoom.Wgsl.Complaint

/-!
The order of what a function does, and how its paths end.

Values that are computed are steps of their own, `emit`, apart from what is done with them, `act`.
Nothing may follow a step that ends its block. A path that ends in neither a jump nor a computed
value returns nothing there, which a function with a result must not do.
-/

namespace ShaderLoom.Wgsl

inductive Code where
  | emit
  | act
  | block (body : List Code)
  | branch (yes no : List Code)
  | choose (cases : List Code)
  | case (fallsThrough : Bool) (body : List Code)
  | loop (body continuing : List Code)
  | leave
  | again
  | yield (valued : Bool)
  | discard

/-- What a step may do where it stands: return with or without a value, leave what surrounds it,
begin the next round. -/
structure Setting where
  valued : Bool
  mayReturn : Bool
  mayLeave : Bool
  mayRepeat : Bool

mutual

/-- The last step of a path with the return that it lacks. -/
def Code.close : Code → List Code
  | .block body => [.block (closeAll body)]
  | .branch yes no => [.branch (closeAll yes) (closeAll no)]
  | .choose cases => [.choose (closeCases cases)]
  | .loop body continuing => [.loop body continuing, .yield false]
  | .act => [.act, .yield false]
  | s => [s]

def closeAll : List Code → List Code
  | [] => [.yield false]
  | [s] => s.close
  | s :: rest => s :: closeAll rest

def closeCases : List Code → List Code
  | [] => []
  | .case true body :: rest => .case true body :: closeCases rest
  | .case false body :: rest => .case false (closeAll body) :: closeCases rest
  | s :: rest => s :: closeCases rest

end

mutual

/-- Whether the step ends its block, if it may stand there. -/
def Code.check (w : Setting) : Code → Checked Bool
  | .emit => .ok false
  | .act => .ok false
  | .block body => checkCode w body
  | .branch yes no => do
    let _ ← checkCode w yes
    let _ ← checkCode w no
    .ok false
  | .choose cases => do
    checkCases { w with mayLeave := true } cases
    .ok false
  | .case _ _ => .error (.misplaced "a case")
  | .loop body continuing => do
    let _ ← checkCode ⟨w.valued, true, true, true⟩ body
    let _ ← checkCode ⟨w.valued, false, false, false⟩ continuing
    .ok false
  | .leave => do
    require w.mayLeave (.misplaced "a break")
    .ok true
  | .again => do
    require w.mayRepeat (.misplaced "a continue")
    .ok true
  | .yield valued => do
    require w.mayReturn (.misplaced "a return")
    require (valued = w.valued) (.mistyped "a return")
    .ok true
  | .discard => .ok true

/-- Whether a block ends before its last step has been passed. -/
def checkCode (w : Setting) : List Code → Checked Bool
  | [] => .ok false
  | s :: rest => do
    let finished ← s.check w
    if finished then do
      require rest.isEmpty (.misplaced "a statement after the end of its block")
      .ok true
    else checkCode w rest

def checkCases (w : Setting) : List Code → Checked Unit
  | [] => .ok ()
  | .case _ body :: rest => do
    let _ ← checkCode w body
    checkCases w rest
  | _ :: _ => .error (.misplaced "a statement between cases")

end

def checkBody (valued : Bool) (code : List Code) : Checked Unit := do
  let _ ← checkCode ⟨valued, true, false, false⟩ (closeAll code)

end ShaderLoom.Wgsl
