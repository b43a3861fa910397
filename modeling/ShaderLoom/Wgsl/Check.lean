import ShaderLoom.Wgsl.Declaration
import ShaderLoom.Wgsl.Grammar.Declaration
import ShaderLoom.Wgsl.Order

/-!
Whole modules: every name is given once, and every declaration is right in view of those that it
uses.
-/

namespace ShaderLoom.Wgsl

def declare (m : Module) (d : Decl) : Checked Module := do
  let (next, _) ← (d.item.declare m).run .empty
  .ok next

def entryPoints (ds : List Decl) : List String :=
  ds.filterMap fun d =>
    match d.item with
    | .function f => f.entry.map fun _ => f.name
    | _ => none

/-- The names of the entry points of a module, in the order in which they are written, if the
module is right. -/
def checkModule (source : String) : Checked (List String) := do
  let ds ← parse (← tokens source)
  checkNames ds
  let _ ← (← arrange ds).foldlM declare Module.empty
  .ok (entryPoints ds)

end ShaderLoom.Wgsl
