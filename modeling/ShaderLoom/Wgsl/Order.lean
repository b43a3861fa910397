import ShaderLoom.Wgsl.Complaint
import ShaderLoom.Wgsl.Tree

/-!
The order of declarations: each after those it uses, whatever the order they are written in.

Names that no declaration has may belong to what every module has, so they count for nothing.
-/

namespace ShaderLoom.Wgsl

/-- Adds a declaration behind those that it uses. `path` names the declarations that wait for it,
and `done` holds those that are in place, the last one first. -/
def place (ds : List Decl) : (fuel : Nat) → (path : List String) → (done : List Decl) → Decl →
    Checked (List Decl)
  | 0, _, _, d => .error (.cyclic d.name)
  | fuel + 1, path, done, d =>
    if done.any (·.name = d.name) then .ok done
    else do
      let next ← d.uses.foldlM (fun done name =>
        if name = d.name ∨ name ∈ path then .error (.cyclic name)
        else match ds.find? (·.name = name) with
          | none => .ok done
          | some e => place ds fuel (d.name :: path) done e) done
      .ok (d :: next)

/-- An order in which each declaration comes after those it uses, unless one depends on itself.
A path without repetition is no longer than the list. -/
def arrange (ds : List Decl) : Checked (List Decl) := do
  let done ← ds.foldlM (place ds (ds.length + 1) []) []
  .ok done.reverse

def checkNames : List Decl → Checked Unit
  | [] => .ok ()
  | d :: rest => do
    require (rest.all fun e => e.name != d.name) (.redefined d.name)
    checkNames rest

end ShaderLoom.Wgsl
