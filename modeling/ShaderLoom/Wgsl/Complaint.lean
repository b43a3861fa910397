/-!
Why a module of the shading language is refused.
-/

namespace ShaderLoom.Wgsl

inductive Complaint where
  | character (c : Char)
  | unexpected (found : String)
  | reserved (name : String)
  | undefined (name : String)
  | redefined (name : String)
  | cyclic (name : String)
  | mistyped (what : String)
  | misplaced (what : String)
  deriving DecidableEq, Repr

def Complaint.message : Complaint → String
  | character c => "error: unknown character '" ++ String.singleton c ++ "'"
  | unexpected found => "error: unexpected " ++ found
  | reserved name => "error: '" ++ name ++ "' is a reserved word"
  | undefined name => "error: no definition in scope for '" ++ name ++ "'"
  | redefined name => "error: redefinition of '" ++ name ++ "'"
  | cyclic name => "error: '" ++ name ++ "' depends on itself"
  | mistyped what => "error: wrong type in " ++ what
  | misplaced what => "error: " ++ what ++ " is not allowed here"

abbrev Checked (α : Type) := Except Complaint α

def require (ok : Bool) (c : Complaint) : Checked Unit := if ok then .ok () else .error c

end ShaderLoom.Wgsl
