import ShaderLoom.Shader.ValueType

/-!
The statements of a fragment function, and their text.
-/

namespace ShaderLoom

inductive AssignOp where
  | set | add | sub
  deriving DecidableEq, Repr

def AssignOp.every : List AssignOp := [.set, .add, .sub]

def AssignOp.symbol : AssignOp → String
  | set => "="
  | add => "+="
  | sub => "-="

/-- A helper is a constant with a generated name; a declaration makes a variable and converts
its value to the declared type; raw code is copied as it stands. -/
inductive Statement where
  | helper (name : String) (type : ValueType) (value : String)
  | declare (name : String) (type : ValueType) (value : String)
  | assign (name : String) (op : AssignOp) (value : String)
  | raw (code : String)
  deriving DecidableEq, Repr

def Statement.text : Statement → String
  | helper name type value => "let " ++ name ++ ": " ++ type.name ++ " = " ++ value ++ ";"
  | declare name type value =>
    "var " ++ name ++ ": " ++ type.name ++ " = " ++ type.name ++ "(" ++ value ++ ");"
  | assign name op value => name ++ " " ++ op.symbol ++ " " ++ value ++ ";"
  | raw code => code

end ShaderLoom
