import ShaderLoom.Wgsl.Operator

/-!
Modules of the shading language as trees.

Names that a function declares are numbered in the order of their declarations, so that an inner
declaration hides an outer one without further ado. All other names are looked up in the module.
-/

namespace ShaderLoom.Wgsl

/-- How memory or a texture may be used. -/
structure Access where
  read : Bool
  write : Bool
  deriving DecidableEq, Repr

/-- Where a variable lives. Textures and samplers are handles. -/
inductive Space where
  | function
  | invocation
  | workgroup
  | uniform
  | storage (access : Access)
  | handle
  | pushed
  deriving DecidableEq, Repr

inductive Dimension where
  | one | two | three | cube
  deriving DecidableEq, Repr

/-- What a texture holds: samples of a kind, depths, or texels of a fixed format. -/
inductive Texels where
  | sampled (kind : Scalar) (multi : Bool)
  | depth (multi : Bool)
  | stored (format : String) (kind : Scalar) (access : Access)
  deriving DecidableEq, Repr

structure Texture where
  dimension : Dimension
  layered : Bool
  texels : Texels
  deriving DecidableEq, Repr

/-- The shape of a value whose component kind is left to be inferred. -/
inductive Shape where
  | vector (n : Nat)
  | matrix (columns rows : Nat)
  | array
  deriving DecidableEq, Repr

mutual

inductive TypeRef where
  | scalar (s : Scalar)
  | vector (n : Nat) (s : Scalar)
  | matrix (columns rows : Nat) (s : Scalar)
  | atomic (s : Scalar)
  | pointer (target : TypeRef) (space : Space)
  | array (item : TypeRef) (size : Expr)
  | openArray (item : TypeRef)
  | bindings (item : TypeRef) (size : Expr)
  | openBindings (item : TypeRef)
  | texture (t : Texture)
  | sampler (comparison : Bool)
  | accelerationStructure
  | rayQuery
  | predeclared (record : String)
  | named (name : String)

/-- `bound` names are the numbered ones of a function, `free` names those of the module. -/
inductive Expr where
  | literal (l : Literal)
  | bound (id : Nat)
  | free (name : String)
  | unary (op : Unary) (e : Expr)
  | binary (op : Binary) (l r : Expr)
  | deref (e : Expr)
  | address (e : Expr)
  | make (type : TypeRef) (args : List Expr)
  | makeLike (shape : Shape) (args : List Expr)
  | call (name : String) (args : List Expr)
  | bitcast (type : TypeRef) (e : Expr)
  | member (e : Expr) (field : String)
  | index (e i : Expr)

end

/-- `leave` and `again` end a round of a loop; a `case` stands only in a `choose`, and one that
falls through has no body of its own. -/
inductive Stmt where
  | block (body : List Stmt)
  | constant (id : Nat) (type : Option TypeRef) (value : Expr)
  | variable (id : Nat) (type : Option TypeRef) (value : Option Expr)
  | assign (target : Expr) (op : Option Binary) (value : Expr)
  | count (target : Expr)
  | ignore (value : Expr)
  | invoke (name : String) (args : List Expr)
  | yield (value : Option Expr)
  | branch (test : Expr) (yes no : List Stmt)
  | choose (selector : Expr) (cases : List Stmt)
  | case (label : Option Expr) (fallsThrough : Bool) (body : List Stmt)
  | loop (body continuing : List Stmt) (leaveIf : Option Expr)
  | leave
  | again
  | discard

inductive Stage where
  | vertex | fragment | compute
  deriving DecidableEq, Repr

/-- Values that the pipeline itself passes in or out. -/
inductive Signal where
  | position (invariant : Bool)
  | vertexIndex | instanceIndex | viewIndex
  | frontFacing | fragDepth | primitiveIndex | sampleIndex | sampleMask
  | globalInvocationId | localInvocationId | localInvocationIndex | workgroupId | numWorkgroups
  deriving DecidableEq, Repr

inductive Interpolation where
  | perspective | linear | flat
  deriving DecidableEq, Repr

inductive BindingRef where
  | signal (s : Signal)
  | location (place : Expr) (interpolation : Option Interpolation) (blended : Bool)

structure MemberRef where
  name : String
  type : TypeRef
  binding : Option BindingRef
  size : Option Expr
  alignment : Option Expr

structure Parameter where
  id : Nat
  type : TypeRef
  binding : Option BindingRef

structure EntryRef where
  stage : Stage
  earlyDepth : Bool
  workgroup : Option (List Expr)

structure Function where
  name : String
  entry : Option EntryRef
  params : List Parameter
  result : Option (TypeRef × Option BindingRef)
  body : List Stmt

structure Global where
  name : String
  space : Space
  binding : Option (Expr × Expr)
  type : TypeRef
  value : Option Expr

inductive Item where
  | record (name : String) (members : List MemberRef)
  | synonym (name : String) (type : TypeRef)
  | constant (name : String) (type : Option TypeRef) (value : Expr)
  | global (g : Global)
  | function (f : Function)

def Item.name : Item → String
  | record name _ => name
  | synonym name _ => name
  | constant name _ _ => name
  | global g => g.name
  | function f => f.name

/-- A declaration with the names that it looks up in the module. -/
structure Decl where
  item : Item
  uses : List String

def Decl.name (d : Decl) : String := d.item.name

end ShaderLoom.Wgsl
