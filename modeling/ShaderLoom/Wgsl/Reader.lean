import ShaderLoom.Wgsl.Token
import ShaderLoom.Wgsl.Tree

/-!
Reading a module token by token.

A reader takes tokens from the front of what is left. It knows the names that the function being
read has declared, block by block, and collects those that it has not.
-/

namespace ShaderLoom.Wgsl

/-- What is left of a module, the declared names from the innermost block outwards, the number
of names declared so far, and the names that are looked up in the module. -/
structure Reading where
  rest : List Token
  scopes : List (List (String × Nat))
  declared : Nat
  free : List String

abbrev Parse := StateT Reading Checked

namespace Parse

def peek : Parse (Option Token) := return (← get).rest.head?

def setRest (ts : List Token) : Parse Unit := modify fun r => { r with rest := ts }

def skip : Parse Unit := modify fun r => { r with rest := r.rest.tail }

def refuse {α : Type} : Parse α := do
  throw (.unexpected (match (← get).rest.head? with
    | some t => t.text
    | none => "end of file"))

def take? (t : Token) : Parse Bool := do
  if (← peek) = some t then
    skip
    pure true
  else pure false

def sign? (s : String) : Parse Bool := take? (.sign s)

def sign (s : String) : Parse Unit := do unless ← sign? s do refuse

def word? (s : String) : Parse Bool := take? (.word s)

def isNext (s : String) : Parse Bool := return (← peek) = some (.sign s)

def closeAngle : Parse Unit := do
  match ← peek with
  | some (.greater _) => skip
  | _ => refuse

/-- A closing angle bracket that nothing which would make it another operator follows. -/
def closeAlone : Parse Unit := do
  match ← peek with
  | some (.greater false) => skip
  | _ => refuse

/-- A word that can name something: neither a lone underscore nor one that begins with two. -/
def word : Parse String := do
  match ← peek with
  | some (.word s) => do
    skip
    if s = "_" ∨ s.startsWith "__" then throw (.reserved s) else pure s
  | _ => refuse

def forget : Parse Unit := modify fun r => { r with scopes := [], declared := 0, free := [] }

def enter : Parse Unit := modify fun r => { r with scopes := [] :: r.scopes }

def leave : Parse Unit := modify fun r => { r with scopes := r.scopes.tail }

/-- Gives a name to the next number; a block gives each name once. -/
def declare (name : String) : Parse Nat := do
  let r ← get
  let (block, outer) := match r.scopes with
    | block :: outer => (block, outer)
    | [] => ([], [])
  if (block.lookup name).isSome then throw (.redefined name)
  else
    set { r with scopes := ((name, r.declared) :: block) :: outer, declared := r.declared + 1 }
    pure r.declared

/-- Notes that a name is looked up in the module. -/
def lookUp (name : String) : Parse Unit := modify fun r => { r with free := name :: r.free }

/-- What a name means where it stands. -/
def mention (name : String) : Parse Expr := do
  match (← get).scopes.findSome? (·.lookup name) with
  | some id => pure (.bound id)
  | none => do
    lookUp name
    pure (.free name)

end Parse

/-- Words that name nothing in a module. -/
def reserved : List String :=
  ["array", "atomic", "bool", "f32", "f16", "i32", "mat2x2", "mat2x3", "mat2x4", "mat3x2",
   "mat3x3", "mat3x4", "mat4x2", "mat4x3", "mat4x4", "ptr", "sampler", "sampler_comparison",
   "texture_1d", "texture_2d", "texture_2d_array", "texture_3d", "texture_cube",
   "texture_cube_array", "texture_multisampled_2d", "texture_storage_1d", "texture_storage_2d",
   "texture_storage_2d_array", "texture_storage_3d", "texture_depth_2d",
   "texture_depth_2d_array", "texture_depth_cube", "texture_depth_cube_array",
   "texture_depth_multisampled_2d", "u32", "vec2", "vec3", "vec4",
   "alias", "bitcast", "break", "case", "const", "continue", "continuing", "default", "discard",
   "else", "enable", "false", "fn", "for", "if", "let", "loop", "override", "requires", "return",
   "struct", "switch", "true", "type", "var", "while",
   "CompileShader", "ComputeShader", "DomainShader", "GeometryShader", "Hullshader", "NULL", "Self",
   "abstract", "active", "alignas", "alignof", "as", "asm", "asm_fragment",
   "async", "attribute", "auto", "await", "become", "binding_array", "cast", "catch", "class",
   "co_await", "co_return", "co_yield", "coherent", "column_major", "common", "compile",
   "compile_fragment", "concept", "const_cast", "consteval", "constexpr", "constinit", "crate",
   "debugger", "decltype", "delete", "demote", "demote_to_helper", "do", "dynamic_cast", "enum",
   "explicit", "export", "extends", "extern", "external", "fallthrough", "filter", "final",
   "finally", "friend", "from", "fxgroup", "get", "goto", "groupshared", "handle", "highp",
   "impl", "implements", "import", "inline", "inout", "instanceof", "interface", "layout",
   "lowp", "macro", "macro_rules", "match", "mediump", "meta", "mod", "module", "move", "mut",
   "mutable", "namespace", "new", "nil", "noexcept", "noinline", "nointerpolation",
   "noperspective", "null", "nullptr", "of", "operator", "package", "packoffset", "partition",
   "pass", "patch", "pixelfragment", "precise", "precision", "premerge", "priv", "protected",
   "pub", "public", "readonly", "ref", "regardless", "register", "reinterpret_cast", "resource",
   "restrict", "self", "set", "shared", "signed", "sizeof", "smooth", "snorm", "static",
   "static_assert", "static_cast", "std", "subroutine", "super", "target", "template", "this",
   "thread_local", "throw", "trait", "try", "typedef", "typeid", "typename", "typeof",
   "union", "unless", "unorm", "unsafe", "unsized", "use", "using", "varying", "virtual",
   "volatile", "wgsl", "where", "with", "writeonly", "yield"]

/-- A name that may be given to something. -/
def freshName : Parse String := do
  let s ← Parse.word
  if s ∈ reserved then throw (.reserved s) else pure s

end ShaderLoom.Wgsl
