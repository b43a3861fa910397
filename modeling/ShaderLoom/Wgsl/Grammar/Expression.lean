import ShaderLoom.Wgsl.Reader
import ShaderLoom.Wgsl.Vocabulary

/-!
Types and expressions, read from their tokens.

Readers that call each other spend a unit of `fuel` for each call. Between two tokens that are
consumed only a bounded number of calls is nested, so a fixed number of units for each token is
enough.
-/

namespace ShaderLoom.Wgsl

open Parse

def known {α : Type} (name : String) : Option α → Parse α
  | some a => pure a
  | none => throw (.undefined name)

def scalarArgument : Parse Scalar := do
  sign "<"
  match ← peek with
  | some (.word s) => do
    skip
    let kind ← known s (scalarWord? s)
    closeAngle
    pure kind
  | _ => refuse

def accessName : Parse Access := do
  let s ← word
  known s (accessWord? s)

/-- Textures of samples hold numbers of 32 bits. -/
def sampledTexture (dimension : Dimension) (layered multi : Bool) : Parse TypeRef := do
  let kind ← scalarArgument
  if kind ∈ [.int, .uint, .float] then pure (.texture ⟨dimension, layered, .sampled kind multi⟩)
  else throw (.mistyped "a texture")

def storedTexture (dimension : Dimension) (layered : Bool) : Parse TypeRef := do
  sign "<"
  let format ← word
  let kind ← known format (formatKind? format)
  sign ","
  let access ← accessName
  closeAlone
  pure (.texture ⟨dimension, layered, .stored format kind access⟩)

/-- A matrix has floating-point components. -/
def shapeOf (shape : Shape) : Parse TypeRef := do
  match shape, ← scalarArgument with
  | .vector n, kind => pure (.vector n kind)
  | .matrix c r, kind =>
    if kind.isFloat then pure (.matrix c r kind) else throw (.mistyped "a matrix")
  | .array, _ => refuse

/-- How tightly a binary operator binds, and which one it is. -/
def operator? (s : String) : Option (Nat × Binary) :=
  match s with
  | "||" => some (1, .eitherTrue)
  | "&&" => some (2, .bothTrue)
  | "|" => some (3, .bitOr)
  | "^" => some (4, .bitXor)
  | "&" => some (5, .bitAnd)
  | "==" => some (6, .equal)
  | "!=" => some (6, .differ)
  | "<" => some (7, .less)
  | "<=" => some (7, .atMost)
  | "<<" => some (8, .shiftLeft)
  | "+" => some (9, .add)
  | "-" => some (9, .sub)
  | "*" => some (10, .mul)
  | "/" => some (10, .div)
  | "%" => some (10, .rem)
  | _ => none

def operatorAt? : List Token → Option ((Nat × Binary) × List Token)
  | .sign s :: r => (operator? s).map (·, r)
  | .greater true :: .sign "=" :: r => some ((7, .atLeast), r)
  | .greater true :: .greater true :: .sign "=" :: _ => none
  | .greater true :: .greater _ :: r => some ((8, .shiftRight), r)
  | .greater _ :: r => some ((7, .more), r)
  | _ => none

def unary? : Token → Option (Expr → Expr)
  | .sign "-" => some (.unary .negate)
  | .sign "!" => some (.unary .not)
  | .sign "~" => some (.unary .complement)
  | .sign "*" => some .deref
  | .sign "&" => some .address
  | _ => none

mutual

def typeRef : (fuel : Nat) → Parse TypeRef
  | 0 => refuse
  | fuel + 1 => do
    let s ← word
    if s = "array" then do
      sign "<"
      arrayOf fuel
    else if s = "binding_array" then do
      sign "<"
      match ← arrayOf fuel with
      | .array t n => pure (.bindings t n)
      | .openArray t => pure (.openBindings t)
      | _ => refuse
    else if s = "ptr" then do
      sign "<"
      pointerOf fuel
    else if s = "atomic" then do pure (.atomic (← scalarArgument))
    else match plainTypeWord? s, shapeWord? s, sampledTextureWord? s, storedTextureWord? s with
      | some t, _, _, _ => pure t
      | _, some shape, _, _ => shapeOf shape
      | _, _, some (d, layered, multi), _ => sampledTexture d layered multi
      | _, _, _, some (d, layered) => storedTexture d layered
      | none, none, none, none => do
        lookUp s
        pure (.named s)

def arrayOf : (fuel : Nat) → Parse TypeRef
  | 0 => refuse
  | fuel + 1 => do
    let item ← typeRef fuel
    let t ← if ← sign? "," then do pure (.array item (← operand fuel)) else pure (.openArray item)
    closeAngle
    pure t

/-- Only a pointer into storage says how it may be used. -/
def pointerOf : (fuel : Nat) → Parse TypeRef
  | 0 => refuse
  | fuel + 1 => do
    let s ← word
    let space ← known s (spaceWord? s)
    sign ","
    let target ← typeRef fuel
    let space ← match space with
      | .storage a => if ← sign? "," then (.storage <$> accessName) else pure (.storage a)
      | other => pure other
    closeAngle
    pure (.pointer target space)

/-- An expression of operators that bind at least as tightly as `level`. -/
def expr : (fuel level : Nat) → Parse Expr
  | 0, _ => refuse
  | fuel + 1, level => do operators fuel level (← operand fuel)

def operators : (fuel level : Nat) → Expr → Parse Expr
  | 0, _, _ => refuse
  | fuel + 1, level, left => do
    match operatorAt? (← get).rest with
    | some ((tight, op), rest) =>
      if level ≤ tight then do
        setRest rest
        let right ← expr fuel (tight + 1)
        operators fuel level (.binary op left right)
      else pure left
    | none => pure left

def operand : (fuel : Nat) → Parse Expr
  | 0 => refuse
  | fuel + 1 => do
    match (← peek).bind unary? with
    | some make => do
      skip
      pure (make (← operand fuel))
    | none => accesses fuel (← primary fuel)

def accesses : (fuel : Nat) → Expr → Parse Expr
  | 0, _ => refuse
  | fuel + 1, e => do
    if ← sign? "." then accesses fuel (.member e (← freshName))
    else if ← sign? "[" then do
      let i ← expr fuel 0
      sign "]"
      accesses fuel (.index e i)
    else pure e

def primary : (fuel : Nat) → Parse Expr
  | 0 => refuse
  | fuel + 1 => do
    match ← peek with
    | some (.number l) => do
      skip
      pure (.literal l)
    | some (.sign "(") => do
      skip
      let e ← expr fuel 0
      sign ")"
      pure e
    | some (.word s) => do
      skip
      match literalWord? s with
      | some l => pure (.literal l)
      | none => named fuel s
    | _ => refuse

/-- What begins with a word: a value of a type, a call, or a name. -/
def named : (fuel : Nat) → String → Parse Expr
  | 0, _ => refuse
  | fuel + 1, s => do
    if isUnmakeable s then throw (.misplaced s)
    else match ((scalarWord? s).map TypeRef.scalar).or (shortWord? s), shapeWord? s with
      | some t, _ => do pure (.make t (← arguments fuel))
      | none, some shape =>
        if ← isNext "<" then
          match shape with
          | .array => do
            sign "<"
            let t ← arrayOf fuel
            pure (.make t (← arguments fuel))
          | shape => do
            let t ← shapeOf shape
            pure (.make t (← arguments fuel))
        else do pure (.makeLike shape (← arguments fuel))
      | none, none =>
        if s = "bitcast" then do
          sign "<"
          let t ← typeRef fuel
          closeAngle
          sign "("
          let e ← expr fuel 0
          let _ ← sign? ","
          sign ")"
          pure (.bitcast t e)
        else if ← isNext "(" then do
          let es ← arguments fuel
          lookUp s
          pure (.call s es)
        else mention s

def arguments : (fuel : Nat) → Parse (List Expr)
  | 0 => refuse
  | fuel + 1 => do
    sign "("
    moreArguments fuel

/-- Arguments up to the closing bracket; a comma may follow the last. -/
def moreArguments : (fuel : Nat) → Parse (List Expr)
  | 0 => refuse
  | fuel + 1 => do
    if ← sign? ")" then pure []
    else do
      let e ← expr fuel 0
      if ← sign? "," then pure (e :: (← moreArguments fuel))
      else do
        sign ")"
        pure [e]

end

end ShaderLoom.Wgsl
