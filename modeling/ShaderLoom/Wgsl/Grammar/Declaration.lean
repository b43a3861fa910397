import ShaderLoom.Wgsl.Grammar.Statement

/-!
Declarations and their attributes, read from their tokens.

An attribute stands only where it means something, and once. Attributes at the end of a module
belong to nothing and are allowed.
-/

namespace ShaderLoom.Wgsl

open Parse

/-- Fills in an attribute that has not been given yet. -/
def once {α : Type} (name : String) (given : Option α) (a : α) : Parse (Option α) :=
  match given with
  | none => pure (some a)
  | some _ => throw (.redefined name)

def bracketed {α : Type} (inner : Parse α) : Parse α := do
  sign "("
  let a ← inner
  sign ")"
  pure a

structure BorderAttributes where
  location : Option Expr := none
  signal : Option Signal := none
  interpolation : Option Interpolation := none
  sampling : Option String := none
  blended : Option Unit := none
  invariant : Option Unit := none
  size : Option Expr := none
  alignment : Option Expr := none

/-- What the attributes say together about the way across the border of a stage. -/
def BorderAttributes.binding (a : BorderAttributes) : Parse (Option BindingRef) :=
  match a.location, a.signal, a.interpolation.isSome || a.sampling.isSome, a.invariant.isSome with
  | none, none, false, false => pure none
  | some e, none, _, false => pure (some (.location e a.interpolation a.blended.isSome))
  | none, some (.position _), false, i => pure (some (.signal (.position i)))
  | none, some s, false, false => pure (some (.signal s))
  | _, _, _, _ => throw (.misplaced "an attribute")

/-- Attributes in front of a member, if it is one of a record, or of a parameter or result. -/
def borderAttributes (inRecord : Bool) : (fuel : Nat) → BorderAttributes → Parse BorderAttributes
  | 0, _ => refuse
  | fuel + 1, a => do
    if ← sign? "@" then
      let name ← word
      let next ← match name with
        | "location" => do
          let e ← bracketed (expr fuel 0)
          pure { a with location := ← once name a.location e }
        | "builtin" => do
          let s ← bracketed word
          let v ← known s (signalWord? s)
          pure { a with signal := ← once name a.signal v }
        | "interpolate" => do
          sign "("
          let s ← word
          let v ← known s (interpolationWord? s)
          let interpolation ← once name a.interpolation v
          let sampling ← if ← sign? "," then do
              let s ← word
              if isSampling s then once name a.sampling s else throw (.undefined s)
            else pure a.sampling
          sign ")"
          pure { a with interpolation, sampling }
        | "second_blend_source" => do pure { a with blended := ← once name a.blended () }
        | "invariant" => do pure { a with invariant := ← once name a.invariant () }
        | "size" =>
          if inRecord then do
            let e ← bracketed (expr fuel 0)
            pure { a with size := ← once name a.size e }
          else throw (.undefined name)
        | "align" =>
          if inRecord then do
            let e ← bracketed (expr fuel 0)
            pure { a with alignment := ← once name a.alignment e }
          else throw (.undefined name)
        | _ => throw (.undefined name)
      borderAttributes inRecord fuel next
    else pure a

/-- The members of a record up to the closing brace; a comma may follow the last. -/
def members : (fuel : Nat) → Parse (List MemberRef)
  | 0 => refuse
  | fuel + 1 => do
    if ← sign? "\x7d" then pure []
    else do
      let a ← borderAttributes true fuel {}
      let binding ← a.binding
      let name ← freshName
      sign ":"
      let m : MemberRef := ⟨name, ← typeRef fuel, binding, a.size, a.alignment⟩
      if ← sign? "," then pure (m :: (← members fuel))
      else do
        sign "\x7d"
        pure [m]

def parameters : (fuel : Nat) → Parse (List Parameter)
  | 0 => refuse
  | fuel + 1 => do
    if ← sign? ")" then pure []
    else do
      let binding ← (← borderAttributes false fuel {}).binding
      let name ← freshName
      sign ":"
      let type ← typeRef fuel
      let p : Parameter := ⟨← declare name, type, binding⟩
      if ← sign? "," then pure (p :: (← parameters fuel))
      else do
        sign ")"
        pure [p]

/-- A function behind its keyword. Parameters and the outermost variables share one block. -/
def function (fuel : Nat) (entry : Option EntryRef) : Parse Function := do
  let name ← freshName
  enter
  sign "("
  let params ← parameters fuel
  let result ← if ← sign? "->" then
      if ← word? "void" then pure none
      else do
        let binding ← (← borderAttributes false fuel {}).binding
        pure (some (← typeRef fuel, binding))
    else pure none
  sign "\x7b"
  pure ⟨name, entry, params, result, ← stmts fuel⟩

def global (fuel : Nat) (binding : Option (Expr × Expr)) : Parse Global := do
  let space ← if ← sign? "<" then do
      let s ← word
      let space ← known s (spaceWord? s)
      let space ← match space with
        | .storage a => if ← sign? "," then (.storage <$> accessName) else pure (.storage a)
        | other => pure other
      closeAngle
      pure space
    else pure Space.handle
  let name ← freshName
  sign ":"
  let type ← typeRef fuel
  let value ← valueAfterEquals fuel
  sign ";"
  pure ⟨name, space, binding, type, value⟩

structure ItemAttributes where
  group : Option Expr := none
  binding : Option Expr := none
  stage : Option Stage := none
  workgroup : Option (List Expr) := none
  earlyDepth : Option Unit := none

def sizes (fuel : Nat) : (count : Nat) → Parse (List Expr)
  | 0 => refuse
  | count + 1 => do
    let e ← expr fuel 0
    if ← sign? ")" then pure [e]
    else if count = 0 then refuse
    else do
      sign ","
      pure (e :: (← sizes fuel count))

def itemAttributes : (fuel : Nat) → ItemAttributes → Parse ItemAttributes
  | 0, _ => refuse
  | fuel + 1, a => do
    if ← sign? "@" then
      let name ← word
      let next ← match name with
        | "group" => do
          let e ← bracketed (expr fuel 0)
          pure { a with group := ← once name a.group e }
        | "binding" => do
          let e ← bracketed (expr fuel 0)
          pure { a with binding := ← once name a.binding e }
        | "vertex" => do pure { a with stage := ← once name a.stage .vertex }
        | "fragment" => do pure { a with stage := ← once name a.stage .fragment }
        | "compute" => do pure { a with stage := ← once name a.stage .compute }
        | "workgroup_size" => do
          sign "("
          let es ← sizes fuel 3
          pure { a with workgroup := ← once name a.workgroup es }
        | "early_depth_test" => do
          if ← sign? "(" then
            let s ← word
            if isDepthChange s then sign ")" else throw (.undefined s)
          pure { a with earlyDepth := ← once name a.earlyDepth () }
        | _ => throw (.undefined name)
      itemAttributes fuel next
    else pure a

/-- The place of a resource: group and binding are given together. -/
def ItemAttributes.resource (a : ItemAttributes) : Parse (Option (Expr × Expr)) :=
  match a.group, a.binding with
  | some g, some b => pure (some (g, b))
  | none, none => pure none
  | _, _ => throw (.misplaced "half a binding")

/-- A compute stage has to say how large its workgroups are. -/
def ItemAttributes.entry (a : ItemAttributes) : Parse (Option EntryRef) :=
  match a.stage with
  | none => pure none
  | some stage =>
    if stage = .compute ∧ a.workgroup.isNone then
      throw (.misplaced "a compute stage without a size")
    else pure (some ⟨stage, a.earlyDepth.isSome, a.workgroup⟩)

/-- A declaration that is no variable has no place among the resources. -/
def unplaced {α : Type} (resource : Option (Expr × Expr)) (inner : Parse α) : Parse α := do
  let a ← inner
  if resource.isSome then throw (.misplaced "a binding") else pure a

def item (fuel : Nat) (a : ItemAttributes) : Parse (Option Item) := do
  let resource ← a.resource
  match ← peek with
  | none => pure none
  | some (.sign ";") => unplaced resource do
    skip
    pure none
  | some (.word "struct") => unplaced resource do
    skip
    let name ← freshName
    sign "\x7b"
    pure (some (.record name (← members fuel)))
  | some (.word "alias") => unplaced resource do
    skip
    let name ← freshName
    sign "="
    let type ← typeRef fuel
    sign ";"
    pure (some (.synonym name type))
  | some (.word "const") => unplaced resource do
    skip
    let name ← freshName
    let type ← typeAfterColon fuel
    sign "="
    let value ← expr fuel 0
    sign ";"
    pure (some (.constant name type value))
  | some (.word "var") => do
    skip
    pure (some (.global (← global fuel resource)))
  | some (.word "fn") => unplaced resource do
    skip
    let f ← function fuel (← a.entry)
    pure (some (.function f))
  | _ => refuse

def decls : (fuel : Nat) → Parse (List Decl)
  | 0 => refuse
  | fuel + 1 => do
    match ← peek with
    | none => pure []
    | some _ => do
      forget
      let a ← itemAttributes fuel {}
      match ← item fuel a with
      | none => decls fuel
      | some i => do
        let d : Decl := ⟨i, (← get).free.eraseDups⟩
        pure (d :: (← decls fuel))

def fuelPerToken : Nat := 16

def parse (ts : List Token) : Checked (List Decl) := do
  let (ds, _) ← (decls (fuelPerToken * (ts.length + 1))).run ⟨ts, [], 0, []⟩
  pure ds

end ShaderLoom.Wgsl
