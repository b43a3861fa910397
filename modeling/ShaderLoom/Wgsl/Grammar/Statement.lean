import ShaderLoom.Wgsl.Grammar.Expression

/-!
Statements, read from their tokens.

A statement of the text becomes none, one or two of the tree: an empty one vanishes, and what
starts a counted loop stands in front of it. Fuel is spent as for expressions.
-/

namespace ShaderLoom.Wgsl

open Parse

def assignment? : List Token → Option (Option Binary × List Token)
  | .sign "=" :: r => some (none, r)
  | .sign "+=" :: r => some (some .add, r)
  | .sign "-=" :: r => some (some .sub, r)
  | .sign "*=" :: r => some (some .mul, r)
  | .sign "/=" :: r => some (some .div, r)
  | .sign "%=" :: r => some (some .rem, r)
  | .sign "&=" :: r => some (some .bitAnd, r)
  | .sign "|=" :: r => some (some .bitOr, r)
  | .sign "^=" :: r => some (some .bitXor, r)
  | .sign "<<=" :: r => some (some .shiftLeft, r)
  | .greater true :: .greater true :: .sign "=" :: r => some (some .shiftRight, r)
  | _ => none

def assignment (fuel : Nat) : Parse Stmt := do
  let target ← expr fuel 0
  match assignment? (← get).rest with
  | some (op, rest) => do
    setRest rest
    pure (.assign target op (← expr fuel 0))
  | none =>
    if ← sign? "++" then pure (.count target)
    else if ← sign? "--" then pure (.count target)
    else refuse

/-- A call or an assignment. A word right before an argument list is always called. -/
def callOrAssignment (fuel : Nat) : Parse Stmt := do
  match (← get).rest with
  | .word s :: .sign "(" :: _ => do
    skip
    lookUp s
    pure (.invoke s (← arguments fuel))
  | _ => assignment fuel

def typeAfterColon (fuel : Nat) : Parse (Option TypeRef) := do
  if ← sign? ":" then some <$> typeRef fuel else pure none

def valueAfterEquals (fuel : Nat) : Parse (Option Expr) := do
  if ← sign? "=" then some <$> expr fuel 0 else pure none

/-- Declarations and jumps, up to their semicolon. A name is declared after its value. -/
def simple (fuel : Nat) (keyword : String) : Parse (Option Stmt) := do
  let ended := fun s : Stmt => do
    sign ";"
    pure (some s)
  match keyword with
  | "_" => do
    skip
    sign "="
    ended (.ignore (← expr fuel 0))
  | "let" => do
    skip
    let name ← freshName
    let type ← typeAfterColon fuel
    sign "="
    let value ← expr fuel 0
    sign ";"
    pure (some (.constant (← declare name) type value))
  | "var" => do
    skip
    let name ← freshName
    let type ← typeAfterColon fuel
    let value ← valueAfterEquals fuel
    sign ";"
    pure (some (.variable (← declare name) type value))
  | "return" => do
    skip
    if ← isNext ";" then ended (.yield none) else ended (.yield (some (← expr fuel 0)))
  | "break" => do
    skip
    ended .leave
  | "continue" => do
    skip
    ended .again
  | "discard" => do
    skip
    ended .discard
  | _ => pure none

def Stmt.isStart : Stmt → Bool
  | .invoke _ _ => true
  | .assign _ _ _ => true
  | .constant _ _ _ => true
  | .variable _ _ _ => true
  | _ => false

/-- What leaves a loop whose test fails. -/
def guardStmt (test : Expr) : Stmt := .branch test [] [.leave]

/-- The labels of a case, up to its colon or body. Every label but the last falls through. Behind a
comma only a colon ends them. -/
def labels : (fuel : Nat) → Parse (List (Option Expr))
  | 0 => refuse
  | fuel + 1 => do
    let label ← if ← word? "default" then pure none else some <$> expr fuel 0
    if ← sign? "," then
      if ← isNext ":" then pure [label]
      else do pure (label :: (← labels fuel))
    else pure [label]

def casesOf (body : List Stmt) : List (Option Expr) → List Stmt
  | [] => []
  | [label] => [.case label false body]
  | label :: rest => .case label true [] :: casesOf body rest

mutual

def block : (fuel : Nat) → Parse (List Stmt)
  | 0 => refuse
  | fuel + 1 => do
    enter
    sign "\x7b"
    let body ← stmts fuel
    leave
    pure body

def stmts : (fuel : Nat) → Parse (List Stmt)
  | 0 => refuse
  | fuel + 1 => do
    if ← sign? "\x7d" then pure []
    else do
      let s ← stmt fuel
      pure (s ++ (← stmts fuel))

/-- A statement with its semicolon, if it takes one. -/
def stmt : (fuel : Nat) → Parse (List Stmt)
  | 0 => refuse
  | fuel + 1 => do
    match ← peek with
    | some (.sign ";") => do
      skip
      pure []
    | some (.sign "\x7b") => do pure [.block (← block fuel)]
    | some (.word "if") => do
      skip
      pure [← branch fuel]
    | some (.word "switch") => do
      skip
      let selector ← expr fuel 0
      sign "\x7b"
      pure [.choose selector (← cases fuel)]
    | some (.word "loop") => do
      skip
      sign "\x7b"
      enter
      let s ← rounds fuel []
      leave
      pure [s]
    | some (.word "while") => do
      skip
      let test ← expr fuel 0
      pure [.loop [guardStmt test, .block (← block fuel)] [] none]
    | some (.word "for") => do
      skip
      sign "("
      enter
      let s ← counted fuel
      leave
      pure s
    | some (.word w) => do
      match ← simple fuel w with
      | some s => pure [s]
      | none => do
        let s ← callOrAssignment fuel
        sign ";"
        pure [s]
    | _ => do
      let s ← assignment fuel
      sign ";"
      pure [s]

def counted : (fuel : Nat) → Parse (List Stmt)
  | 0 => refuse
  | fuel + 1 => do
    let start ← if ← sign? ";" then pure [] else stmt fuel
    match start.getLast? with
    | some s => if s.isStart then pure () else refuse
    | none => pure ()
    let test ← if ← sign? ";" then pure []
      else do
        let e ← expr fuel 0
        sign ";"
        pure [guardStmt e]
    let update ← if ← sign? ")" then pure []
      else do
        let s ← callOrAssignment fuel
        sign ")"
        pure [s]
    pure (start ++ [.loop (test ++ [.block (← block fuel)]) update none])

def branch : (fuel : Nat) → Parse Stmt
  | 0 => refuse
  | fuel + 1 => do
    let test ← expr fuel 0
    let yes ← block fuel
    if ← word? "else" then
      if ← word? "if" then pure (.branch test yes [← branch fuel])
      else pure (.branch test yes (← block fuel))
    else pure (.branch test yes [])

def cases : (fuel : Nat) → Parse (List Stmt)
  | 0 => refuse
  | fuel + 1 => do
    if ← sign? "\x7d" then pure []
    else do
      let given ← if ← word? "default" then pure [none]
        else if ← word? "case" then labels fuel
        else refuse
      let _ ← sign? ":"
      let body ← block fuel
      pure (casesOf body given ++ (← cases fuel))

/-- The body of a loop up to its closing brace, with what has been read of it, the last
statement first. -/
def rounds : (fuel : Nat) → List (List Stmt) → Parse Stmt
  | 0, _ => refuse
  | fuel + 1, body => do
    if ← sign? "\x7d" then pure (.loop body.reverse.flatten [] none)
    else if ← word? "continuing" then do
      sign "\x7b"
      let (update, leaveIf) ← updates fuel
      sign "\x7d"
      pure (.loop body.reverse.flatten update leaveIf)
    else do
      let s ← stmt fuel
      rounds fuel (s :: body)

/-- What ends each round of a loop, and the test that then leaves it. -/
def updates : (fuel : Nat) → Parse (List Stmt × Option Expr)
  | 0 => refuse
  | fuel + 1 => do
    if ← sign? "\x7d" then pure ([], none)
    else if ← word? "break" then
      if ← word? "if" then do
        let test ← expr fuel 0
        sign ";"
        sign "\x7d"
        pure ([], some test)
      else refuse
    else do
      let s ← stmt fuel
      let (ss, leaveIf) ← updates fuel
      pure (s ++ ss, leaveIf)

end

end ShaderLoom.Wgsl
