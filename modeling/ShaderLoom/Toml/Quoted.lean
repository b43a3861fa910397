import ShaderLoom.Toml.Characters

/-!
Writing a string: the choice among its forms, and each form.

A form without escapes is used where the string allows it, and a form on several lines where
the string has line ends or where it saves escapes.
-/

namespace ShaderLoom.Toml

inductive Form where
  | basic | literal | multiBasic | multiLiteral
  deriving DecidableEq, Repr

/-- Control characters other than tab and newline. -/
def isControl (c : Char) : Bool := (c < ' ' && c != '\t' && c != '\n') || c = '\x7f'

/-- The length of the longest run of a character; `run` is what has been seen of one. -/
def longestRun (q : Char) : (run : Nat) → List Char → Nat
  | run, [] => run
  | run, c :: r => if c = q then longestRun q (run + 1) r else max run (longestRun q 0 r)

def chooseForm (s : List Char) : Form :=
  let control := s.any isControl
  let backslash := s.any (· = '\\')
  let newline := s.any (· = '\n')
  let double := longestRun '"' 0 s
  let single := longestRun '\'' 0 s
  if !(control || backslash || newline) && double = 0 then .basic
  else if !(control || newline) && single = 0 then .literal
  else if !(control || backslash) && double ≤ 2 then .multiBasic
  else if !control && single ≤ 2 then .multiLiteral
  else if newline then .multiBasic
  else .basic

def hexDigit (n : Nat) : Char := if n < 10 then Char.ofNat (48 + n) else Char.ofNat (55 + n)

def codeEscape (c : Char) : List Char :=
  ['\\', 'u', '0', '0', hexDigit (c.toNat / 16), hexDigit (c.toNat % 16)]

/-- How a character is escaped, if it is one that is escaped in either form. -/
def escaped? (c : Char) : Option (List Char) :=
  if c = '\x08' then some ['\\', 'b']
  else if c = '\t' then some ['\\', 't']
  else if c = '\x0c' then some ['\\', 'f']
  else if c = '\r' then some ['\\', 'r']
  else if c = '\\' then some ['\\', '\\']
  else if isControl c then some (codeEscape c)
  else none

def basicBody : List Char → List Char
  | [] => []
  | c :: r =>
    (if c = '"' then ['\\', '"']
     else if c = '\n' then ['\\', 'n']
     else (escaped? c).getD [c]) ++ basicBody r

/-- The third quote of a run is escaped; `run` counts the quotes just written. -/
def multiBasicBody : (run : Nat) → List Char → List Char
  | _, [] => []
  | run, c :: r =>
    if c = '"' then
      if run = 2 then '\\' :: '"' :: multiBasicBody 0 r else '"' :: multiBasicBody (run + 1) r
    else (escaped? c).getD [c] ++ multiBasicBody 0 r

def write (form : Form) (s : List Char) : List Char :=
  let lead := if s.any (· = '\n') then ['\n'] else []
  match form with
  | .basic => ['"'] ++ basicBody s ++ ['"']
  | .literal => ['\''] ++ s ++ ['\'']
  | .multiBasic => ['"', '"', '"'] ++ lead ++ multiBasicBody 0 s ++ ['"', '"', '"']
  | .multiLiteral => ['\'', '\'', '\''] ++ lead ++ s ++ ['\'', '\'', '\'']

def quote (s : List Char) : List Char := write (chooseForm s) s

end ShaderLoom.Toml
