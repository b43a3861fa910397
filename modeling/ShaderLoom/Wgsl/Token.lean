import ShaderLoom.Wgsl.Complaint
import ShaderLoom.Wgsl.Numeral

/-!
The words, numbers and signs of a module.

A sign is the longest one that fits, except that a closing angle bracket is always a token of
its own, since it may end a list of type arguments; it remembers whether the next character
follows at once. Comments may be nested. A comment that is never closed ends the module.
-/

namespace ShaderLoom.Wgsl

inductive Token where
  | word (s : String)
  | number (value : Literal)
  | sign (s : String)
  | greater (glued : Bool)
  deriving DecidableEq

def Token.text : Token → String
  | word s => "'" ++ s ++ "'"
  | number _ => "number"
  | sign s => "'" ++ s ++ "'"
  | greater _ => "'>'"

def isSpace (c : Char) : Bool :=
  c = ' ' || ('\t' ≤ c && c ≤ '\r') || c = '\x85' || c = '\u200e' || c = '\u200f' ||
    c = '\u2028' || c = '\u2029'

/-- What ends a comment that began with two slashes. -/
def isLineBreak (c : Char) : Bool :=
  ('\n' ≤ c && c ≤ '\r') || c = '\x85' || c = '\u2028' || c = '\u2029'

/-- Every sign but the closing angle bracket, longer ones first. -/
def signs : List String :=
  ["<<=", "->", "--", "-=", "++", "+=", "*=", "/=", "%=", "&&", "&=", "||", "|=", "^=", "==",
   "!=", "<<", "<=", "-", "+", "*", "/", "%", "&", "|", "^", "=", "!", "~", "<", "(", ")", "[",
   "]", "\x7b", "\x7d", ",", ";", ":", ".", "@"]

def afterSign? (s : String) (cs : List Char) : Option (List Char) :=
  if s.toList.isPrefixOf cs then some (cs.drop s.length) else none

def longestSign? (cs : List Char) : Option (Token × List Char) :=
  signs.findSome? fun s => (afterSign? s cs).map (.sign s, ·)

/-- The text behind a comment in which `depth` openings are still to be closed. -/
def afterComment : (depth : Nat) → List Char → List Char
  | _, [] => []
  | depth, '*' :: '/' :: r => if depth ≤ 1 then r else afterComment (depth - 1) r
  | depth, '/' :: '*' :: r => afterComment (depth + 1) r
  | depth, _ :: r => afterComment depth r

def numberAt? (cs : List Char) : Option (Token × List Char) :=
  (numeral cs).map fun (l, r) => (.number l, r)

def nextToken (cs : List Char) : Option (Token × List Char) :=
  match cs with
  | [] => none
  | '>' :: r => some (.greater (r.head?.any fun c => c = '>' || c = '='), r)
  | '.' :: d :: _ => if isDigit d then numberAt? cs else longestSign? cs
  | c :: _ =>
    if isDigit c then numberAt? cs
    else if isWordStart c then
      some (.word (String.ofList (cs.takeWhile isWordPart)), cs.dropWhile isWordPart)
    else longestSign? cs

/-- Each token, comment or blank consumes a character, so the length is fuel enough. -/
def tokensFrom : (fuel : Nat) → List Char → Checked (List Token)
  | 0, _ => .ok []
  | _, [] => .ok []
  | fuel + 1, c :: r =>
    if isSpace c then tokensFrom fuel r
    else match c, r with
      | '/', '/' :: t => tokensFrom fuel (t.dropWhile (!isLineBreak ·))
      | '/', '*' :: t => tokensFrom fuel (afterComment 1 t)
      | _, _ =>
        match nextToken (c :: r) with
        | none => .error (.character c)
        | some (token, t) => do
          let rest ← tokensFrom fuel t
          .ok (token :: rest)

def tokens (s : String) : Checked (List Token) :=
  let cs := s.toList
  tokensFrom cs.length cs

end ShaderLoom.Wgsl
