import ShaderLoom.Toml.Characters

/-!
The four forms of strings, read from behind their opening quotes: with escapes or without,
on one line or on several. Each reader returns the content and the text after the closing
quotes.
-/

namespace ShaderLoom.Toml

abbrev Content := Option (List Char × List Char)

def push (c : Char) : Content → Content := Option.map fun (s, r) => (c :: s, r)

def push? (c : Option Char) (k : Content) : Content := c.bind fun c => push c k

def basic : List Char → Content
  | [] => none
  | '"' :: r => some ([], r)
  | '\\' :: 'u' :: a :: b :: c :: d :: r => push? (scalar? [a, b, c, d]) (basic r)
  | '\\' :: 'U' :: a :: b :: c :: d :: e :: f :: g :: h :: r =>
    push? (scalar? [a, b, c, d, e, f, g, h]) (basic r)
  | '\\' :: e :: r => push? (escape? e) (basic r)
  | c :: r => if isBasic c then push c (basic r) else none

def literal : List Char → Content
  | [] => none
  | c :: r =>
    if c = '\'' then some ([], r) else if isLiteral c then push c (literal r) else none

/-- A backslash at the end of a line drops the line end and all blanks and line ends after
it: the reader then looks for the line end, and skips. -/
inductive Joining where
  | no | seeking | skipping

/-- Up to two quotes may stand anywhere, also just before the closing three. -/
def multiBasic : Joining → List Char → Content
  | _, [] => none
  | .seeking, '\n' :: r => multiBasic .skipping r
  | .seeking, '\r' :: '\n' :: r => multiBasic .skipping r
  | .seeking, c :: r => if isBlank c then multiBasic .seeking r else none
  | .skipping, '\n' :: r => multiBasic .skipping r
  | .skipping, '\r' :: '\n' :: r => multiBasic .skipping r
  | .skipping, ' ' :: r => multiBasic .skipping r
  | .skipping, '\t' :: r => multiBasic .skipping r
  | _, '"' :: '"' :: '"' :: '"' :: '"' :: r => some (['"', '"'], r)
  | _, '"' :: '"' :: '"' :: '"' :: r => some (['"'], r)
  | _, '"' :: '"' :: '"' :: r => some ([], r)
  | _, '"' :: r => push '"' (multiBasic .no r)
  | _, '\n' :: r => push '\n' (multiBasic .no r)
  | _, '\r' :: '\n' :: r => push '\n' (multiBasic .no r)
  | _, '\\' :: '\n' :: r => multiBasic .skipping r
  | _, '\\' :: '\r' :: '\n' :: r => multiBasic .skipping r
  | _, '\\' :: ' ' :: r => multiBasic .seeking r
  | _, '\\' :: '\t' :: r => multiBasic .seeking r
  | _, '\\' :: 'u' :: a :: b :: c :: d :: r =>
    push? (scalar? [a, b, c, d]) (multiBasic .no r)
  | _, '\\' :: 'U' :: a :: b :: c :: d :: e :: f :: g :: h :: r =>
    push? (scalar? [a, b, c, d, e, f, g, h]) (multiBasic .no r)
  | _, '\\' :: e :: r => push? (escape? e) (multiBasic .no r)
  | _, c :: r => if isBasic c then push c (multiBasic .no r) else none

def multiLiteral : List Char → Content
  | [] => none
  | '\'' :: '\'' :: '\'' :: '\'' :: '\'' :: r => some (['\'', '\''], r)
  | '\'' :: '\'' :: '\'' :: '\'' :: r => some (['\''], r)
  | '\'' :: '\'' :: '\'' :: r => some ([], r)
  | '\'' :: r => push '\'' (multiLiteral r)
  | '\n' :: r => push '\n' (multiLiteral r)
  | '\r' :: '\n' :: r => push '\n' (multiLiteral r)
  | c :: r => if isLiteral c then push c (multiLiteral r) else none

/-- A line end just behind the opening quotes is not part of the content. -/
def trimFirst : List Char → List Char
  | '\n' :: r => r
  | '\r' :: '\n' :: r => r
  | r => r

/-- A string on one line, with its opening quote. -/
def lineString : List Char → Content
  | '"' :: r => basic r
  | '\'' :: r => literal r
  | _ => none

/-- A string in any form, with its opening quotes. -/
def anyString : List Char → Content
  | '"' :: '"' :: '"' :: r => multiBasic .no (trimFirst r)
  | '\'' :: '\'' :: '\'' :: r => multiLiteral (trimFirst r)
  | r => lineString r

end ShaderLoom.Toml
