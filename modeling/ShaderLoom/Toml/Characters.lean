/-!
The character classes of the configuration format.
-/

namespace ShaderLoom.Toml

def isBlank (c : Char) : Bool := c = ' ' || c = '\t'

/-- Printable ASCII, tab, and everything outside ASCII. -/
def isText (c : Char) : Bool := c = '\t' || (' ' ≤ c && c ≤ '~') || '\x80' ≤ c

def isBasic (c : Char) : Bool := isText c && c != '"' && c != '\\'

def isLiteral (c : Char) : Bool := isText c && c != '\''

def isLetter (c : Char) : Bool := ('a' ≤ c && c ≤ 'z') || ('A' ≤ c && c ≤ 'Z')

def isDigit (c : Char) : Bool := '0' ≤ c && c ≤ '9'

/-- What a key may hold without quotes. -/
def isBare (c : Char) : Bool := isLetter c || isDigit c || c = '_' || c = '-'

/-- What numbers, dates and the names of constants are made of. -/
def isToken (c : Char) : Bool := isBare c || c = '+' || c = '.' || c = ':'

def digitValue (c : Char) : Nat := c.toNat - '0'.toNat

/-- The value of a hexadecimal digit in either case. -/
def hexValue? (c : Char) : Option Nat :=
  if isDigit c then some (digitValue c)
  else if 'a' ≤ c && c ≤ 'f' then some (c.toNat - 'a'.toNat + 10)
  else if 'A' ≤ c && c ≤ 'F' then some (c.toNat - 'A'.toNat + 10)
  else none

def hexNumber? (cs : List Char) : Option Nat :=
  cs.foldlM (fun n c => (hexValue? c).map (16 * n + ·)) 0

/-- The character with a code given in hexadecimal, unless the code is no character. -/
def scalar? (cs : List Char) : Option Char := do
  let n ← hexNumber? cs
  if n.isValidChar then some (Char.ofNat n) else none

/-- The letters that stand for a character after a backslash. -/
def escape? : Char → Option Char
  | 'b' => some '\x08'
  | 't' => some '\t'
  | 'n' => some '\n'
  | 'f' => some '\x0c'
  | 'r' => some '\r'
  | '"' => some '"'
  | '\\' => some '\\'
  | _ => none

end ShaderLoom.Toml
