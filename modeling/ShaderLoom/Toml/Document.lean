import ShaderLoom.Toml.Scalar
import ShaderLoom.Toml.Strings
import ShaderLoom.Toml.Table

/-!
Reading a document of the configuration format.

A document is a list of lines: blank, a comment, a table header, or a key with a value. Every
reader takes the text that is left and returns what it read with the text behind it. Each
call that reads a value, an element or a line spends one unit of `fuel`; a document has as
much as it has characters, and every such call consumes one.
-/

namespace ShaderLoom.Toml

abbrev Read (α : Type) := List Char → Option (α × List Char)

def blanks (s : List Char) : List Char := s.dropWhile isBlank

/-- Skips blanks, line ends and comments between the elements of an array. -/
def gap : Bool → List Char → Option (List Char)
  | false, [] => some []
  | true, [] => none
  | _, '\n' :: r => gap false r
  | _, '\r' :: '\n' :: r => gap false r
  | true, c :: r => if isText c then gap true r else none
  | false, '#' :: r => gap true r
  | false, c :: r => if isBlank c then gap false r else some (c :: r)

/-- The end of a line: blanks, a comment if there is one, and a line end or the end of the
text. -/
def lineEnd (s : List Char) : Option (List Char) :=
  let r := blanks s
  let t := match r with
    | '#' :: c => c.dropWhile isText
    | _ => r
  match t with
  | [] => some []
  | '\n' :: u => some u
  | '\r' :: '\n' :: u => some u
  | _ => none

/-- One part of a key, bare or quoted. -/
def keyPart : Read String
  | '"' :: r => (basic r).map fun (k, t) => (String.ofList k, t)
  | '\'' :: r => (literal r).map fun (k, t) => (String.ofList k, t)
  | s =>
    let k := s.takeWhile isBare
    if k.isEmpty then none else some (String.ofList k, s.dropWhile isBare)

/-- The parts of a key, with blanks around each and points between them. -/
def keyParts : (fuel : Nat) → Read (List String)
  | 0, _ => none
  | fuel + 1, s => do
    let (k, r) ← keyPart (blanks s)
    match blanks r with
    | '.' :: t => do
      let (ks, u) ← keyParts fuel t
      some (k :: ks, u)
    | t => some ([k], t)

/-- How deep values may be nested, and how many parts a key may have. -/
def limit : Nat := 80

def key (s : List Char) : Option (List String × List Char) := do
  let (ks, r) ← keyParts s.length s
  guard (ks.length < limit)
  some (ks, r)

mutual

/-- `room` is how many brackets may still be opened around a value. -/
def value : (fuel room : Nat) → Read Value
  | 0, _, _ => none
  | _, _, [] => none
  | fuel + 1, room, c :: r =>
    if c = '"' ∨ c = '\'' then
      (anyString (c :: r)).map fun (s, t) => (.string (String.ofList s), t)
    else if c = '[' then
      match room with
      | 0 => none
      | room + 1 => do
        let (items, t) ← elements fuel room (← gap false r)
        some (.array items, t)
    else if c = '\x7b' then
      match room with
      | 0 => none
      | room + 1 =>
        match blanks r with
        | '\x7d' :: t => some (.table .braces [], t)
        | t => do
          let (es, u) ← pairs fuel room [] t
          some (.table .braces es, u)
    else scalar (c :: r)

/-- The elements of an array up to its closing bracket; a comma may follow the last. -/
def elements : (fuel room : Nat) → Read (List Value)
  | _, _, ']' :: r => some ([], r)
  | 0, _, _ => none
  | fuel + 1, room, s => do
    let (v, r) ← value fuel room s
    match ← gap false r with
    | ']' :: t => some ([v], t)
    | ',' :: t => do
      let (vs, u) ← elements fuel room (← gap false t)
      some (v :: vs, u)
    | _ => none

/-- The entries of an inline table up to its closing brace. -/
def pairs : (fuel room : Nat) → Entries → Read Entries
  | 0, _, _, _ => none
  | fuel + 1, room, es, s => do
    let (ks, r) ← key s
    let t ← match r with
      | '=' :: t => some (blanks t)
      | _ => none
    let (v, u) ← value fuel room t
    let more ← insertAt ks v .braces es
    match blanks u with
    | '\x7d' :: w => some (more, w)
    | ',' :: w => pairs fuel room more w
    | _ => none

end

/-- A line that assigns a value to a key. -/
def assignment (fuel : Nat) (d : Draft) (s : List Char) : Option (Draft × List Char) := do
  let (ks, r) ← key s
  let t ← match r with
    | '=' :: t => some (blanks t)
    | _ => none
  let (v, u) ← value fuel (limit - 1) t
  let next ← d.assign ks v
  some (next, ← lineEnd u)

/-- A line that is a header, from behind its first bracket. -/
def header (d : Draft) (s : List Char) : Option (Draft × List Char) := do
  match s with
  | '[' :: r => do
    let (ks, t) ← key r
    match t with
    | ']' :: ']' :: u => do some (← d.openWith openRow ks, ← lineEnd u)
    | _ => none
  | _ => do
    let (ks, t) ← key s
    match t with
    | ']' :: u => do some (← d.openWith openTable ks, ← lineEnd u)
    | _ => none

def fileLines : (fuel : Nat) → Draft → List Char → Option Draft
  | 0, d, s => if (blanks s).isEmpty then some d else none
  | fuel + 1, d, s =>
    match blanks s with
    | [] => some d
    | '[' :: r => do
      let (e, t) ← header d r
      fileLines fuel e t
    | c :: r =>
      if c = '#' ∨ c = '\n' ∨ c = '\r' then do fileLines fuel d (← lineEnd (c :: r))
      else do
        let (e, t) ← assignment fuel d (c :: r)
        fileLines fuel e t

/-- The entries of a document, whose first character may be a byte-order mark. -/
def document (s : List Char) : Option Entries :=
  let t := match s with
    | '\ufeff' :: r => r
    | r => r
  (fileLines t.length .empty t).map (·.root)

end ShaderLoom.Toml
