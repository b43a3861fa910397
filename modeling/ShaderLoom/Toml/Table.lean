import ShaderLoom.Toml.Value

/-!
Adding to a table along a path of keys.

On the way a missing table is made, an array of tables stands for its last row, and a value
that is no table ends the attempt. Keys with dots may not enter a table written as a header;
nothing may enter one written between braces.
-/

namespace ShaderLoom.Toml

/-- Why a path is followed: for a header, or for a key with dots. -/
inductive Path where
  | header | dotted
  deriving DecidableEq, Repr

def Path.fresh : Path → Origin
  | header => .implied
  | dotted => .dotted

def Path.mayEnter : Path → Origin → Bool
  | _, .braces => false
  | dotted, .header => false
  | _, _ => true

/-- Changes the table at the end of a path. -/
def within (why : Path) (f : Origin → Entries → Option Entries) :
    List String → Origin → Entries → Option Entries
  | [], o, es => f o es
  | k :: ks, _, es =>
    match es.get? k with
    | none => do
      let inner ← within why f ks why.fresh []
      some (es ++ [(k, .table why.fresh inner)])
    | some (.table o inner) => do
      guard (why.mayEnter o)
      let inner ← within why f ks o inner
      some (es.set k (.table o inner))
    | some (.tables rows) => do
      let last ← rows.getLast?
      let row ← within why f ks .header last
      some (es.set k (.tables (rows.dropLast ++ [row])))
    | some _ => none

/-- Adds a value under a key that is new. -/
def insertNew (key : String) (v : Value) (es : Entries) : Option Entries :=
  match es.get? key with
  | none => some (es ++ [(key, v)])
  | some _ => none

/-- Adds a value under a path of keys. A key with dots ends in a table that such keys made, a
key without dots in one that they did not make. -/
def insertAt (keys : List String) (v : Value) (origin : Origin) (es : Entries) :
    Option Entries := do
  let last ← keys.getLast?
  let path := keys.dropLast
  within .dotted (fun o es => do
    guard (decide (o = .dotted) != path.isEmpty)
    insertNew last v es) path origin es

/-- Opens the table that a header names; one that was implied so far becomes written. -/
def openTable (key : String) (es : Entries) : Option Entries :=
  match es.get? key with
  | none => some (es ++ [(key, .table .header [])])
  | some (.table .implied inner) => some (es.set key (.table .header inner))
  | some _ => none

/-- Opens a new row of the array of tables that a header names. -/
def openRow (key : String) (es : Entries) : Option Entries :=
  match es.get? key with
  | none => some (es ++ [(key, .tables [[]])])
  | some (.tables rows) => some (es.set key (.tables (rows ++ [[]])))
  | some _ => none

/-- A document in the making: the whole of it, and the path of the table that lines add to. -/
structure Draft where
  root : Entries
  current : List String

def Draft.empty : Draft := ⟨[], []⟩

def Draft.openWith (f : String → Entries → Option Entries) (d : Draft) (keys : List String) :
    Option Draft := do
  let last ← keys.getLast?
  let root ← within .header (fun _ => f last) keys.dropLast .header d.root
  some ⟨root, keys⟩

def Draft.assign (d : Draft) (keys : List String) (v : Value) : Option Draft := do
  let root ← within .header (fun o => insertAt keys v o) d.current .header d.root
  some { d with root := root }

end ShaderLoom.Toml
