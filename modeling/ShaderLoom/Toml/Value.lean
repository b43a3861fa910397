/-!
Values of the configuration format.

Of a fraction, a date or a time only the fact is kept, since no setting is one. A table
remembers how it came about, which decides whether later lines may add to it.
-/

namespace ShaderLoom.Toml

/-- Written as a header, implied by a longer header, made by a dotted key, or written inline
between braces. -/
inductive Origin where
  | header | implied | dotted | braces
  deriving DecidableEq, Repr

inductive Value where
  | string (s : String)
  | integer (n : Int)
  | fraction
  | boolean (b : Bool)
  | moment
  | array (items : List Value)
  | table (origin : Origin) (entries : List (String × Value))
  | tables (rows : List (List (String × Value)))

abbrev Entries := List (String × Value)

namespace Entries

def get? (es : Entries) (key : String) : Option Value := es.lookup key

/-- Replaces the value of a key that is there. -/
def set (es : Entries) (key : String) (v : Value) : Entries :=
  es.map fun e => if e.1 = key then (key, v) else e

end Entries

end ShaderLoom.Toml
