/-!
Blank characters: the white space of Unicode.
-/

namespace ShaderLoom.Text

/-- Blank code points outside the two ranges that are tested by comparison. -/
def blankCodes : List Nat := [0x20, 0x85, 0xa0, 0x1680, 0x2028, 0x2029, 0x202f, 0x205f, 0x3000]

def isBlank (c : Char) : Bool :=
  (9 ≤ c.toNat && c.toNat ≤ 13) || (0x2000 ≤ c.toNat && c.toNat ≤ 0x200a) ||
    blankCodes.contains c.toNat

/-- A text without the blanks at its end. -/
def trimEnd (s : String) : String :=
  String.ofList (s.toList.reverse.dropWhile isBlank).reverse

end ShaderLoom.Text
