/-!
Text set in a column of fixed width.
-/

namespace ShaderLoom.Text

/-- Right aligned: blanks in front up to the width, and nothing is ever cut. -/
def padLeft (width : Nat) (s : String) : String :=
  String.ofList (s.toList.leftpad width ' ')

/-- A numeral with zeros in front up to the width. -/
def zeroPad (width : Nat) (n : Nat) : String :=
  String.ofList ((Nat.toDigits 10 n).leftpad width '0')

end ShaderLoom.Text
