import ShaderLoom.Number.Rounding
import ShaderLoom.Text.Column

/-!
Numbers written with a fixed number of decimal places. The exact binary value is rounded, a
tie to the even neighbour, and the sign is kept even when every digit is zero.
-/

namespace ShaderLoom.Number

def Dyadic.fixed (places : Nat) (d : Dyadic) : String :=
  let n := d.roundTimes (power 10 places)
  (if d.negative then "-" else "") ++ toString (n / power 10 places) ++ "." ++
    Text.zeroPad places (n % power 10 places)

def Reading.fixed (places : Nat) : Reading → String
  | .nan => "NaN"
  | .infinite false => "inf"
  | .infinite true => "-inf"
  | .finite d => d.fixed places

end ShaderLoom.Number
