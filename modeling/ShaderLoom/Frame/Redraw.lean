import ShaderLoom.Number.Rounding

/-!
When to redraw next: at once, not before something else happens, or after a wait in whole
nanoseconds, rounded to the nearest, a tie to the even neighbour.
-/

namespace ShaderLoom

open Number

inductive Redraw where
  | idle
  | now
  | after (nanoseconds : Nat)
  deriving DecidableEq, Repr

namespace Redraw

/-- Waits are shorter than this many seconds. -/
def longest : Nat := power 2 64

/-- A wait in nanoseconds, unless it is negative, too long or no number. -/
def wait? : Reading → Option Nat
  | .finite d =>
    if d.negative && d.mantissa != 0 then none
    else if d.numerator 1 < longest * d.denominator then some (d.roundTimes (power 10 9)) else none
  | _ => none

/-- There is no schedule when the frame is not due and the wait cannot be expressed. -/
def schedule? (due : Option Float) (now : Float) : Option Redraw :=
  match due with
  | none => some idle
  | some due =>
    if due ≤ now then some Redraw.now
    else (wait? (Format.double.read (due - now).toBits.toNat)).map after

end Redraw

end ShaderLoom
