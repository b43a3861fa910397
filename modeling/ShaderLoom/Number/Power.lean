/-!
Powers of whole numbers.
-/

namespace ShaderLoom.Number

def power (base exponent : Nat) : Nat := Nat.pow base exponent

@[simp] theorem power_zero (base : Nat) : power base 0 = 1 := rfl

theorem power_succ (base n : Nat) : power base (n + 1) = power base n * base := rfl

theorem power_pos {base : Nat} (h : 0 < base) (n : Nat) : 0 < power base n := Nat.pow_pos h

end ShaderLoom.Number
