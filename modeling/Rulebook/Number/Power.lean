/-
  Powers of two and of ten.

  1. `twoTo`, `tenTo`: the powers;
  2. their laws: positive, and a sum of exponents is a product of powers.
-/

namespace Rulebook.Number

/-- The power `2^n`. -/
def twoTo (n : Nat) : Nat := Nat.pow 2 n

/-- The power `10^n`. -/
def tenTo (n : Nat) : Nat := Nat.pow 10 n

theorem twoTo_pos (n : Nat) : 0 < twoTo n := Nat.pow_pos (by decide)

theorem tenTo_pos (n : Nat) : 0 < tenTo n := Nat.pow_pos (by decide)

/-- Exponents add up: `10^(m + n)` is the product of `10^m` and `10^n`. -/
theorem tenTo_add (m n : Nat) : tenTo (m + n) = tenTo m * tenTo n := Nat.pow_add 10 m n

@[simp] theorem tenTo_zero : tenTo 0 = 1 := rfl

end Rulebook.Number
