/-
  Exact decimals, as far as the rules on multiples and on decimal places need them.

  1. `Decimal`: a signed coefficient and a power of ten;
  2. `isMultiple`: is one decimal a whole multiple of another?  The question is answered only
     while the quotient fits into 28 digits;
  3. `places`: how many digits a decimal needs behind the point.
-/
import Rulebook.Number.Double

namespace Rulebook.Number

/-- The decimal `coefficient · 10^exponent`; the sign is left out, for neither question below
    depends on it. -/
structure Decimal where
  coefficient : Nat
  exponent : Int
deriving DecidableEq, Repr

namespace Decimal

/-- How many digits a quotient may have. -/
def precision : Nat := 28

/-- The magnitude of the whole number `n`. -/
def ofInt (n : Int) : Decimal := ⟨n.natAbs, 0⟩

/-- The decimal that the number of so many `units` is written as, the one of `Double.shortest`. -/
def ofUnits (units : Nat) : Decimal :=
  let (digits, exponent) := Double.shortest units
  ⟨digits, exponent⟩

/-- The coefficient that `d` has on the power of ten `exponent`, which is none coarser than its
    own. -/
def scaled (d : Decimal) (exponent : Int) : Nat :=
  d.coefficient * tenTo (d.exponent - exponent).toNat

/-- Is `value` a whole multiple of the positive `base`? No answer when the quotient takes more than
    `precision` digits. -/
def isMultiple (value base : Decimal) : Option Bool :=
  let e := min value.exponent base.exponent
  let a := value.scaled e
  let b := base.scaled e
  if tenTo precision ≤ a / b then none else some (a % b == 0)

/-- The digits that `d` needs behind the point, trailing zeros not counted. -/
def places (d : Decimal) : Nat :=
  let (_, exponent) := Double.dropZeros d.exponent.natAbs d.coefficient d.exponent
  if d.coefficient = 0 then 0 else (-exponent).toNat

/-- Between the whole numbers `n` and `b` the answer of `isMultiple` is divisibility. -/
theorem isMultiple_ofInt (n b : Int) :
    isMultiple (ofInt n) (ofInt b) =
      if tenTo precision ≤ n.natAbs / b.natAbs then none
      else some (n.natAbs % b.natAbs == 0) := by
  simp [isMultiple, ofInt, scaled]

end Decimal

end Rulebook.Number
