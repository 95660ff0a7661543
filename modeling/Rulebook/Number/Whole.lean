/-
  Whole numbers and their decimal texts.

  Neither direction handles more than 4300 digits: the conversion is refused instead.

  1. `DigitLimit`: the refusal;
  2. `ofDigits`: a run of digits, of any script, as a number;
  3. `text`: a number in decimal digits.
-/
import Rulebook.Number.Power
import Rulebook.Text.Digit

namespace Rulebook.Number.Whole

open Rulebook.Text

/-- The longest number, in digits, that is read or written. -/
def digitLimit : Nat := 4300

/-- A conversion refused for its length; `reading` also knows how many digits there were. -/
inductive DigitLimit
  | reading (count : Nat)
  | writing
deriving DecidableEq, Repr

/-- The wording of the refusal, which states the `digitLimit`. -/
def DigitLimit.message : DigitLimit → String
  | .reading count =>
    s!"Exceeds the limit ({digitLimit} digits) for integer string conversion: value has {count} "
      ++ "digits; use sys.set_int_max_str_digits() to increase the limit"
  | .writing =>
    s!"Exceeds the limit ({digitLimit} digits) for integer string conversion; "
      ++ "use sys.set_int_max_str_digits() to increase the limit"

/-! ## Reading -/

/-- The number written by a sign and the run of `digits`; leading zeros count towards the
    `digitLimit`. -/
def ofDigits (negative : Bool) (digits : List Char) : Except DigitLimit Int :=
  if digitLimit < digits.length then .error (.reading digits.length)
  else
    let n : Int := readNat digits
    .ok (if negative then -n else n)

/-! ## Writing -/

/-- The number `n` in decimal digits, if there are not more than the `digitLimit`. -/
def text (n : Int) : Except DigitLimit String :=
  if tenTo digitLimit ≤ n.natAbs then .error .writing
  else .ok (if n < 0 then "-" ++ n.natAbs.repr else n.natAbs.repr)

end Rulebook.Number.Whole
