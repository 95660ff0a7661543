/-
  Binary floating-point numbers of 64 bits, without their arithmetic.

  A finite number is a whole multiple of 2^-1074, the smallest positive one, so it is stored as
  a sign and that multiple: its *units*.  Order, equality and integrality are then statements
  about whole numbers.

  1. `Double`, `Place`: the numbers and the line they lie on;
  2. `ofDecimal`: the number nearest to a decimal, a tie going to the even neighbour;
  3. `shortest`: the fewest digits that read back as the number, and of those the nearest;
  4. `text`: positional from 0.0001 up to 10^16, with an exponent outside.
-/
import Rulebook.Number.Power

namespace Rulebook.Number

/-! ## The numbers -/

/-- A binary floating-point number; `units` counts multiples of 2^-1074. -/
inductive Double
  | finite (negative : Bool) (units : Nat)
  | infinite (negative : Bool)
  | nan
deriving DecidableEq, Repr

/-- The smallest positive number is two to the power `-unitExponent`. -/
def unitExponent : Nat := 1074

/-- The number of units in one, 2^1074. -/
def unitsPerOne : Nat := twoTo unitExponent

theorem unitsPerOne_pos : 0 < unitsPerOne := twoTo_pos unitExponent

/-- The first count of units that is out of range. -/
def unitsLimit : Nat := twoTo 2098

/-- A point of the extended line, in `units`; `bottom` and `top` are the infinities. -/
inductive Place
  | bottom
  | point (units : Int)
  | top
deriving DecidableEq, Repr

namespace Place

/-- The first place lies at or below the second. -/
def le : Place → Place → Bool
  | bottom, _ => true
  | _, top => true
  | point a, point b => a ≤ b
  | _, _ => false

/-- The place `a` lies strictly below `b`. -/
def lt (a b : Place) : Bool := !le b a

/-- The place of the whole number `n`. -/
def ofInt (n : Int) : Place := point (n * unitsPerOne)

/-- Whole numbers lie on the line in their own order: `le` between their places is `≤`. -/
theorem le_ofInt (m n : Int) : le (ofInt m) (ofInt n) = decide (m ≤ n) := by
  have h : (0 : Int) < (unitsPerOne : Int) := Int.natCast_pos.2 unitsPerOne_pos
  simp only [le, ofInt, decide_eq_decide]
  exact ⟨fun hle => Int.le_of_mul_le_mul_right hle h,
    fun hle => Int.mul_le_mul_of_nonneg_right hle (Int.le_of_lt h)⟩

end Place

namespace Double

/-- The `units` with their sign. -/
def signed (negative : Bool) (units : Nat) : Int := if negative then -(units : Int) else units

/-- Where the number lies on the line; `nan` lies nowhere. -/
def place? : Double → Option Place
  | finite negative units => some (.point (signed negative units))
  | infinite true => some .bottom
  | infinite false => some .top
  | nan => none

/-- Equality of the values `a` and `b`: the two zeros are equal, and `nan` differs from itself. -/
def same (a b : Double) : Bool :=
  match a.place?, b.place? with
  | some p, some q => p == q
  | _, _ => false

/-- Is the number finite and without a fractional part? -/
def isWhole : Double → Bool
  | finite _ units => units % unitsPerOne == 0
  | _ => false

/-! ## Reading decimals -/

/-- The whole number nearest to the quotient `num / den`, a tie going to the even one. -/
def roundHalfEven (num den : Nat) : Nat :=
  let q := num / den
  let r := num % den
  if 2 * r < den ∨ (2 * r = den ∧ q % 2 = 0) then q else q + 1

/-- The representable count of units nearest to the quotient `num / den`: at most 53 significant
    bits. -/
def roundUnits (num den : Nat) : Nat :=
  let shift := (num / den).log2 - 52
  roundHalfEven num (den * twoTo shift) * twoTo shift

/-- How many decimal digits `n` has; zero has one. -/
def decimalLength (n : Nat) : Nat := n.repr.length

/-- The units nearest to `digits · 10^exponent`, for an `exponent` that is not out of range. -/
def unitsOf (digits : Nat) (exponent : Int) : Nat :=
  match exponent with
  | .ofNat e => roundUnits (digits * tenTo e * unitsPerOne) 1
  | .negSucc e => roundUnits (digits * unitsPerOne) (tenTo (e + 1))

/-- The number nearest to `± digits · 10^exponent`. -/
def ofDecimal (negative : Bool) (digits : Nat) (exponent : Int) : Double :=
  let size := decimalLength digits + exponent
  if digits = 0 ∨ size < -400 then finite negative 0
  else if 400 < size then infinite negative
  else
    let units := unitsOf digits exponent
    if units < unitsLimit then finite negative units else infinite negative

/-! ## The shortest decimal -/

/-- `10^e ≤ units / 2^1074`. -/
def reachesTen (units : Nat) (e : Int) : Bool :=
  match e with
  | .ofNat e => tenTo e * unitsPerOne ≤ units
  | .negSucc e => unitsPerOne ≤ units * tenTo (e + 1)

/-- The exponent of the leading decimal digit of `units`.  The count of bits gives it up to one,
    and `reachesTen` decides. -/
def leadingExponent (units : Nat) : Int :=
  let guess := ((units.log2 : Int) - 1074) * 30103 / 100000
  ((List.range 5).map fun (i : Nat) => guess - 2 + (i : Int)).foldl
    (fun best e => if reachesTen units e then e else best) (guess - 2)

/-- The position of the number on the grid of multiples of `10^exponent`: quotient and rest of
    `units / 2^1074 / 10^exponent`, and the divisor. -/
def onGrid (units : Nat) (exponent : Int) : Nat × Nat × Nat :=
  match exponent with
  | .ofNat e =>
    let den := unitsPerOne * tenTo e
    (units / den, units % den, den)
  | .negSucc e =>
    let num := units * tenTo (e + 1)
    (num / unitsPerOne, num % unitsPerOne, unitsPerOne)

/-- The neighbour of `units` on the grid of `10^exponent` that reads back as the number; of two,
    the nearer; of two at one distance, the even one. -/
def neighbour? (units : Nat) (exponent : Int) : Option Nat :=
  let (low, rest, den) := onGrid units exponent
  let readsBack (n : Nat) : Bool := unitsOf n exponent == units
  if rest = 0 then if readsBack low then some low else none
  else
    match readsBack low, readsBack (low + 1) with
    | true, true =>
      if 2 * rest < den ∨ (2 * rest = den ∧ low % 2 = 0) then some low else some (low + 1)
    | true, false => some low
    | false, true => some (low + 1)
    | false, false => none

/-- Moves trailing zeros of the digits into the exponent, `fuel` of them at most. -/
def dropZeros : (fuel : Nat) → Nat → Int → Nat × Int
  | 0, digits, exponent => (digits, exponent)
  | fuel + 1, digits, exponent =>
    if digits % 10 = 0 ∧ digits ≠ 0 then dropZeros fuel (digits / 10) (exponent + 1)
    else (digits, exponent)

/-- Tries the grids from `10^(leading - count)` on, `tries` of them, each ten times as fine, and
    takes the neighbour on the first that has one; a grid of 17 digits always has. -/
def searchShortest (units : Nat) (leading : Int) : (tries : Nat) → (count : Nat) → Nat × Int
  | 0, count => ((onGrid units (leading - count)).1, leading - count)
  | tries + 1, count =>
    match neighbour? units (leading - count) with
    | some digits => (digits, leading - count)
    | none => searchShortest units leading tries (count + 1)

/-- The decimal `digits · 10^exponent` with the fewest digits that reads back as `units`. -/
def shortest (units : Nat) : Nat × Int :=
  if units = 0 then (0, 0)
  else
    let (digits, exponent) := searchShortest units (leadingExponent units) 17 0
    dropZeros 20 digits exponent

/-! ## Writing -/

/-- The text of `n` zeros. -/
def zeros (n : Nat) : List Char := List.replicate n '0'

/-- The exponent `e` as text, with its sign and at least two digits. -/
def exponentText (e : Int) : List Char :=
  let digits := e.natAbs.repr.toList
  (if e < 0 then '-' else '+') :: (zeros (2 - digits.length) ++ digits)

/-- The `digits` and the exponent `leading` of the first one, as text: positional from 10^-4 up to
    10^16. -/
def layout (digits : List Char) (leading : Int) : List Char :=
  if -4 ≤ leading ∧ leading < 16 then
    match leading with
    | .ofNat e =>
      let whole := digits.take (e + 1)
      let rest := digits.drop (e + 1)
      whole ++ zeros (e + 1 - digits.length) ++ '.' :: (if rest.isEmpty then ['0'] else rest)
    | .negSucc e => '0' :: '.' :: (zeros e ++ digits)
  else
    match digits with
    | [] => []
    | d :: rest =>
      d :: (if rest.isEmpty then [] else '.' :: rest) ++ 'e' :: exponentText leading

/-- A number as text, in the fewest digits that read back as it. -/
def text : Double → String
  | finite negative units =>
    let (digits, exponent) := shortest units
    let ds := digits.repr.toList
    let body := layout ds (exponent + ds.length - 1)
    String.ofList (if negative then '-' :: body else body)
  | infinite false => "inf"
  | infinite true => "-inf"
  | nan => "nan"

end Double

end Rulebook.Number
