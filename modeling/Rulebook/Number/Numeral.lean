/-
  Decimal numerals: an optional sign, digits with an optional fraction, an optional exponent.

      [+-] d… [. d…]  [e [+-] d…]      or      [+-] . d…  [e [+-] d…]

  where a digit is a decimal digit of any script.

  1. `Numeral`: the parts, as written;
  2. `read?`: the whole text is a numeral, or it is none;
  3. `toDouble`: the floating-point number nearest to it.
-/
import Rulebook.Text.Digit
import Rulebook.Number.Double

namespace Rulebook.Number

open Rulebook.Text

/-- The parts of a numeral.  The flag `point` tells `2.` from `2`; at least one of `whole` and
    `fraction` is not empty. -/
structure Numeral where
  sign : Option Char
  whole : List Char
  point : Bool
  fraction : List Char
  exponent : Option (Option Char × List Char)
deriving DecidableEq, Repr

namespace Numeral

/-! ## Reading -/

/-- Splits off a sign, `+` or `-`. -/
def splitSign : List Char → Option Char × List Char
  | '+' :: cs => (some '+', cs)
  | '-' :: cs => (some '-', cs)
  | cs => (none, cs)

/-- Reads what stands behind the digits: nothing, or a letter `e`, a sign and digits. -/
def readExponent? : List Char → Option (Option (Option Char × List Char))
  | [] => some none
  | c :: cs =>
    if c == 'e' || c == 'E' then
      let (sign, ds) := splitSign cs
      if !ds.isEmpty && ds.all isDigit then some (some (sign, ds)) else none
    else none

/-- Reads the whole of `cs` as a numeral. -/
def readChars? (cs : List Char) : Option Numeral :=
  let (sign, cs) := splitSign cs
  let whole := cs.takeWhile isDigit
  let rest := cs.dropWhile isDigit
  match rest with
  | '.' :: tail =>
    let fraction := tail.takeWhile isDigit
    if whole.isEmpty && fraction.isEmpty then none
    else (readExponent? (tail.dropWhile isDigit)).map (⟨sign, whole, true, fraction, ·⟩)
  | _ =>
    if whole.isEmpty then none
    else (readExponent? rest).map (⟨sign, whole, false, [], ·⟩)

/-- Reads the whole of `s` as a numeral. -/
def read? (s : String) : Option Numeral := readChars? s.toList

/-- Has `n` a sign and digits only? -/
def isWhole (n : Numeral) : Bool := !n.point && n.exponent.isNone

/-! ## Value -/

/-- Does `sign` say that the number is negative? -/
def isMinus (sign : Option Char) : Bool := sign == some '-'

/-- The power of ten that the exponent part of `n` stands for. -/
def exponentValue (n : Numeral) : Int :=
  match n.exponent with
  | none => 0
  | some (sign, ds) => if isMinus sign then -(readNat ds : Int) else readNat ds

/-- The floating-point number nearest to the numeral `n`. -/
def toDouble (n : Numeral) : Double :=
  Double.ofDecimal (isMinus n.sign) (readNat (n.whole ++ n.fraction))
    (n.exponentValue - n.fraction.length)

end Numeral

end Rulebook.Number
