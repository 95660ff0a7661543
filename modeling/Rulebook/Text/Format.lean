/-
  Texts of a fixed form.

  A single line end behind a text of the right form is let pass: it does not count as part of
  the text.

  1. `dropLineEnd`: the text without that line end;
  2. `isAllOf`: texts over a set of characters;
  3. `isEmail`: mail addresses.
-/
import Rulebook.Text.Digit
import Rulebook.Text.Letter
import Rulebook.Text.Split

namespace Rulebook.Text

/-! ## The line end -/

/-- The text `cs` without one line feed at its end. -/
def dropLineEnd (cs : List Char) : List Char :=
  if cs.getLast? = some '\n' then cs.dropLast else cs

/-- A text `cs` without a line feed at its end is not changed by `dropLineEnd`. -/
theorem dropLineEnd_eq_self {cs : List Char} (h : cs.getLast? ≠ some '\n') :
    dropLineEnd cs = cs := by
  simp [dropLineEnd, h]

/-! ## Sets of characters -/

/-- The text `cs` is not empty, and every character of it `accepts`. -/
def isAllOf (accepts : Char → Bool) (cs : List Char) : Bool :=
  let body := dropLineEnd cs
  !body.isEmpty && body.all accepts

/-! ## Mail addresses -/

/-- Whether `c` may stand before the at sign. -/
def isMailboxChar (c : Char) : Bool :=
  isAsciiAlphanumeric c || c == '.' || c == '_' || c == '%' || c == '+' || c == '-'

/-- Whether `c` may stand in the domain. -/
def isDomainChar (c : Char) : Bool := isAsciiAlphanumeric c || c == '.' || c == '-'

/-- The text `cs` is a domain: `isDomainChar` throughout, a dot, and two or more letters behind the
    last dot. -/
def isMailDomain (cs : List Char) : Bool :=
  let reversed := cs.reverse
  let last := reversed.takeWhile (· != '.')
  match reversed.dropWhile (· != '.') with
  | '.' :: before =>
    2 ≤ last.length && last.all isAsciiLetter && !before.isEmpty && before.all isDomainChar
  | _ => false

/-- The text `cs` is an e-mail address: `isMailboxChar` throughout, an at sign and a domain. -/
def isEmail (cs : List Char) : Bool :=
  match cut '@' (dropLineEnd cs) with
  | (mailbox, some domain) =>
    !mailbox.isEmpty && mailbox.all isMailboxChar && isMailDomain domain
  | (_, none) => false

end Rulebook.Text
