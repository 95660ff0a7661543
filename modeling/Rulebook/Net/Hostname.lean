/-
  Host names: an address, or labels between dots.

  1. `isLabel`: one to 63 letters, digits and hyphens, no hyphen at either end;
  2. `isHostname`: 255 characters at most, one dot at the end allowed.
-/
import Rulebook.Net.Address
import Rulebook.Text.Format

namespace Rulebook.Net

open Rulebook.Text

/-- Whether `c` may stand inside a label: ASCII letters, digits and the hyphen. -/
def isLabelChar (c : Char) : Bool := isAsciiAlphanumeric c || c == '-'

/-- The characters `cs` are a label; a line end behind it does not count. -/
def isLabel (cs : List Char) : Bool :=
  let body := dropLineEnd cs
  !body.isEmpty && body.length ≤ 63 && body.all isLabelChar && body.head? != some '-'
    && body.getLast? != some '-'

/-- The text `cs` without a dot at its end. -/
def dropFinalDot (cs : List Char) : List Char :=
  if cs.getLast? = some '.' then cs.dropLast else cs

/-- The text `cs` is an address, or labels between dots, 255 characters at most. -/
def isHostname (cs : List Char) : Bool :=
  (Address.read? cs).isSome
    || (cs.length ≤ 255 && (splitOn '.' (dropFinalDot cs)).all isLabel)

end Rulebook.Net
