/-
  Quoted texts.

  A quoted text stands between single quotes, or between double quotes when it holds a single
  quote and no double one.  Inside, the backslash and the chosen quote are escaped, tab, line
  feed and carriage return have letters, and every other character that is not printable is
  written by its number in two, four or eight hexadecimal digits.

  1. `hexDigits`: a number in a fixed count of digits;
  2. `escapeChar`: one character inside quotes;
  3. `quoted`: the whole text.
-/
import Rulebook.Text.Printable

namespace Rulebook.Text

/-! ## One character -/

/-- The quote that texts stand in as a rule. -/
def singleQuote : Char := '\x27'

/-- The quote of texts that hold a single one. -/
def doubleQuote : Char := '\x22'

/-- The hexadecimal digit of `n`, in lower case. -/
def hexDigit (n : Nat) : Char :=
  if n < 10 then Char.ofNat (0x30 + n) else Char.ofNat (0x57 + n)

/-- The last `count` hexadecimal digits of a number, most significant first. -/
def hexDigits : (count : Nat) → Nat → List Char
  | 0, _ => []
  | count + 1, n => hexDigits count (n / 16) ++ [hexDigit (n % 16)]

/-- The character `c` as it stands between two of the given `quote`. -/
def escapeChar (quote : Char) (c : Char) : List Char :=
  if c == quote || c == '\\' then ['\\', c]
  else if c == '\t' then ['\\', 't']
  else if c == '\n' then ['\\', 'n']
  else if c == '\r' then ['\\', 'r']
  else if isPrintable c then [c]
  else if c.toNat < 0x100 then '\\' :: 'x' :: hexDigits 2 c.toNat
  else if c.toNat < 0x10000 then '\\' :: 'u' :: hexDigits 4 c.toNat
  else '\\' :: 'U' :: hexDigits 8 c.toNat

/-! ## The text -/

/-- The quote for `cs`: the double one only where it saves an escape. -/
def quoteMark (cs : List Char) : Char :=
  if cs.contains singleQuote && !cs.contains doubleQuote then doubleQuote else singleQuote

/-- The characters `cs` in quotes, those the `quoteMark` asks for. -/
def quotedChars (cs : List Char) : List Char :=
  let q := quoteMark cs
  q :: cs.flatMap (escapeChar q) ++ [q]

/-- The text `s` in quotes. -/
def quoted (s : String) : String := String.ofList (quotedChars s.toList)

end Rulebook.Text
