/-
  What a backslash and the characters behind it stand for.

  1. `controlCode?`, `category?`: the letters with a meaning of their own;
  2. `readCode`: a character given by number or name;
  3. `inSet`: an escape inside brackets;
  4. `inText`: an escape outside of them, where a number may also refer to a group.
-/
import Rulebook.Pattern.Cursor
import Rulebook.Text.CharacterName
import Rulebook.Text.Letter

namespace Rulebook.Pattern.Escape

open Rulebook.Text Rulebook.Pattern.Reading

/-! ## Letters with a meaning -/

/-- The control characters that have a letter, and the backslash. -/
def controlCode? : Char → Option Nat
  | 'a' => some 7
  | 'b' => some 8
  | 'f' => some 12
  | 'n' => some 10
  | 'r' => some 13
  | 't' => some 9
  | 'v' => some 11
  | '\\' => some 92
  | _ => none

/-- The classes; a capital is the class of all other characters. -/
def category? : Char → Option SetItem
  | 'd' => some (.category .digit false)
  | 'D' => some (.category .digit true)
  | 's' => some (.category .blank false)
  | 'S' => some (.category .blank true)
  | 'w' => some (.category .word false)
  | 'W' => some (.category .word true)
  | _ => none

/-- The conditions on a position that have a letter; with `ascii`, words are those of ASCII. -/
def anchor? (ascii : Bool) : Char → Option Anchor
  | 'A' => some .textStart
  | 'b' => some (.boundary true ascii)
  | 'B' => some (.boundary false ascii)
  | 'Z' => some .textEnd
  | _ => none

/-! ## Characters by number -/

/-- Stops with a `complaint` about the `escape` read so far, pointing at its backslash. -/
def refuse {α : Type} (complaint : String → Complaint) (escape : List Char) : Reading α :=
  complain (complaint (String.ofList escape)) escape.length

/-- Exactly `count` hexadecimal digits behind `letter`, as a number in the range of characters. -/
def readHexCode (letter : Char) (count : Nat) : Reading Nat := do
  let digits ← takeWhile isHexDigit count
  let escape := '\\' :: letter :: digits
  if digits.length ≠ count then refuse .incompleteEscape escape
  else if 0x10FFFF < readHex digits then refuse .badEscape escape
  else return readHex digits

/-- A name in braces, as the number of the character of that name. -/
def readNamed : Reading Nat := do
  if ← accept '\x7b' then
    let name ← takeName '\x7d' "character name"
    match characterNamed? name with
    | some code => return code
    | none => complain (.unknownCharacterName (String.ofList name)) (name.length + 4)
  else complain (.missing "\x7b") 0

/-- Octal digits, two more at most, behind the `digits` at hand; 0o377 is the greatest number. -/
def readOctalCode (digits : List Char) : Reading Nat :=
  if 0o377 < readOctal digits then refuse .octalTooLarge ('\\' :: digits)
  else return readOctal digits

/-- An escape by number or name: the letters `x`, `u`, `U` and `N`. -/
def readCode? (c : Char) : Option (Reading Nat) :=
  match c with
  | 'x' => some (readHexCode 'x' 2)
  | 'u' => some (readHexCode 'u' 4)
  | 'U' => some (readHexCode 'U' 8)
  | 'N' => some readNamed
  | _ => none

/-- What is left: a letter `c` without a meaning is refused, any other character stands for
    itself. -/
def readOther (c : Char) : Reading Nat :=
  if isAsciiLetter c then refuse .badEscape ['\\', c] else return c.toNat

/-! ## Inside brackets -/

/-- What `c` behind a backslash stands for inside brackets: a character or a class. -/
def inSet (c : Char) : Reading SetItem := do
  match controlCode? c with
  | some code => return .single code
  | none =>
    match category? c with
    | some item => return item
    | none =>
      match readCode? c with
      | some read => return .single (← read)
      | none =>
        if isOctalDigit c then
          let more ← takeWhile isOctalDigit 2
          return .single (← readOctalCode (c :: more))
        else if isAsciiDigit c then refuse .badEscape ['\\', c]
        else return .single (← readOther c)

/-! ## Outside brackets -/

/-- What an escape stands for outside brackets; a `group` comes with its widths. -/
inductive Meaning
  | character (code : Nat)
  | category (item : SetItem)
  | anchor (a : Anchor)
  | group (number low high : Nat)

/-- A reference to the group of the number in `digits`, which must be closed. -/
def readGroup (digits : List Char) : Reading Meaning := do
  let number := readNat digits
  if number < (← groupCount) then
    match ← closedGroup? number with
    | none => complain .groupStillOpen (digits.length + 1)
    | some (low, high) =>
      checkLookBehind number
      return .group number low high
  else complain (.invalidGroup number) digits.length

/-- A number that begins with `c`: three octal digits are a character, else the first two digits
    are a group. -/
def readNumber (c : Char) : Reading Meaning := do
  match ← takeWhile isAsciiDigit 1 with
  | [] => readGroup [c]
  | second =>
    if isOctalDigit c && second.all isOctalDigit then
      match ← takeWhile isOctalDigit 1 with
      | [] => readGroup (c :: second)
      | third => return .character (← readOctalCode (c :: second ++ third))
    else readGroup (c :: second)

/-- What `c` behind a backslash stands for outside brackets. -/
def inText (ascii : Bool) (c : Char) : Reading Meaning := do
  match anchor? ascii c, category? c with
  | some a, _ => return .anchor a
  | none, some item => return .category item
  | none, none =>
    match controlCode? c with
    | some code => return .character code
    | none =>
      match readCode? c with
      | some read => return .character (← read)
      | none =>
        if c == '0' then return .character (readOctal (← takeWhile isOctalDigit 2))
        else if isAsciiDigit c then readNumber c
        else return .character (← readOther c)

end Rulebook.Pattern.Escape
