/-
  Tables of the names of characters.

  Characters that follow each other have names that begin alike, so a table writes a name by what
  sets it off from the name before.  A row `⟨first, lines⟩` names the characters from `first` on.
  In its `lines` a name is a mark and a rest: the mark is a small letter that counts the words
  shared with the name before (`a` none, `b` one, and so on), a word being what stands up to a
  blank or hyphen, that one included.  A dot stands for a character without a name.

  1. `NameRow`, `marked`: a row, and its lines cut at the marks;
  2. `firstWords`: the words of the name before;
  3. `NameRow.find?`: the character of a name.
-/

namespace Rulebook.Text

/-- The names of the characters from `first` on, as the `lines` write them one after the other. -/
structure NameRow where
  first : Nat
  lines : List String

/-- A small letter or a dot, the marks that the lines of a row are cut at. -/
def isNameMark (c : Char) : Bool := c.isLower || c == '.'

/-- Each mark of the text `cs` with what stands behind it, up to the next one. -/
def marked : List Char → List (Char × List Char)
  | [] => []
  | c :: cs =>
    if isNameMark c then (c, cs.takeWhile (!isNameMark ·)) :: marked cs else marked cs

/-- The first `count` words of a name. -/
def firstWords : (count : Nat) → List Char → List Char
  | 0, _ => []
  | _ + 1, [] => []
  | count + 1, c :: cs =>
    if c == ' ' || c == '-' then c :: firstWords count cs else c :: firstWords (count + 1) cs

/-- The point of `name` among the marked names, which are those of `point`, `point + 1` and so on;
    `before` is the name last read. -/
def findMarked (name : List Char) :
    List (Char × List Char) → (before : List Char) → (point : Nat) → Option Nat
  | [], _, _ => none
  | (mark, rest) :: names, before, point =>
    if mark == '.' then findMarked name names before (point + 1)
    else
      let here := firstWords (mark.toNat - 'a'.toNat) before ++ rest
      if here == name then some point else findMarked name names here (point + 1)

/-- The point that a row gives `name` to. -/
def NameRow.find? (row : NameRow) (name : List Char) : Option Nat :=
  findMarked name (marked (row.lines.flatMap String.toList)) [] row.first

end Rulebook.Text
