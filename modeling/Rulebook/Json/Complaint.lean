/-
  What can be wrong with a data text.

  1. `Complaint`: the cause;
  2. `Error`: the cause at a place, worded with line, column and offset.
-/
import Rulebook.Number.Whole

namespace Rulebook.Json

/-- Why a text is no data text; each cause is one that the reader can run into. -/
inductive Complaint
  | byteOrderMark
  | valueExpected
  | nameExpected
  | colonExpected
  | commaExpected
  | extraData
  | unterminatedText
  | controlCharacter
  | badEscape
  | badUnicodeEscape
deriving DecidableEq, Repr

/-- The wording of a cause, without the place. -/
def Complaint.message : Complaint → String
  | byteOrderMark => "Unexpected UTF-8 BOM (decode using utf-8-sig)"
  | valueExpected => "Expecting value"
  | nameExpected => "Expecting property name enclosed in double quotes"
  | colonExpected => "Expecting ':' delimiter"
  | commaExpected => "Expecting ',' delimiter"
  | extraData => "Extra data"
  | unterminatedText => "Unterminated string starting at"
  | controlCharacter => "Invalid control character at"
  | badEscape => "Invalid \\escape"
  | badUnicodeEscape => "Invalid \\uXXXX escape"

/-- A `complaint` with the `offset` where it shows, and that place counted in lines. -/
structure Error where
  complaint : Complaint
  offset : Nat
  line : Nat
  column : Nat
deriving DecidableEq, Repr

/-- The `complaint` at `offset` in `text`, its place counted in lines; the line and the column both
    begin with one. -/
def Error.at (text : Array Char) (complaint : Complaint) (offset : Nat) : Error :=
  let before := text.toList.take offset
  ⟨complaint, offset, before.count '\n' + 1,
    (before.reverse.takeWhile (· != '\n')).length + 1⟩

/-- The wording of `e`: the complaint and the place. -/
def Error.message (e : Error) : String :=
  s!"{e.complaint.message}: line {e.line} column {e.column} (char {e.offset})"

/-- Why no value comes out of a text: an `error` in it as a data text, or a number in it that is
    too long. -/
inductive Fault
  | error (e : Error)
  | tooManyDigits (limit : Number.Whole.DigitLimit)
deriving DecidableEq, Repr

end Rulebook.Json
