/-
  What can be wrong with a pattern text.

  1. `Complaint`: the cause;
  2. `Fault`: a cause with its place in the text, or a refusal that has no place;
  3. `Fault.message`: the wording, with line and column when the text has several lines.
-/
import Rulebook.Text.Quoted
import Rulebook.Number.Whole

namespace Rulebook.Pattern

open Rulebook.Text Rulebook.Number

/-! ## Causes -/

/-- Why a pattern text stands for no pattern. -/
inductive Complaint
  | escapeAtEnd
  | badEscape (text : String)
  | incompleteEscape (text : String)
  | octalTooLarge (text : String)
  | unknownCharacterName (name : String)
  | missing (what : String)
  | badGroupName (name : String)
  | unknownGroupName (name : String)
  | groupRedefined (name : String) (group first : Nat)
  | groupStillOpen
  | groupInSameLookBehind
  | invalidGroup (number : Nat)
  | groupNumberZero
  | tooManyBranches
  | unterminatedSet
  | badRange (first last : String)
  | boundsReversed
  | nothingToRepeat
  | repeatedTwice
  | unexpectedEnd
  | unknownExtension (text : String)
  | lateSwitches
  | localeSwitch
  | incompatibleSwitches
  | unknownSwitch
  | wholeSwitchOn
  | wholeSwitchOff
  | kindSwitchOff
  | switchOnAndOff
  | unbalanced
  | variableLookBehind
  | templateOperator (name : String)
deriving DecidableEq, Repr

/-- The wording of a cause, without the place. -/
def Complaint.message : Complaint → String
  | escapeAtEnd => "bad escape (end of pattern)"
  | badEscape text => "bad escape " ++ text
  | incompleteEscape text => "incomplete escape " ++ text
  | octalTooLarge text => "octal escape value " ++ text ++ " outside of range 0-0o377"
  | unknownCharacterName name => "undefined character name " ++ quoted name
  | missing what => "missing " ++ what
  | badGroupName name => "bad character in group name " ++ quoted name
  | unknownGroupName name => "unknown group name " ++ quoted name
  | groupRedefined name group first =>
    "redefinition of group name " ++ quoted name ++ " as group " ++ group.repr
      ++ "; was group " ++ first.repr
  | groupStillOpen => "cannot refer to an open group"
  | groupInSameLookBehind => "cannot refer to group defined in the same lookbehind subpattern"
  | invalidGroup number => "invalid group reference " ++ number.repr
  | groupNumberZero => "bad group number"
  | tooManyBranches => "conditional backref with more than two branches"
  | unterminatedSet => "unterminated character set"
  | badRange first last => "bad character range " ++ first ++ "-" ++ last
  | boundsReversed => "min repeat greater than max repeat"
  | nothingToRepeat => "nothing to repeat"
  | repeatedTwice => "multiple repeat"
  | unexpectedEnd => "unexpected end of pattern"
  | unknownExtension text => "unknown extension ?" ++ text
  | lateSwitches => "global flags not at the start of the expression"
  | localeSwitch => "bad inline flags: cannot use 'L' flag with a str pattern"
  | incompatibleSwitches => "bad inline flags: flags 'a', 'u' and 'L' are incompatible"
  | unknownSwitch => "unknown flag"
  | wholeSwitchOn => "bad inline flags: cannot turn on global flag"
  | wholeSwitchOff => "bad inline flags: cannot turn off global flag"
  | kindSwitchOff => "bad inline flags: cannot turn off flags 'a', 'u' and 'L'"
  | switchOnAndOff => "bad inline flags: flag turned on and off"
  | unbalanced => "unbalanced parenthesis"
  | variableLookBehind => "look-behind requires fixed-width pattern"
  | templateOperator name => "internal: unsupported template operator " ++ name

/-! ## Faults -/

/-- A `complaint` about the pattern text itself, with the `position` it is about where there is
    one. -/
structure Error where
  complaint : Complaint
  position : Option Nat
deriving DecidableEq, Repr

/-- The `position` in `text` counted in lines: the line's number and the place within it, both from
    one. -/
def lineAndColumn (text : List Char) (position : Nat) : Nat × Nat :=
  let before := text.take position
  (before.count '\n' + 1, (before.reverse.takeWhile (· != '\n')).length + 1)

/-- The wording of `e`: the cause, the place, and for a `text` of several lines the line and
    column. -/
def Error.message (text : String) (e : Error) : String :=
  match e.position with
  | none => e.complaint.message
  | some p =>
    let cs := text.toList
    let base := s!"{e.complaint.message} at position {p}"
    if cs.contains '\n' then
      let (line, column) := lineAndColumn cs p
      s!"{base} (line {line}, column {column})"
    else base

/-- Why no pattern comes out of a text: an `error` in it, or a refusal that is none of its
    errors. -/
inductive Fault
  | error (e : Error)
  | repeatTooLarge
  | asciiAndUnicode
  | tooManyDigits (limit : Whole.DigitLimit)
deriving DecidableEq, Repr

end Rulebook.Pattern
