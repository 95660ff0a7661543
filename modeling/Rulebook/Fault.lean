/-
  Everything that can go wrong before a value is judged, and while it is.

  1. `Reason`, `Refusal`: a rule text, a field or a file of fields that cannot be used, with the
     rule that is to blame where one is;
  2. `Fault`: a refusal, or a value or file that the program has no answer for;
  3. `Refusal.message`, `Fault.message`: the wordings.
-/
import Rulebook.Field
import Rulebook.Json.Complaint
import Rulebook.Net.Uri
import Rulebook.Text.Utf8

namespace Rulebook

open Rulebook.Text Rulebook.Number

/-! ## Refusals -/

/-- Why a rule text, a field or a file of fields cannot be used; the data of each reason is what
    its message shows. -/
inductive Reason
  | malformedName (rules : String)
  | unknownType (name : String)
  | unknownRule (type : String)
  | unexpectedArgument
  | missingArgument
  | missingList
  | wrongArgument (expected : List String) (kind shown : String)
  | negativeLimit
  | baseNotPositive
  | numberTooLong (digits : Nat)
  | badLiteral (literal body : String) (e : Pattern.Error)
  | badPattern (body : String) (e : Pattern.Error)
  | badField (report : Field.Report)
  | badFile (file : String) (e : Json.Error)
  | noList (file : String)
  | badEntries (file : String) (problems : List String)
  | badEntry (file key problem : String)
deriving DecidableEq, Repr

/-- The wording of a reason, in which names and texts stand in quotes as they are. -/
def Reason.message : Reason → String
  | malformedName rules => "malformed rule name in '" ++ rules ++ "'"
  | unknownType name => "unknown field type '" ++ name ++ "'"
  | unknownRule type => "unknown rule for type '" ++ type ++ "'"
  | unexpectedArgument => "takes no argument"
  | missingArgument => "requires an argument"
  | missingList => "requires a comma-separated list"
  | wrongArgument expected kind shown =>
    "expects " ++ " or ".intercalate expected ++ ", got " ++ kind ++ " " ++ shown
  | negativeLimit => "limit must be a non-negative integer"
  | baseNotPositive => "base must be a positive number"
  | numberTooLong digits => "number argument longer than " ++ digits.repr ++ " digits"
  | badLiteral literal body e => "bad regular expression " ++ literal ++ ": " ++ e.message body
  | badPattern body e => "bad regular expression: " ++ e.message body
  | badField report => "invalid field descriptor: " ++ report.message
  | badFile file e => "Invalid JSON in " ++ file ++ ": " ++ e.message
  | noList file => "Expected a list of fields in " ++ file
  | badEntries file problems =>
    "Invalid fields config at " ++ file ++ ": "
      ++ Value.bracketed "[" (problems.map quoted) "]"
  | badEntry file key problem => "Field '" ++ key ++ "' in " ++ file ++ ": " ++ problem

/-- A `reason`, with the `rule` to blame if there is one. -/
structure Refusal where
  rule : Option String
  reason : Reason
deriving DecidableEq, Repr

/-- The `rule` to blame, unless its name is empty, and the message of the `reason`. -/
def Refusal.message (r : Refusal) : String :=
  match r.rule with
  | none => r.reason.message
  | some name =>
    if name.isEmpty then r.reason.message
    else "Invalid rule '" ++ name ++ "': " ++ r.reason.message

/-! ## Faults -/

/-- What stops the program from giving an answer: `refused` is what callers are ready for, all else
    comes out as it is. -/
inductive Fault
  | refused (r : Refusal)
  | tooManyDigits (limit : Whole.DigitLimit)
  | repeatTooLarge
  | asciiAndUnicode
  | quotientTooLong
  | badUri (e : Net.Uri.Fault)
  | notAKey (kind : String)
  | unknownField (key : String)
  | badField (report : Field.Report)
  | undecodable (u : Utf8.Undecodable)
  | directory (path : String)
  | badPair (pair : String)
  | pairExpected
deriving DecidableEq, Repr

/-- The wording of a fault; that of `refused r` is the message of `r`. -/
def Fault.message : Fault → String
  | refused r => r.message
  | tooManyDigits limit => limit.message
  | repeatTooLarge => "the repetition number is too large"
  | asciiAndUnicode => "ASCII and UNICODE flags are incompatible"
  | quotientTooLong => "[<class 'decimal.DivisionImpossible'>]"
  | badUri e => e.message
  | notAKey kind => "unhashable type: '" ++ kind ++ "'"
  | unknownField key => quoted key
  | badField report => report.message
  | undecodable u => u.message
  | directory path => "[Errno 21] Is a directory: " ++ quoted path
  | badPair pair => "expected KEY=VALUE, got '" ++ pair ++ "'"
  | pairExpected => "not enough values to unpack (expected 2, got 0)"

namespace Fault

/-- The refusal that blames `rule` for `reason`. -/
def refuse (rule : Option String) (reason : Reason) : Fault := refused ⟨rule, reason⟩

/-- The outcome of a conversion between numbers and texts, where the limit on digits becomes the
    fault `tooManyDigits`. -/
def ofDigits {α : Type} : Except Whole.DigitLimit α → Except Fault α
  | .ok a => .ok a
  | .error e => .error (tooManyDigits e)

end Fault

end Rulebook
