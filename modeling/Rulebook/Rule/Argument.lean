/-
  The value of an argument, chosen by the look of its text.

  The first that fits is taken: a numeral stands for the whole number of its leading digits,
  `true` and `false` for flags, `/…/` for a pattern; anything else stands for itself.

  1. `readWhole?`, `readFlag?`, `literalBody?`: the three forms;
  2. `Argument.read`: the value of a text;
  3. `Token.value`: the value of a token's argument.
-/
import Rulebook.Number.Numeral
import Rulebook.Rule.Token

namespace Rulebook

open Rulebook.Text Rulebook.Number

namespace Argument

/-! ## The forms -/

/-- The longest run of leading digits that is read; a longer one is refused as `numberTooLong`. -/
def digitLimit : Nat := 100

/-- The sign (`true` for a minus) and the leading digits of the numeral `cs`, if it begins with
    digits.  One line end behind the numeral does not count. -/
def readWhole? (cs : List Char) : Option (Bool × List Char) :=
  match Numeral.readChars? (dropLineEnd cs) with
  | some n => if n.whole.isEmpty then none else some (Numeral.isMinus n.sign, n.whole)
  | none => none

/-- The two flags, `true` and `false` in small letters. -/
def readFlag? (s : String) : Option Bool :=
  if s = "true" then some true else if s = "false" then some false else none

/-- What stands between a slash in front of `cs` and a slash at the end, if anything does.  One
    line end behind the last slash does not count. -/
def literalBody? (cs : List Char) : Option (List Char) :=
  match dropLineEnd cs with
  | '/' :: rest =>
    if rest.getLast? = some '/' ∧ !rest.dropLast.isEmpty then some rest.dropLast else none
  | _ => none

/-- What a fault in a pattern text comes to: an error in the pattern is refused for the `reason`
    and blames the `rule`, any other comes out as it is. -/
def patternFault (rule : Option String) (reason : Pattern.Error → Reason) :
    Pattern.Fault → Fault
  | .error e => .refuse rule (reason e)
  | .repeatTooLarge => .repeatTooLarge
  | .asciiAndUnicode => .asciiAndUnicode
  | .tooManyDigits limit => .tooManyDigits limit

/-! ## Reading -/

/-- The value that the argument text `raw` of `rule` stands for: a number, a flag, a pattern
    between slashes, or else the text itself, tried in this order. -/
def read (raw : String) (rule : Option String) : Except Fault Value :=
  match readWhole? raw.toList with
  | some (negative, digits) =>
    if digitLimit < digits.length then .error (.refuse rule (.numberTooLong digitLimit))
    else
      let n : Int := readNat digits
      .ok (.int (if negative then -n else n))
  | none =>
    match readFlag? raw with
    | some b => .ok (.bool b)
    | none =>
      match literalBody? raw.toList with
      | some cs =>
        let body := String.ofList cs
        match Pattern.compile body with
        | .ok p => .ok (.pattern p)
        | .error e => .error (patternFault rule (.badLiteral raw body) e)
      | none => .ok (.text raw)

end Argument

/-- The value of the argument of `t`, if it has one; what stops it blames the name of `t`. -/
def Token.value (t : Token) : Except Fault (Option Value) :=
  match t.argument with
  | none => .ok none
  | some raw =>
    match Argument.read raw (some t.name) with
    | .ok v => .ok (some v)
    | .error e => .error e

end Rulebook
