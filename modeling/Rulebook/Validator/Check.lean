/-
  Checks: what a rule asks of a value that already has the type of its field.

  1. `Violation`: the kind of the first rule that a value breaks, and a message;
  2. `TextCheck`, `NumberCheck`, `ValueCheck`: the checks on texts, on numbers, and on the text
     form of any value;
  3. `Check`: any of them, with its name; of most checks the last one counts, but patterns and
     checks of the third kind accumulate;
  4. `Check.apply`: the outcome of one check.
-/
import Rulebook.Fault
import Rulebook.Net.Hostname
import Rulebook.Number.Quantity
import Rulebook.Text.Case

namespace Rulebook

open Rulebook.Text Rulebook.Number

/-- The first rule that a value breaks: its `kind`, such as `string.min`, and the `message`. -/
structure Violation where
  kind : String
  message : String
deriving DecidableEq, Repr

/-- A message that begins with the `label` in double quotes and goes on with the `rest`. -/
def labelled (label rest : String) : String :=
  String.ofList [doubleQuote] ++ label ++ String.ofList [doubleQuote, ' '] ++ rest

/-! ## Texts -/

/-- The forms that a text can be asked to have, one rule for each. -/
inductive TextForm
  | alphanum
  | token
  | email
  | uri
  | hostname
  | hex
  | lowercase
  | uppercase
deriving DecidableEq, Repr

namespace TextForm

/-- The name of the rule that asks for the form. -/
def name : TextForm → String
  | alphanum => "alphanum"
  | token => "token"
  | email => "email"
  | uri => "uri"
  | hostname => "hostname"
  | hex => "hex"
  | lowercase => "lowercase"
  | uppercase => "uppercase"

/-- What is said, behind the label, of a text without the form. -/
def demand : TextForm → String
  | alphanum => "must only contain alpha-numeric characters"
  | token => "must only contain alpha-numeric and underscore characters"
  | email => "must be a valid email"
  | uri => "must be a valid uri"
  | hostname => "must be a valid hostname"
  | hex => "must only contain hexadecimal characters"
  | lowercase => "must only contain lowercase characters"
  | uppercase => "must only contain uppercase characters"

/-- The characters `cs` have the form.  Only `uri` can fail to give an answer. -/
def holds (cs : List Char) : TextForm → Except Fault Bool
  | alphanum => .ok (isAllOf isAsciiAlphanumeric cs)
  | token => .ok (isAllOf isAsciiWord cs)
  | email => .ok (isEmail cs)
  | uri =>
    match Net.Uri.isUri cs with
    | .ok b => .ok b
    | .error e => .error (.badUri e)
  | hostname => .ok (Net.isHostname cs)
  | hex => .ok (isAllOf isHexDigit cs)
  | lowercase => .ok (cs == lowerChars cs)
  | uppercase => .ok (cs == upperChars cs)

end TextForm

/-- The checks on texts: the length against a `limit`, a pattern, a form. -/
inductive TextCheck
  | atLeast (limit : Int)
  | atMost (limit : Int)
  | exactly (limit : Int)
  | pattern (p : Pattern)
  | form (f : TextForm)
deriving Repr

namespace TextCheck

/-- The name of a check; a later one takes the place of an earlier one of its name, unless it
    `accumulates`. -/
def name : TextCheck → String
  | atLeast _ => "min"
  | atMost _ => "max"
  | exactly _ => "length"
  | pattern _ => "pattern"
  | form f => f.name

/-- The violation of `kind` that ends in the length `limit`, which may be too long to be written. -/
def lengthViolation (kind label demand : String) (limit : Int) :
    Except Fault (Option Violation) :=
  match Whole.text limit with
  | .ok digits => .ok (some ⟨kind, labelled label (demand ++ digits ++ " characters long")⟩)
  | .error e => .error (.tooManyDigits e)

/-- The outcome of a check on the text `s` of the field `label`: a violation, or `none`. -/
def apply (label s : String) : TextCheck → Except Fault (Option Violation)
  | atLeast limit =>
    if (s.length : Int) < limit then
      lengthViolation "string.min" label "length must be at least " limit
    else .ok none
  | atMost limit =>
    if limit < (s.length : Int) then
      lengthViolation "string.max" label "length must be less than or equal to " limit
    else .ok none
  | exactly limit =>
    if (s.length : Int) = limit then .ok none
    else lengthViolation "string.length" label "length must be " limit
  | pattern p =>
    if p.matchesSomewhere s then .ok none
    else
      .ok (some ⟨"string.pattern.base", labelled label
        ("with value " ++ String.ofList [doubleQuote] ++ s ++ String.ofList [doubleQuote]
          ++ " fails to match the required pattern: /" ++ p.body ++ "/")⟩)
  | form f =>
    match f.holds s.toList with
    | .ok true => .ok none
    | .ok false => .ok (some ⟨"string." ++ f.name, labelled label f.demand⟩)
    | .error e => .error e

end TextCheck

/-! ## Numbers -/

/-- The comparisons of a number with a limit. -/
inductive Comparison
  | min
  | max
  | greater
  | less
deriving DecidableEq, Repr

namespace Comparison

/-- The name of the rule that compares. -/
def name : Comparison → String
  | min => "min"
  | max => "max"
  | greater => "greater"
  | less => "less"

/-- What is said before the limit when the comparison fails. -/
def demand : Comparison → String
  | min => "must be greater than or equal to "
  | max => "must be less than or equal to "
  | greater => "must be greater than "
  | less => "must be less than "

/-- The number `q` is on the right side of the `limit`. -/
def holds (q limit : Quantity) : Comparison → Bool
  | min => limit.le q
  | max => q.le limit
  | greater => limit.lt q
  | less => q.lt limit

end Comparison

/-- The checks on numbers: comparisons with a `limit`, and properties of the number by itself. -/
inductive NumberCheck
  | compare (c : Comparison) (limit : Quantity)
  | integer
  | positive
  | negative
  | multiple (base : Quantity)
  | precision (places : Int)
  | port
deriving DecidableEq, Repr

namespace NumberCheck

/-- The name of a check on numbers. -/
def name : NumberCheck → String
  | compare c _ => c.name
  | integer => "integer"
  | positive => "positive"
  | negative => "negative"
  | multiple _ => "multiple"
  | precision _ => "precision"
  | port => "port"

/-- The greatest number that passes for a `port`. -/
def portLimit : Int := 65535

/-- The violation of `kind` whose message has the `demand`, the number `limit` and the `rest`; the
    number may be too long to be written. -/
def limitViolation (kind label demand : String) (limit : Quantity) (rest : String) :
    Except Fault (Option Violation) :=
  match limit.text with
  | .ok digits => .ok (some ⟨kind, labelled label (demand ++ digits ++ rest)⟩)
  | .error e => .error (.tooManyDigits e)

/-- The number `q` is a whole multiple of `base`, by the remainder of decimals, which has no answer
    for a quotient of more than 28 digits.  Nothing but zero is a multiple of infinity, and nothing
    at all of nan. -/
def isMultiple (q base : Quantity) : Except Fault Bool :=
  match q.decimal?, base.decimal? with
  | .error e, _ => .error (.tooManyDigits e)
  | _, .error e => .error (.tooManyDigits e)
  | .ok (some value), .ok (some base) =>
    match Decimal.isMultiple value base with
    | some b => .ok b
    | none => .error .quotientTooLong
  | .ok (some value), .ok none =>
    .ok (value.coefficient == 0 && base != .binary .nan)
  | .ok none, _ => .ok false

/-- The outcome of a check on the number `q` of the field `label`: a violation, or `none`. -/
def apply (label : String) (q : Quantity) : NumberCheck → Except Fault (Option Violation)
  | compare c limit =>
    if c.holds q limit then .ok none
    else limitViolation ("number." ++ c.name) label c.demand limit ""
  | integer =>
    if q.isWhole then .ok none
    else .ok (some ⟨"number.integer", labelled label "must be an integer"⟩)
  | positive =>
    if q.le (.whole 0) then
      .ok (some ⟨"number.positive", labelled label "must be a positive number"⟩)
    else .ok none
  | negative =>
    if (Quantity.whole 0).le q then
      .ok (some ⟨"number.negative", labelled label "must be a negative number"⟩)
    else .ok none
  | multiple base =>
    match isMultiple q base with
    | .error e => .error e
    | .ok true => .ok none
    | .ok false => limitViolation "number.multiple" label "must be a multiple of " base ""
  | precision places =>
    match q.decimal? with
    | .error e => .error (.tooManyDigits e)
    | .ok none => .ok none
    | .ok (some d) =>
      if places < (d.places : Int) then
        limitViolation "number.precision" label "must have no more than " (.whole places)
          " decimal places"
      else .ok none
  | port =>
    if q.isWhole && (Quantity.whole 0).le q && q.le (.whole portLimit) then .ok none
    else .ok (some ⟨"number.port", labelled label "must be a valid port"⟩)

end NumberCheck

/-! ## Any value -/

/-- The checks on the text form of a value, for which its type does not count. -/
inductive ValueCheck
  | members (allowed : List String)
  | address (version : Option Nat)
deriving DecidableEq, Repr

namespace ValueCheck

/-- The name of a check on the text form. -/
def name : ValueCheck → String
  | members _ => "custom_list"
  | address (some 4) => "ipv4"
  | address (some 6) => "ipv6"
  | address _ => "ip"

/-- The parts of the text `s` between its commas. -/
def parts (s : String) : List String := (splitOn ',' s.toList).map String.ofList

/-- The `parts` of the text of `v` that are not among the `allowed` ones, in order. -/
def foreignParts (allowed : List String) (v : Value) : Except Whole.DigitLimit (List String) :=
  match v.asText with
  | .ok s => .ok ((parts s).filter fun part => !allowed.contains part)
  | .error e => .error e

/-- The text of `v` is an address, of the `version` if one is given.  A value that is too long to
    be written is none. -/
def isAddress (version : Option Int) (v : Value) : Bool :=
  match v.asText with
  | .ok s =>
    match Net.Address.read? s.toList with
    | some a => version.all (· == (a.version : Int))
    | none => false
  | .error _ => false

/-- What is said of a value that is no address of the version asked for. -/
def demand : Option Nat → String
  | some 4 => "Invalid IPv4 address"
  | some 6 => "Invalid IPv6 address"
  | _ => "Invalid IP address"

/-- The kind of all violations of a `ValueCheck`. -/
def kind : String := "any.custom"

/-- The outcome of a check on the text form of `v`. -/
def apply (v : Value) : ValueCheck → Except Fault (Option Violation)
  | members allowed =>
    match foreignParts allowed v with
    | .error e => .error (.tooManyDigits e)
    | .ok [] => .ok none
    | .ok foreign =>
      .ok (some ⟨kind, "Invalid Element(s): " ++ ", ".intercalate foreign ++ ". Allowed: "
        ++ ", ".intercalate allowed⟩)
  | address version =>
    if isAddress (version.map Int.ofNat) v then .ok none
    else .ok (some ⟨kind, demand version⟩)

end ValueCheck

/-! ## All checks -/

/-- Any check, whatever it looks at. -/
inductive Check
  | text (c : TextCheck)
  | number (c : NumberCheck)
  | value (c : ValueCheck)
deriving Repr

namespace Check

/-- The name of a check, by which `checkNames` lists it. -/
def name : Check → String
  | text c => c.name
  | number c => c.name
  | value c => c.name

/-- Checks that stand beside earlier ones of their name instead of replacing them: patterns, and
    every `ValueCheck`. -/
def accumulates : Check → Bool
  | text (.pattern _) => true
  | value _ => true
  | _ => false

/-- The number that a value is; a flag is none here. -/
def quantity? : Value → Option Quantity
  | .int n => some (.whole n)
  | .float d => some (.binary d)
  | _ => none

/-- The outcome of a check on the value `v` of the field `label`.  A `TextCheck` lets every value
    pass that is no text, and a `NumberCheck` every one that is no number. -/
def apply (label : String) (v : Value) : Check → Except Fault (Option Violation)
  | text c =>
    match v with
    | .text s => c.apply label s
    | _ => .ok none
  | number c =>
    match quantity? v with
    | some q => c.apply label q
    | none => .ok none
  | value c => c.apply v

end Check

end Rulebook
