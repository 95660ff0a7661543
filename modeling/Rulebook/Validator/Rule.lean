/-
  Rules: a token with an argument that fits.

  1. `BaseType`: the four types of fields;
  2. `Signature`: the argument that a rule of a name takes;
  3. `Rule`: what a rule does to a validator, as data;
  4. `Rule.make`: the rule of a name and an argument, for a type;
  5. `Token.rule`: the rule of a token.  Four names mean the same for every type and read the
     text of their argument as it stands.
-/
import Rulebook.Rule.Argument
import Rulebook.Validator.Check

namespace Rulebook

open Rulebook.Text Rulebook.Number

/-! ## Types -/

/-- The types of fields, each with rules of its own beside those of all types. -/
inductive BaseType
  | text
  | number
  | flag
  | any
deriving DecidableEq, Repr

/-- The name of a type, as field descriptions and messages have it. -/
def BaseType.name : BaseType → String
  | text => "string"
  | number => "number"
  | flag => "boolean"
  | any => "any"

/-- The types by the names under which fields ask for them.  A name given later comes first among
    the `entries`. -/
structure TypeTable where
  entries : List (String × BaseType)
deriving Repr

namespace TypeTable

/-- The four types under their own names, `BaseType.name`. -/
def standard : TypeTable :=
  ⟨[.text, .number, .flag, .any].map fun (t : BaseType) => (t.name, t)⟩

/-- The type that `name` stands for, if it is in the `table`. -/
def find? (table : TypeTable) (name : String) : Option BaseType := table.entries.lookup name

/-- Gives the `name` to `type`, also if it stood for another one. -/
def register (table : TypeTable) (name : String) (type : BaseType) : TypeTable :=
  ⟨(name, type) :: table.entries⟩

end TypeTable

/-! ## Arguments -/

/-- The kinds of values that arguments are asked to have; `pattern` is for compiled ones. -/
inductive ArgumentKind
  | text
  | int
  | float
  | bool
  | pattern
deriving DecidableEq, Repr

namespace ArgumentKind

/-- The name of a kind, as messages have it. -/
def name : ArgumentKind → String
  | text => "str"
  | int => "int"
  | float => "float"
  | bool => "bool"
  | pattern => "Pattern"

/-- The value `v` is of the kind; a flag is no `int` here. -/
def holds (v : Value) : ArgumentKind → Bool
  | text => match v with | .text _ => true | _ => false
  | int => match v with | .int _ => true | _ => false
  | float => match v with | .float _ => true | _ => false
  | bool => match v with | .bool _ => true | _ => false
  | pattern => match v with | .pattern _ => true | _ => false

end ArgumentKind

/-- The kinds `text`, `int`, `float` and `bool`. -/
def scalars : List ArgumentKind := [.text, .int, .float, .bool]

/-- The kinds `int` and `float`. -/
def numbers : List ArgumentKind := [.int, .float]

/-- The kinds `pattern` and `text`. -/
def patterns : List ArgumentKind := [.pattern, .text]

/-- The argument that a rule takes: none, one of the `kinds`, or one of the `kinds` if any. -/
inductive Signature
  | nothing
  | required (kinds : List ArgumentKind)
  | optional (kinds : List ArgumentKind)
deriving DecidableEq, Repr

/-! ## Rules -/

/-- What a rule does: it sets a switch, puts `v` on one of the lists, or adds the check `c`. -/
inductive Rule
  | required
  | optional
  | forbidden
  | valid (v : Value)
  | allow (v : Value)
  | invalid (v : Value)
  | trim
  | truthy (v : Value)
  | falsy (v : Value)
  | sensitive
  | check (c : Check)
deriving Repr

namespace Rule

/-- The rule that adds the check `c` on texts. -/
def ofText (c : TextCheck) : Rule := check (.text c)

/-- The rule that adds the check `c` on numbers. -/
def ofNumber (c : NumberCheck) : Rule := check (.number c)

/-! ## The tables -/

/-- A row of a table: the `name` of a rule, the argument that its `signature` asks for, and the
    rule that `make` makes of it.  The argument is there and of a fitting kind when the signature
    asks for it. -/
structure Row where
  name : String
  signature : Signature
  make : Option Value → Except Fault Rule

/-- The row of a `rule` without an argument. -/
def plain (name : String) (rule : Rule) : Row := ⟨name, .nothing, fun _ => .ok rule⟩

/-- The row of a rule whose argument can be any value of the `kinds`. -/
def withValue (name : String) (kinds : List ArgumentKind) (rule : Value → Rule) : Row :=
  ⟨name, .required kinds, fun v => .ok (rule (v.getD .null))⟩

/-- The row of a rule whose argument is a whole number that is not negative. -/
def withLimit (name : String) (rule : Int → Rule) : Row :=
  ⟨name, .required [.int], fun
    | some (.int n) =>
      if n < 0 then .error (.refuse (some name) .negativeLimit) else .ok (rule n)
    | _ => .error (.refuse (some name) .missingArgument)⟩

/-- The row of a rule whose argument is a number, a `Quantity`. -/
def withNumber (name : String) (make : Quantity → Except Fault Rule) : Row :=
  ⟨name, .required numbers, fun v =>
    match v.bind Check.quantity? with
    | some q => make q
    | none => .error (.refuse (some name) .missingArgument)⟩

/-- The row of a rule whose argument is a pattern, or the text of one; an error in the text blames
    `regex`, under whichever `name` it was given. -/
def withPattern (name : String) : Row :=
  ⟨name, .required patterns, fun
    | some (.pattern p) => .ok (ofText (.pattern p))
    | some (.text body) =>
      match Pattern.compile body with
      | .ok p => .ok (ofText (.pattern p))
      | .error e => .error (Argument.patternFault (some "regex") (.badPattern body) e)
    | _ => .error (.refuse (some name) .missingArgument)⟩

/-- The row of a rule that asks a text to have the form `f`. -/
def withForm (f : TextForm) : Row := plain f.name (ofText (.form f))

/-- The rules of every type.  `allow` alone admits the empty text. -/
def sharedRows : List Row := [
  plain "required" required,
  plain "optional" optional,
  plain "forbidden" forbidden,
  withValue "valid" scalars valid,
  ⟨"allow", .optional scalars, fun v => .ok (allow (v.getD (.text "")))⟩,
  withValue "invalid" scalars invalid]

/-- The rules that only fields of type `text` have. -/
def textRows : List Row := [
  withLimit "min" fun n => ofText (.atLeast n),
  withLimit "max" fun n => ofText (.atMost n),
  withLimit "length" fun n => ofText (.exactly n),
  withPattern "regex",
  withPattern "pattern",
  withForm .alphanum,
  withForm .token,
  withForm .email,
  withForm .uri,
  withForm .hostname,
  withForm .hex,
  withForm .lowercase,
  withForm .uppercase,
  plain "trim" trim]

/-- The row of the comparison `c`, whose argument is the limit. -/
def withComparison (c : Comparison) : Row :=
  withNumber c.name fun q => .ok (ofNumber (.compare c q))

/-- The rules that only fields of type `number` have. -/
def numberRows : List Row := [
  withComparison .min,
  withComparison .max,
  withComparison .greater,
  withComparison .less,
  plain "integer" (ofNumber .integer),
  plain "positive" (ofNumber .positive),
  plain "negative" (ofNumber .negative),
  withNumber "multiple" fun q =>
    if q.le (.whole 0) then .error (.refuse (some "multiple") .baseNotPositive)
    else .ok (ofNumber (.multiple q)),
  withLimit "precision" fun n => ofNumber (.precision n),
  plain "port" (ofNumber .port)]

/-- The rules that only fields of type `flag` have. -/
def flagRows : List Row := [
  withValue "truthy" [.text, .int] truthy,
  withValue "falsy" [.text, .int] falsy,
  plain "sensitive" sensitive]

/-- All rules of a type but those of `makeCustom?`, which read their argument as it stands. -/
def rows : BaseType → List Row
  | .text => sharedRows ++ textRows
  | .number => sharedRows ++ numberRows
  | .flag => sharedRows ++ flagRows
  | .any => sharedRows

/-! ## From names and arguments -/

/-- Refuses the argument `v` of the rule `name`, which is of none of the `kinds`; the message shows
    `v`, so it may be the fault that `v` cannot be shown. -/
def refuseKind (name : String) (kinds : List ArgumentKind) (v : Value) : Fault :=
  match v.shown with
  | .ok shown => .refuse (some name) (.wrongArgument (kinds.map (·.name)) v.kindName shown)
  | .error e => .tooManyDigits e

/-- The rule of `row`, if the `argument` is what its signature asks for. -/
def Row.apply (row : Row) (argument : Option Value) : Except Fault Rule :=
  match row.signature, argument with
  | .nothing, none => row.make none
  | .nothing, some _ => .error (.refuse (some row.name) .unexpectedArgument)
  | .required _, none => .error (.refuse (some row.name) .missingArgument)
  | .optional _, none => row.make none
  | .required kinds, some v =>
    if kinds.any (·.holds v) then row.make (some v) else .error (refuseKind row.name kinds v)
  | .optional kinds, some v =>
    if kinds.any (·.holds v) then row.make (some v) else .error (refuseKind row.name kinds v)

/-- The rule of `name` with the `argument`, by the `rows` of `type`. -/
def make (type : BaseType) (name : String) (argument : Option Value) : Except Fault Rule :=
  match (rows type).find? (·.name == name) with
  | none => .error (.refuse (some name) (.unknownRule type.name))
  | some row => row.apply argument

/-! ## Rules that read their argument as it stands -/

/-- The rule `custom_list`, whose `argument` is a list of texts between commas. -/
def makeMembers (argument : Option String) : Except Fault Rule :=
  match argument with
  | some s =>
    if s.isEmpty then .error (.refuse (some "custom_list") .missingList)
    else .ok (check (.value (.members (ValueCheck.parts s))))
  | none => .error (.refuse (some "custom_list") .missingList)

/-- The rules `ipv4`, `ipv6` and `ip`, which ask for an address of the `version`, or of either, and
    take no `argument`. -/
def makeAddress (version : Option Nat) (argument : Option String) : Except Fault Rule :=
  let c := ValueCheck.address version
  match argument with
  | some _ => .error (.refuse (some c.name) .unexpectedArgument)
  | none => .ok (check (.value c))

/-- The rule of one of the four names that mean the same for every type, or `none` for any other
    `name`. -/
def makeCustom? (name : String) (argument : Option String) : Option (Except Fault Rule) :=
  if name = "custom_list" then some (makeMembers argument)
  else if name = "ipv4" then some (makeAddress (some 4) argument)
  else if name = "ipv6" then some (makeAddress (some 6) argument)
  else if name = "ip" then some (makeAddress none argument)
  else none

end Rule

/-- The rule of the token `t`, for a `type`: by `makeCustom?`, and if that does not know the name
    by `make`. -/
def Token.rule (type : BaseType) (t : Token) : Except Fault Rule :=
  match Rule.makeCustom? t.name t.argument with
  | some r => r
  | none =>
    match t.value with
    | .ok v => Rule.make type t.name v
    | .error e => .error e

end Rulebook
