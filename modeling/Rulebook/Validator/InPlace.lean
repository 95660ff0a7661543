/-
  Rules put onto a validator in place.

  A caller may keep one validator and put rules onto it by and by.  Such a call changes the
  validator as it goes along: if it fails half way, nothing of what it has changed by then is taken
  back.

  1. `InPlace`: what a call does to a validator, up to its end or to its failure;
  2. `putCheck`: one more check, in two steps;
  3. `Method`: what is done under the name of a rule, one definition for each family of rules;
  4. `methods`: the methods of a type;
  5. `putRule`: the method of a name, if there is one and the argument fits;
  6. `putCustom`: the four names that mean the same for every type.
-/
import Rulebook.Validator.Basic

namespace Rulebook

open Rulebook.Text Rulebook.Number

/-- Changes a `Validator`, and may fail with a `Fault` on the way.  A failure takes no change
    back. -/
abbrev InPlace := EStateM Fault Validator

/-- Puts the check `c` at the end.  Unless it `accumulates`, earlier ones of its name are taken out
    first. -/
def putCheck (c : Check) : InPlace Unit := do
  unless c.accumulates do
    modify fun v => { v with checks := v.checks.filter (·.name != c.name) }
  modify fun v => { v with checks := v.checks ++ [c] }

/-! ## Methods -/

/-- What is done under the `name` of a rule.  The argument that `run` is given is there and of a
    fitting kind when the `signature` asks for it. -/
structure Method where
  name : String
  signature : Signature
  run : Option Value → InPlace Unit

namespace Method

/-- A method without an argument, which makes the `change`. -/
def plain (name : String) (change : InPlace Unit) : Method := ⟨name, .nothing, fun _ => change⟩

/-- A method whose argument can be any value of the `kinds`, and makes the `change` of that
    value. -/
def withValue (name : String) (kinds : List ArgumentKind) (change : Value → InPlace Unit) :
    Method :=
  ⟨name, .required kinds, fun a => change (a.getD .null)⟩

/-- A method whose argument is the limit of a `check`, a whole number that must not be negative. -/
def withLimit (name : String) (check : Int → Check) : Method :=
  ⟨name, .required [.int], fun
    | some (.int n) => do
      if n < 0 then throw (.refuse (some name) .negativeLimit)
      putCheck (check n)
    | _ => throw (.refuse (some name) .missingArgument)⟩

/-- A method whose argument is a number, and makes the `change` of that number. -/
def withNumber (name : String) (change : Quantity → InPlace Unit) : Method :=
  ⟨name, .required numbers, fun a =>
    match a.bind Check.quantity? with
    | some q => change q
    | none => throw (.refuse (some name) .missingArgument)⟩

/-- The method of a pattern, or of the text of one, which is compiled first; an error in it blames
    `regex`, under whichever `name` it was given. -/
def withPattern (name : String) : Method :=
  ⟨name, .required patterns, fun a => do
    let p ← match a with
      | some (.pattern p) => pure p
      | some (.text body) =>
        match Pattern.compile body with
        | .ok p => pure p
        | .error e => throw (Argument.patternFault (some "regex") (.badPattern body) e)
      | _ => throw (.refuse (some name) .missingArgument)
    putCheck (.text (.pattern p))⟩

/-- The method that asks a text to have the form `f`. -/
def withForm (f : TextForm) : Method := plain f.name (putCheck (.text (.form f)))

/-- The method of the comparison `c` with a limit. -/
def withComparison (c : Comparison) : Method :=
  withNumber c.name fun q => putCheck (.number (.compare c q))

/-- The method that puts a value on the list of allowed ones; without an argument it admits the
    empty text. -/
def allow : Method :=
  ⟨"allow", .optional scalars, fun a =>
    modify fun v => { v with allowed := v.allowed ++ [a.getD (.text "")] }⟩

/-- The method `multiple`, which asks for multiples of a base; the base must be positive. -/
def multiple : Method :=
  withNumber "multiple" fun q => do
    if q.le (.whole 0) then throw (.refuse (some "multiple") .baseNotPositive)
    putCheck (.number (.multiple q))

/-! ## The methods of a type -/

/-- The methods of every type, in the order of `Rule.sharedRows`. -/
def shared : List Method := [
  plain "required" (modify fun v => { v with required := true }),
  plain "optional" (modify fun v => { v with required := false }),
  plain "forbidden" (modify fun v => { v with forbidden := true }),
  withValue "valid" scalars fun x => modify fun v => { v with valid := v.valid ++ [x] },
  allow,
  withValue "invalid" scalars fun x => modify fun v => { v with invalid := v.invalid ++ [x] }]

/-- The methods that only texts have, in the order of `Rule.textRows`. -/
def ofTexts : List Method := [
  withLimit "min" fun n => .text (.atLeast n),
  withLimit "max" fun n => .text (.atMost n),
  withLimit "length" fun n => .text (.exactly n),
  withPattern "regex",
  withPattern "pattern",
  withForm .alphanum,
  withForm .token,
  withForm .email,
  withForm .uri,
  withForm .hostname,
  withForm .hex,
  withForm .lowercase,
  withForm .uppercase,
  plain "trim" (modify fun v => { v with trim := true })]

/-- The methods that only numbers have, in the order of `Rule.numberRows`. -/
def ofNumbers : List Method := [
  withComparison .min,
  withComparison .max,
  withComparison .greater,
  withComparison .less,
  plain "integer" (putCheck (.number .integer)),
  plain "positive" (putCheck (.number .positive)),
  plain "negative" (putCheck (.number .negative)),
  multiple,
  withLimit "precision" fun n => .number (.precision n),
  plain "port" (putCheck (.number .port))]

/-- The methods that only flags have, in the order of `Rule.flagRows`. -/
def ofFlags : List Method := [
  withValue "truthy" [.text, .int] fun x => modify fun v => { v with truthy := v.truthy ++ [x] },
  withValue "falsy" [.text, .int] fun x => modify fun v => { v with falsy := v.falsy ++ [x] },
  plain "sensitive" (modify fun v => { v with sensitive := true })]

end Method

/-- All methods of a type but those of `putCustom`, which read their argument as it stands. -/
def methods : BaseType → List Method
  | .text => Method.shared ++ Method.ofTexts
  | .number => Method.shared ++ Method.ofNumbers
  | .flag => Method.shared ++ Method.ofFlags
  | .any => Method.shared

/-! ## By name and argument -/

/-- Runs the method `m`, if the `argument` fits its signature. -/
def Method.call (m : Method) (argument : Option Value) : InPlace Unit :=
  match m.signature, argument with
  | .nothing, none => m.run none
  | .nothing, some _ => throw (.refuse (some m.name) .unexpectedArgument)
  | .required _, none => throw (.refuse (some m.name) .missingArgument)
  | .optional _, none => m.run none
  | .required kinds, some v =>
    if kinds.any (·.holds v) then m.run (some v) else throw (Rule.refuseKind m.name kinds v)
  | .optional kinds, some v =>
    if kinds.any (·.holds v) then m.run (some v) else throw (Rule.refuseKind m.name kinds v)

/-- Puts on the rule of `name`, with the `argument` as it is. -/
def putRule (name : String) (argument : Option Value) : InPlace Unit := do
  let v ← get
  match (methods v.type).find? (·.name == name) with
  | none => throw (.refuse (some name) (.unknownRule v.type.name))
  | some m => m.call argument

/-! ## Names that mean the same for every type -/

/-- Puts on the rule `custom_list`, whose `argument` is a list of texts between commas. -/
def putMembers (argument : Option String) : InPlace Unit := do
  let raw := argument.getD ""
  if raw.isEmpty then throw (.refuse (some "custom_list") .missingList)
  putCheck (.value (.members (ValueCheck.parts raw)))

/-- Puts on a rule that asks for an address of the `version`, or of either. -/
def putAddress (version : Option Nat) (argument : Option String) : InPlace Unit := do
  let c := ValueCheck.address version
  if argument.isSome then throw (.refuse (some c.name) .unexpectedArgument)
  putCheck (.value c)

/-- Puts on the rule of one of the four names of `Rule.makeCustom?`, with the text of an
    `argument`. -/
def putCustom (name : String) (argument : Option String) : InPlace Unit :=
  if name = "custom_list" then putMembers argument
  else if name = "ipv4" then putAddress (some 4) argument
  else if name = "ipv6" then putAddress (some 6) argument
  else if name = "ip" then putAddress none argument
  else throw (.unknownField name)

end Rulebook
