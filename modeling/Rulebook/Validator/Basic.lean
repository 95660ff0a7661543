/-
  Validators: rules folded onto a type, and the judgement of a value.

  1. `Validator`: the state that the rules of one field make up;
  2. `Validator.add`: one more rule;
  3. `Validator.convert`: the value as one of the type, or the violation of the type;
  4. `Validator.judge`: the stages of a judgement, the first violation counting;
  5. `Validator.build`: the validator of a rule text.
-/
import Rulebook.Validator.Rule

namespace Rulebook

open Rulebook.Text Rulebook.Number

/-- The rules of one field, folded onto its `type`: switches, the lists of `allowed`, `valid` and
    `invalid` values, and the `checks` in the order in which they are made. -/
structure Validator where
  type : BaseType
  required : Bool
  forbidden : Bool
  allowed : List Value
  valid : List Value
  invalid : List Value
  checks : List Check
  trim : Bool
  truthy : List Value
  falsy : List Value
  sensitive : Bool
deriving Repr

namespace Validator

/-- A validator of the `type` without rules. -/
def empty (type : BaseType) : Validator where
  type := type
  required := false
  forbidden := false
  allowed := []
  valid := []
  invalid := []
  checks := []
  trim := false
  truthy := [.bool true, .text "true"]
  falsy := [.bool false, .text "false"]
  sensitive := false

/-! ## Folding rules -/

/-- Puts the check `c` at the end of `checks`; unless it `accumulates`, earlier ones of its name
    go. -/
def addCheck (checks : List Check) (c : Check) : List Check :=
  (if c.accumulates then checks else checks.filter (·.name != c.name)) ++ [c]

/-- The validator `v` with one more rule. -/
def add (v : Validator) : Rule → Validator
  | .required => { v with required := true }
  | .optional => { v with required := false }
  | .forbidden => { v with forbidden := true }
  | .valid x => { v with valid := v.valid ++ [x] }
  | .allow x => { v with allowed := v.allowed ++ [x] }
  | .invalid x => { v with invalid := v.invalid ++ [x] }
  | .trim => { v with trim := true }
  | .truthy x => { v with truthy := v.truthy ++ [x] }
  | .falsy x => { v with falsy := v.falsy ++ [x] }
  | .sensitive => { v with sensitive := true }
  | .check c => { v with checks := addCheck v.checks c }

/-- The names of the `checks` of `v`, in the order in which they are made. -/
def checkNames (v : Validator) : List String := v.checks.map (·.name)

/-! ## Conversion -/

/-- A text, stripped if `trim` is on; it may be empty only if that is allowed.  What is no text is
    a violation. -/
def convertText (v : Validator) (label : String) : Value → Except Violation Value
  | .text s =>
    let s := if v.trim then strip s else s
    if s.isEmpty && !Value.member v.allowed (.text "") then
      .error ⟨"string.empty", labelled label "is not allowed to be empty"⟩
    else .ok (.text s)
  | _ => .error ⟨"string.base", labelled label "must be a string"⟩

/-- The number that the text `s` writes, blanks around it allowed: `int` for sign and digits alone,
    `float` with a point or an exponent, and `none` if it writes no number. -/
def numberOfText (s : String) : Except Fault (Option Value) :=
  match Numeral.readChars? (stripChars s.toList) with
  | none => .ok none
  | some n =>
    if n.isWhole then
      match Whole.ofDigits (Numeral.isMinus n.sign) n.whole with
      | .ok k => .ok (some (.int k))
      | .error e => .error (.tooManyDigits e)
    else .ok (some (.float n.toDouble))

/-- A number that lies on the line: infinities and `nan` are violations. -/
def convertNumber (label : String) : Value → Except Violation Value
  | .int n => .ok (.int n)
  | .float (.infinite _) => .error ⟨"number.infinity", labelled label "cannot be infinity"⟩
  | .float (.finite negative units) => .ok (.float (.finite negative units))
  | _ => .error ⟨"number.base", labelled label "must be a number"⟩

/-- The `value` is taken for the `candidate`: two flags that agree, two texts that agree (but for
    case, unless `sensitive`), or two equal values of other kinds. -/
def flagAgrees (sensitive : Bool) (value candidate : Value) : Bool :=
  match value, candidate with
  | .bool a, .bool b => a == b
  | .bool _, _ => false
  | _, .bool _ => false
  | .text s, .text t => if sensitive then s == t else lower s == lower t
  | _, _ => value.same candidate

/-- The flag that `value` stands for: `true` if it agrees with one of the `truthy` values under
    `flagAgrees`, else `false` if it does with a `falsy` one. -/
def convertFlag (v : Validator) (label : String) (value : Value) : Except Violation Value :=
  if v.truthy.any (flagAgrees v.sensitive value) then .ok (.bool true)
  else if v.falsy.any (flagAgrees v.sensitive value) then .ok (.bool false)
  else .error ⟨"boolean.base", labelled label "must be a boolean"⟩

/-- The `value` as one of the type of `v`, or the violation of the type.  It fails only on a
    numeral of too many digits. -/
def convert (v : Validator) (label : String) (value : Value) :
    Except Fault (Except Violation Value) :=
  match v.type with
  | .text => .ok (v.convertText label value)
  | .flag => .ok (v.convertFlag label value)
  | .any => .ok (.ok value)
  | .number =>
    match value with
    | .text s =>
      match numberOfText s with
      | .ok (some n) => .ok (convertNumber label n)
      | .ok none => .ok (convertNumber label value)
      | .error e => .error e
    | _ => .ok (convertNumber label value)

/-! ## Judgement -/

/-- The first violation among the checks of a list; the ones behind it are not made. -/
def runChecks (label : String) (value : Value) : List Check → Except Fault (Option Violation)
  | [] => .ok none
  | c :: cs =>
    match c.apply label value with
    | .ok none => runChecks label value cs
    | r => r

/-- The violation of a value that is not among the `valid` ones, which are listed in its message. -/
def notValid (v : Validator) (label : String) : Except Fault (Option Violation) :=
  match Value.listed v.valid with
  | .error e => .error (.tooManyDigits e)
  | .ok names =>
    let demand := if v.valid.length = 1 then "must be [" else "must be one of ["
    .ok (some ⟨"any.only", labelled label (demand ++ names ++ "]")⟩)

/-- What is left to ask of a `value` that has the type: `allowed` values pass, `valid` values are
    the only ones to pass if there are any, `invalid` ones fail, and then the `checks` are made. -/
def judgeConverted (v : Validator) (label : String) (value : Value) :
    Except Fault (Option Violation) :=
  if Value.member v.allowed value then .ok none
  else if !v.valid.isEmpty then
    if Value.member v.valid value then .ok none else v.notValid label
  else if Value.member v.invalid value then
    .ok (some ⟨"any.invalid", labelled label "contains an invalid value"⟩)
  else runChecks label value v.checks

/-- The first violation of a `value`, if there is one.  An absent value can only be missing; a
    value that is present can be forbidden, or allowed as it is, before `convert` and
    `judgeConverted` have their say. -/
def judge (v : Validator) (label : String) (value : Value) : Except Fault (Option Violation) :=
  match value with
  | .null =>
    if v.required then .ok (some ⟨"any.required", labelled label "is required"⟩) else .ok none
  | _ =>
    if v.forbidden then .ok (some ⟨"any.unknown", labelled label "is not allowed"⟩)
    else if Value.member v.allowed value then .ok none
    else
      match v.convert label value with
      | .error e => .error e
      | .ok (.error violation) => .ok (some violation)
      | .ok (.ok converted) => v.judgeConverted label converted

/-! ## From rule texts -/

/-- The rules of tokens by `Token.rule`, or the fault of the first token that makes none. -/
def rulesOf (type : BaseType) : List Token → Except Fault (List Rule)
  | [] => .ok []
  | t :: ts =>
    match t.rule type with
    | .error e => .error e
    | .ok r =>
      match rulesOf type ts with
      | .ok rs => .ok (r :: rs)
      | .error e => .error e

/-- The validator of the `rules`, put one by one on the `empty` one of the `type`. -/
def ofRules (type : BaseType) (rules : List Rule) : Validator := rules.foldl add (empty type)

/-- The validator of the rule text `rules` for the type `typeName`.  The type is looked up before
    the text is read, and the text is read before the first rule is made. -/
def build (table : TypeTable) (rules : Option String) (typeName : String) :
    Except Fault Validator :=
  match table.find? typeName with
  | none => .error (.refuse none (.unknownType typeName))
  | some type =>
    match Token.parse rules with
    | .error r => .error (.refused r)
    | .ok tokens =>
      match rulesOf type tokens with
      | .ok rs => .ok (ofRules type rs)
      | .error e => .error e

/-- The rules `rs ++ ss` are those of `rs` and then, one after the other, `ss`. -/
theorem ofRules_append (type : BaseType) (rs ss : List Rule) :
    ofRules type (rs ++ ss) = ss.foldl add (ofRules type rs) := by
  simp [ofRules]

end Validator

end Rulebook
