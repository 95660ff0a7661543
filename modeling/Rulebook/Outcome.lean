/-
  The judgement of a value for a field.

  1. `Outcome`: the first violation, with the field's key and label;
  2. `Field.validator?`: the validator of a field, if it has rules;
  3. `judgeField`: the outcome for a field that is given as a value.
-/
import Rulebook.Validator.Basic

namespace Rulebook

/-- The first violation of a value, with the `key` and the `label` of the field it was judged
    for. -/
structure Outcome where
  message : String
  kind : String
  key : String
  label : String
deriving DecidableEq, Repr

namespace Field

/-- The field `f` has rules: its rule text is there and not empty. -/
def hasRules (f : Field) : Bool := f.rules.any fun s => !s.isEmpty

/-- The validator of the field `f`; none for a field without rules, whose type is not looked up in
    the `table`. -/
def validator? (table : TypeTable) (f : Field) : Except Fault (Option Validator) :=
  if f.hasRules then
    match Validator.build table f.rules f.type with
    | .ok v => .ok (some v)
    | .error e => .error e
  else .ok none

/-- The outcome of the validator `v` for a `value` of the field `f`, which goes by its display
    name. -/
def outcome (f : Field) (v : Validator) (value : Value) : Except Fault (Option Outcome) :=
  match v.judge f.displayName value with
  | .error e => .error e
  | .ok none => .ok none
  | .ok (some violation) =>
    .ok (some ⟨violation.message, violation.kind, f.key, f.label⟩)

/-- The outcome for a `value` of the field `f`, the rules being read anew. -/
def judge (table : TypeTable) (f : Field) (value : Value) : Except Fault (Option Outcome) :=
  match f.validator? table with
  | .error e => .error e
  | .ok none => .ok none
  | .ok (some v) => f.outcome v value

/-- The field that `description` is of; a value that describes none is refused. -/
def ofValue (description : Value) : Except Fault Field :=
  match read description with
  | .ok f => .ok f
  | .error report => .error (.refuse none (.badField report))

end Field

/-- The outcome for a `value` and a field given by its `description`. -/
def judgeField (table : TypeTable) (value description : Value) :
    Except Fault (Option Outcome) :=
  match Field.ofValue description with
  | .ok f => f.judge table value
  | .error e => .error e

end Rulebook
