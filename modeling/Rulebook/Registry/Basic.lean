/-
  The registry: fields by key, and their validators by key, in the order of their arrival.

  1. `Registry`: the state, with one table for the fields and one for the validators;
  2. `get?`, `keys`, `fields`: what is stored, as the table of the fields has it;
  3. `registerField`, `unregister`: a field compiled on arrival, and removed from both tables;
  4. `judge`: a value judged by key, with the validator that was compiled.
-/
import Rulebook.Outcome
import Rulebook.Registry.Table

namespace Rulebook

/-- The fields that are loaded, where from, and what was wrong with the others.  There are two
    tables, `descriptors` with the fields and `validators` with what they compile to: none for a
    field without rules. -/
structure Registry where
  file : String
  strict : Bool
  descriptors : Table Field
  validators : Table (Option Validator)
  errors : List (Value × String)
  fileErrors : List String
deriving Repr

namespace Registry

/-- The registry of a `file` that has no fields yet. -/
def empty (file : String) (strict : Bool) : Registry := ⟨file, strict, [], [], [], []⟩

/-! ## What is stored -/

/-- The keys of `r` in the order of their fields. -/
def keys (r : Registry) : List String := Table.keys r.descriptors

/-- The fields of `r` in their order. -/
def fields (r : Registry) : List Field := r.descriptors.map (·.2)

/-- A `key` and the `field` under it. -/
structure Entry where
  key : String
  field : Field
deriving Repr

/-- What `r` stores under `key`. -/
def get? (r : Registry) (key : String) : Option Entry :=
  (r.descriptors.lookup key).map fun f => ⟨key, f⟩

/-! ## Arrival and removal -/

/-- Compiles the field `f` and stores it, with its validator, under its key. -/
def registerField (table : TypeTable) (r : Registry) (f : Field) : Except Fault Registry :=
  match f.validator? table with
  | .ok v =>
    .ok { r with
      descriptors := Table.put f.key f r.descriptors
      validators := Table.put f.key v r.validators }
  | .error e => .error e

/-- Compiles and stores the field that `description` is of. -/
def register (table : TypeTable) (r : Registry) (description : Value) :
    Except Fault (Registry × Field) :=
  match Field.ofValue description with
  | .error e => .error e
  | .ok f =>
    match registerField table r f with
    | .ok r => .ok (r, f)
    | .error e => .error e

/-- Removes `key` from both tables of `r`, and tells whether it was there. -/
def unregister (r : Registry) (key : String) : Registry × Bool :=
  if r.keys.contains key then
    ({ r with
      descriptors := Table.erase r.descriptors key
      validators := Table.erase r.validators key }, true)
  else (r, false)

/-! ## Judgement -/

/-- The outcome for a `value` of the field of `key`.  The field is looked up in one table and its
    validator in the other. -/
def judge (r : Registry) (key : String) (value : Value) : Except Fault (Option Outcome) :=
  match r.descriptors.lookup key with
  | none => .error (.unknownField key)
  | some f =>
    match r.validators.lookup key with
    | none => .error (.unknownField key)
    | some none => .ok none
    | some (some v) => f.outcome v value

end Registry

end Rulebook
