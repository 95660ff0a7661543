/-
  Fields: a key, a type, a label and the rules in one text.

  1. `Field`: the description of one field;
  2. `Field.Problem`, `Field.Report`: what is wrong with a value that should describe one;
  3. `Field.read`: the field that a value describes.
-/
import Rulebook.Value

namespace Rulebook

/-- One field.  Its `rules` are in one text, and may be missing. -/
structure Field where
  key : String
  type : String
  label : String
  rules : Option String
deriving DecidableEq, Repr

namespace Field

/-- The name of the field `f` in messages: its `label`, or its `key` where the label is empty. -/
def displayName (f : Field) : String := if f.label.isEmpty then f.key else f.label

/-! ## Problems -/

/-- What is wrong with one part of a description: it is `missing`, or of a `kind` other than text,
    or empty. -/
inductive Problem
  | missing
  | notText (kind : String)
  | tooShort
deriving DecidableEq, Repr

/-- The wording of a problem, behind the line with the name of the part. -/
def Problem.message : Problem → String
  | missing => "Field required [type=missing, input_type=dict]"
  | notText kind => "Input should be a valid string [type=string_type, input_type=" ++ kind ++ "]"
  | tooShort =>
    "String should have at least 1 character [type=string_too_short, input_type=str]"

/-- Why a value describes no field: it is no object, or some of its parts have `problems`. -/
inductive Report
  | notAnObject (kind : String)
  | parts (problems : List (String × Problem))
deriving DecidableEq, Repr

/-- The wording of a report, one problem after the other. -/
def Report.message : Report → String
  | notAnObject kind =>
    "1 validation error for FieldDescriptor\n  Input should be a valid dictionary or instance "
      ++ "of FieldDescriptor [type=model_type, input_type=" ++ kind ++ "]"
  | parts problems =>
    let count := problems.length
    problems.foldl (fun text (part, problem) => text ++ "\n" ++ part ++ "\n  " ++ problem.message)
      (count.repr ++ (if count = 1 then " validation error" else " validation errors")
        ++ " for FieldDescriptor")

/-! ## Reading -/

/-- The `part` of the `entries`, which must be there and be a text. -/
def readText (entries : List (Value × Value)) (part : String) : Except Problem String :=
  match Value.get? entries part with
  | none => .error .missing
  | some (.text s) => .ok s
  | some v => .error (.notText v.kindName)

/-- The key among the `entries`: a text that is not empty. -/
def readKey (entries : List (Value × Value)) : Except Problem String :=
  match readText entries "key" with
  | .ok s => if s.isEmpty then .error .tooShort else .ok s
  | .error e => .error e

/-- The label among the `entries`: empty where it is not given. -/
def readLabel (entries : List (Value × Value)) : Except Problem String :=
  match Value.get? entries "label" with
  | none => .ok ""
  | some (.text s) => .ok s
  | some v => .error (.notText v.kindName)

/-- The rules among the `entries`: none where they are not given, or null. -/
def readRules (entries : List (Value × Value)) : Except Problem (Option String) :=
  match Value.get? entries "validation" with
  | none => .ok none
  | some .null => .ok none
  | some (.text s) => .ok (some s)
  | some v => .error (.notText v.kindName)

/-- The problem of a part, under the name `part`; no problem if it was read. -/
def problemOf {α : Type} (part : String) : Except Problem α → List (String × Problem)
  | .ok _ => []
  | .error e => [(part, e)]

/-- The field that a value describes.  Parts of other names are passed over; all problems are
    reported, in the order of the parts. -/
def read : Value → Except Report Field
  | .dict entries =>
    match readKey entries, readText entries "type", readLabel entries, readRules entries with
    | .ok key, .ok type, .ok label, .ok rules => .ok ⟨key, type, label, rules⟩
    | key, type, label, rules =>
      .error (.parts (problemOf "key" key ++ problemOf "type" type ++ problemOf "label" label
        ++ problemOf "validation" rules))
  | v => .error (.notAnObject v.kindName)

/-- The value that describes the field `f`, an object with all four parts. -/
def toValue (f : Field) : Value :=
  .dict [(.text "key", .text f.key), (.text "type", .text f.type), (.text "label", .text f.label),
    (.text "validation", match f.rules with | some s => .text s | none => .null)]

end Field

end Rulebook
