/-
  The values that fields hold and that rules take as arguments.

  1. `Value`: data of no fixed shape, the same that a data file can hold, and patterns;
  2. `same`: equality of values, with whole and floating-point numbers on one line and flags
     counting as zero and one;
  3. `member`: membership that tells flags from numbers;
  4. `shown`, `text`: a value as it appears in messages;
  5. `Value.put`: entries of an object, keys compared by value.
-/
import Rulebook.Number.Double
import Rulebook.Number.Whole
import Rulebook.Pattern.Compile

namespace Rulebook

open Rulebook.Number Rulebook.Text

/-- A value, as a data text or an argument gives it.  The `entries` of a `dict` keep the order in
    which their keys were first given. -/
inductive Value
  | null
  | bool (b : Bool)
  | int (n : Int)
  | float (d : Double)
  | text (s : String)
  | list (items : List Value)
  | dict (entries : List (Value × Value))
  | pattern (p : Pattern)
deriving Repr, Inhabited

namespace Value

/-! ## Kinds -/

/-- The name of a value's kind in messages: `NoneType`, `bool`, `int` and so on. -/
def kindName : Value → String
  | null => "NoneType"
  | bool _ => "bool"
  | int _ => "int"
  | float _ => "float"
  | text _ => "str"
  | list _ => "list"
  | dict _ => "dict"
  | pattern _ => "Pattern"

/-- Is the value a flag, `bool _`? -/
def isBool : Value → Bool
  | bool _ => true
  | _ => false

/-- Whether a value may be the key of a `dict`: every kind may but `list` and `dict`. -/
def isKey : Value → Bool
  | list _ => false
  | dict _ => false
  | _ => true

/-! ## Equality -/

/-- The place of a number on the line, where `bool true` is one and `bool false` is zero; texts,
    lists and the like have none. -/
def place? : Value → Option Place
  | bool b => some (.ofInt (if b then 1 else 0))
  | int n => some (.ofInt n)
  | float d => d.place?
  | _ => none

mutual

/-- Equality of `a` and `b`: numbers by their `place?`, so that `int 1` equals `bool true` and
    `float 1.0`. -/
def same (a b : Value) : Bool :=
  match a with
  | null => match b with | null => true | _ => false
  | text s => match b with | text t => s == t | _ => false
  | list xs => match b with | list ys => sameItems xs ys | _ => false
  | dict es => match b with
    | dict fs => es.length == fs.length && sameEntries es fs
    | _ => false
  | pattern p => match b with | pattern q => p.same q | _ => false
  | bool x => match b.place? with | some q => Place.ofInt (if x then 1 else 0) == q | none => false
  | int n => match b.place? with | some q => Place.ofInt n == q | none => false
  | float d => match d.place?, b.place? with | some p, some q => p == q | _, _ => false
termination_by structural a

/-- Equality of the lists `xs` and `ys`, item by item under `same`. -/
def sameItems (xs ys : List Value) : Bool :=
  match xs with
  | [] => ys.isEmpty
  | x :: xs =>
    match ys with
    | [] => false
    | y :: ys => x.same y && sameItems xs ys
termination_by structural xs

/-- Each entry of `es` has one in `fs` whose key and value are the `same`. -/
def sameEntries (es fs : List (Value × Value)) : Bool :=
  match es with
  | [] => true
  | (k, v) :: es => fs.any (fun (l, w) => k.same l && v.same w) && sameEntries es fs
termination_by structural es

end

/-- Two flags that agree, or a `candidate` and a `value` that are the `same` and neither of which
    is a flag. -/
def agrees (candidate value : Value) : Bool :=
  if candidate.isBool || value.isBool then
    match candidate, value with
    | bool a, bool b => a == b
    | _, _ => false
  else candidate.same value

/-- Membership in `values` by `agrees`, which tells flags from numbers. -/
def member (values : List Value) (value : Value) : Bool := values.any (·.agrees value)

/-- A text `agrees` with itself and with no other value. -/
theorem agrees_text_iff {candidate : Value} {s : String} :
    candidate.agrees (text s) = true ↔ candidate = text s := by
  cases candidate <;> simp [agrees, isBool, same, place?]

theorem member_text_iff {values : List Value} {s : String} :
    member values (text s) = true ↔ text s ∈ values := by
  simp only [member, List.any_eq_true, agrees_text_iff, exists_eq_right]

/-! ## Display -/

/-- The `parts`, with commas between them, from the `opening` bracket to the `closing` one. -/
def bracketed (opening : String) (parts : List String) (closing : String) : String :=
  opening ++ ", ".intercalate parts ++ closing

mutual

/-- The text of `v` inside a list or an object, where texts stand in quotes; it fails on a whole
    number of more than 4300 digits. -/
def shown (v : Value) : Except Whole.DigitLimit String :=
  match v with
  | null => .ok "None"
  | bool true => .ok "True"
  | bool false => .ok "False"
  | int n => Whole.text n
  | float d => .ok d.text
  | text s => .ok (quoted s)
  | list xs =>
    match shownItems xs with
    | .ok parts => .ok (bracketed "[" parts "]")
    | .error e => .error e
  | dict es =>
    match shownEntries es with
    | .ok parts => .ok (bracketed "\x7b" parts "\x7d")
    | .error e => .error e
  | pattern p => .ok p.shown
termination_by structural v

/-- The items `xs` of a list, each as `shown`. -/
def shownItems (xs : List Value) : Except Whole.DigitLimit (List String) :=
  match xs with
  | [] => .ok []
  | x :: xs =>
    match x.shown, shownItems xs with
    | .ok part, .ok parts => .ok (part :: parts)
    | .error e, _ => .error e
    | _, .error e => .error e
termination_by structural xs

/-- The entries `es` of an object, key and value as `shown`, with a colon between them. -/
def shownEntries (es : List (Value × Value)) : Except Whole.DigitLimit (List String) :=
  match es with
  | [] => .ok []
  | (k, v) :: es =>
    match k.shown, v.shown, shownEntries es with
    | .ok key, .ok part, .ok parts => .ok ((key ++ ": " ++ part) :: parts)
    | .error e, _, _ => .error e
    | _, .error e, _ => .error e
    | _, _, .error e => .error e
termination_by structural es

end

/-- A value as text: `text s` is `s` itself, anything else is as `shown`. -/
def asText : Value → Except Whole.DigitLimit String
  | text s => .ok s
  | v => v.shown

/-- The texts of the `values`, with commas between them. -/
def listed (values : List Value) : Except Whole.DigitLimit String := do
  return ", ".intercalate (← values.mapM asText)

/-! ## Objects -/

/-- Sets the `value` of `key` among the `entries`: in its place if there is a key that is the
    `same`, else at the end. -/
def put (entries : List (Value × Value)) (key value : Value) : List (Value × Value) :=
  match entries with
  | [] => [(key, value)]
  | (k, v) :: rest =>
    if k.same key then (k, value) :: rest else (k, v) :: put rest key value

/-- The object that a list of entries makes by `put`, later values replacing earlier ones. -/
def ofEntries (entries : List (Value × Value)) : Value :=
  dict (entries.foldl (fun es (k, v) => put es k v) [])

/-- The value of the first of the `entries` whose key is the text `key`. -/
def get? (entries : List (Value × Value)) (key : String) : Option Value :=
  (entries.find? fun e => (text key).same e.1).map (·.2)

end Value

end Rulebook
