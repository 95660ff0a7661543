/-
  The report on a file of fields, and on values for them.

  1. `fieldLines`: one line for each field, and one for each problem;
  2. `valueLine`: the outcome of one pair;
  3. `Run`, `run`: a whole command, with what it writes and its exit status.
-/
import Rulebook.Console.Arguments
import Rulebook.Registry.Shared

namespace Rulebook.Console

open Rulebook.Text

/-! ## Fields -/

/-- The line of the field `f`: its key, its type and its rules. -/
def fieldLine (f : Field) : String :=
  let rules := if f.hasRules then f.rules.getD "" else "-"
  "  [OK] " ++ f.key ++ " (" ++ f.type ++ "): " ++ rules ++ "\n"

/-- The lines of the problems that are noted under keys, by `asText`. -/
def errorLines : List (Value × String) → Except Fault (List String)
  | [] => .ok []
  | (key, message) :: rest =>
    match key.asText, errorLines rest with
    | .ok text, .ok lines => .ok (("  [!!] " ++ text ++ ": " ++ message ++ "\n") :: lines)
    | .error e, _ => .error (.tooManyDigits e)
    | _, .error e => .error e

/-- The line of a problem of the whole file, which is its `message`. -/
def problemLine (message : String) : String := "  [!!] " ++ message ++ "\n"

/-- The report on the fields of `r`, and on the problems noted in it. -/
def fieldReport (r : Registry) : Except Fault String :=
  match errorLines r.errors with
  | .error e => .error e
  | .ok errors =>
    let count := r.fields.length
    let total := count + r.errors.length
    .ok ("\n=== Fields: " ++ r.file ++ " ===\n\n" ++ String.join (r.fields.map fieldLine)
      ++ String.join errors ++ String.join (r.fileErrors.map problemLine)
      ++ "\n  " ++ count.repr ++ "/" ++ total.repr ++ " fields compiled\n\n")

/-- No problem was noted in `r`, neither under a key nor of the file. -/
def allCompiled (r : Registry) : Bool := r.errors.isEmpty && r.fileErrors.isEmpty

/-! ## Values -/

/-- The line of the pair of `key` and `value`, and whether the value is valid. -/
def valueLine (r : Registry) (key value : String) : Except Fault (String × Bool) :=
  match r.judge key (.text value) with
  | .error (.unknownField _) => .ok ("  [--] " ++ key ++ ": unknown field\n", false)
  | .error e => .error e
  | .ok none => .ok ("  [OK] " ++ key ++ "=" ++ quoted value ++ "\n", true)
  | .ok (some o) =>
    .ok ("  [!!] " ++ key ++ "=" ++ quoted value ++ ": " ++ o.message ++ " (" ++ o.kind ++ ")\n",
      false)

/-- The lines of pairs by `valueLine`, and whether all values are valid. -/
def valueLines (r : Registry) : List (Option (String × String)) → Except Fault (String × Bool)
  | [] => .ok ("", true)
  | none :: _ => .error .pairExpected
  | some (key, value) :: rest =>
    match valueLine r key value, valueLines r rest with
    | .ok (line, ok), .ok (lines, allOk) => .ok (line ++ lines, ok && allOk)
    | .error e, _ => .error e
    | _, .error e => .error e

/-! ## Commands -/

/-- What a command writes and its exit `status`. -/
structure Run where
  status : Nat
  output : String
  errors : String
deriving DecidableEq, Repr

/-- Checks the `file`, and values for its fields, which come in `pairs`. -/
def check (table : TypeTable) (d : Directory) (settings : Settings) (file : Option String)
    (pairs : List (Option (String × String))) : Except Fault Run :=
  let (r, result) := (Registry.ofSettings settings file (some false)).load table d
  match result with
  | .error (.refused refusal) => .ok ⟨1, problemLine refusal.message, ""⟩
  | .error e => .error e
  | .ok _ =>
    match fieldReport r, valueLines r pairs with
    | .ok fields, .ok (values, valid) =>
      .ok ⟨if allCompiled r && valid then 0 else 1, fields ++ values, ""⟩
    | .error e, _ => .error e
    | _, .error e => .error e

/-- Runs the command line `words` of `program`: a usage error, the help text, or `check`. -/
def run (program : String) (table : TypeTable) (d : Directory) (settings : Settings)
    (words : List String) : Except Fault Run :=
  match Request.parse words with
  | .error e => .ok ⟨2, "", e.report program⟩
  | .ok .help => .ok ⟨0, help program, ""⟩
  | .ok (.check file pairs) => check table d settings file pairs

end Rulebook.Console
