/-
  The command.

  It reads its settings from the environment and the one file that it is asked about, writes the
  report, and ends with the report's exit status.
-/
import Rulebook.Console.Report

namespace Rulebook.Console

/-- The name of the command in its messages. -/
def programName : String := "rulebook"

/-- The names of the variables that `Settings.read` looks at. -/
def settingNames : List String := ["FIELDS_FILE", "STRICT_FIELDS", "LOG_LEVEL", "VERBOSE"]

/-- The file that the command line `words` are about, or that of the `settings`. -/
def fileOf (settings : Settings) (words : List String) : String :=
  match Request.parse words with
  | .ok (.check (some file) _) => file
  | _ => settings.fieldsFile

end Rulebook.Console

open Rulebook Rulebook.Console in
/-- Runs the command line `words` on the files and the environment that are there. -/
def main (words : List String) : IO UInt32 := do
  let mut environment : List (String × String) := []
  for name in settingNames do
    if let some value ← IO.getEnv name then
      environment := environment ++ [(name, value)]
  let settings := Settings.read "." environment
  let file := fileOf settings words
  let bytes ← try some <$> IO.FS.readBinFile file catch _ => pure none
  let directory := match bytes with
    | some bytes => Directory.empty.write file bytes.toList
    | none => .empty
  match run programName .standard directory settings words with
  | .ok r =>
    IO.print r.output
    IO.eprint r.errors
    return r.status.toUInt32
  | .error fault =>
    IO.eprintln fault.message
    return 1
