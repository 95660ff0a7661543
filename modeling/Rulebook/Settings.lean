/-
  Settings, from the environment.

  1. `Settings`: the file of fields, strict loading, the log level, verbosity;
  2. `Settings.read`: their values, with a default for each that is not set.
-/
import Rulebook.Text.Case

namespace Rulebook

/-- What the environment decides: where the fields are, and how strictly they are read. -/
structure Settings where
  fieldsFile : String
  strict : Bool
  logLevel : String
  verbose : Bool
deriving DecidableEq, Repr

namespace Settings

/-- The words that switch something on, whatever the case of their letters. -/
def onWords : List String := ["true", "1", "yes"]

/-- Is `word` one of the `onWords`, but for case? -/
def isOn (word : String) : Bool := onWords.contains (Text.lower word)

/-- The settings of an `environment`; `root` is where the default file lies. -/
def read (root : String) (environment : List (String × String)) : Settings where
  fieldsFile := (environment.lookup "FIELDS_FILE").getD (root ++ "/fields.json")
  strict := isOn ((environment.lookup "STRICT_FIELDS").getD "true")
  logLevel := (environment.lookup "LOG_LEVEL").getD "INFO"
  verbose := isOn ((environment.lookup "VERBOSE").getD "false")

end Settings

end Rulebook
