/-
  The command line.

      usage: PROGRAM [-h] [--value KEY=VALUE] [fields_file]

  Long options may be shortened while they stay unambiguous, and take their argument behind an
  equals sign or as the next word.  Behind `--` every word is plain.

  1. `Pair.read`: a key and a value around the first equals sign;
  2. `Word`: what one word of the command line is taken for;
  3. `UsageError`: what can be wrong;
  4. `Request.parse`: the whole line.
-/
import Rulebook.Number.Numeral
import Rulebook.Fault
import Rulebook.Text.Format

namespace Rulebook.Console

open Rulebook.Text

/-! ## Pairs -/

/-- A key, which may not be empty, and a value, from around the first equals sign of `pair`. -/
def readPair (pair : String) : Except Fault (String × String) :=
  match cut '=' pair.toList with
  | (key, some value) =>
    if key.isEmpty then .error (.badPair pair)
    else .ok (String.ofList key, String.ofList value)
  | (_, none) => .error (.badPair pair)

/-! ## Words -/

/-- The options of the command. -/
inductive Switch
  | help
  | value
deriving DecidableEq, Repr

/-- The ways to write the options. -/
def spellings : List (String × Switch) :=
  [("-h", .help), ("--help", .help), ("--value", .value)]

/-- The option as it is named in errors. -/
def Switch.name : Switch → String
  | .help => "-h/--help"
  | .value => "--value"

/-- What a word is taken for: an `option` may be `short` and may have its `argument` in the word. -/
inductive Word
  | plain (text : String)
  | separator
  | option (o : Switch) (short : Bool) (argument : Option String)
  | unknown (text : String)
deriving DecidableEq, Repr

/-- What can be wrong with a command line. -/
inductive UsageError
  | ambiguous (word : String) (candidates : List String)
  | argumentExpected (o : Switch)
  | argumentIgnored (o : Switch) (argument : String)
  | badArgument (o : Switch) (fault : Fault)
  | unrecognized (words : List String)
deriving DecidableEq, Repr

/-- The wording of an error, behind the usage line. -/
def UsageError.message : UsageError → String
  | ambiguous word candidates =>
    "ambiguous option: " ++ word ++ " could match " ++ ", ".intercalate candidates
  | argumentExpected o => "argument " ++ o.name ++ ": expected one argument"
  | argumentIgnored o argument =>
    "argument " ++ o.name ++ ": ignored explicit argument " ++ quoted argument
  | badArgument o fault => "argument " ++ o.name ++ ": " ++ fault.message
  | unrecognized words => "unrecognized arguments: " ++ " ".intercalate words

/-- The characters `cs` are a minus sign and a number without exponent: digits, or digits around a
    point with at least one behind it. -/
def isNegativeNumber (cs : List Char) : Bool :=
  match dropLineEnd cs with
  | '-' :: rest =>
    match rest.dropWhile isDigit with
    | [] => !rest.isEmpty
    | '.' :: fraction => !fraction.isEmpty && fraction.all isDigit
    | _ => false
  | _ => false

/-- The `spellings` that the word `cs` shortens, with the argument behind its equals sign; for a
    word with one dash, those that are its first letter. -/
def candidates (cs : List Char) : List (String × Word) :=
  if cs.take 2 = ['-', '-'] then
    let (name, argument) := cut '=' cs
    (spellings.filter fun s => name.isPrefixOf s.1.toList).map fun (spelling, o) =>
      (spelling, .option o false (argument.map String.ofList))
  else
    (spellings.filter fun s => s.1.toList = cs.take 2).map fun (spelling, o) =>
      (spelling, .option o true (some (String.ofList (cs.drop 2))))

/-- The option in front of the equals sign of `word`, if it is spelled out. -/
def spelledOut? (word : String) : Option Word :=
  match cut '=' word.toList with
  | (name, some argument) =>
    (spellings.lookup (String.ofList name)).map fun o =>
      .option o (name.length = 2) (some (String.ofList argument))
  | (_, none) => none

/-- What `word` is taken for when no separator stands before it. -/
def classify (word : String) : Except UsageError Word :=
  let cs := word.toList
  match cs with
  | [] => .ok (.plain word)
  | first :: rest =>
    if first ≠ '-' then .ok (.plain word)
    else
      match spellings.lookup word with
      | some o => .ok (.option o (cs.length = 2) none)
      | none =>
        if rest.isEmpty then .ok (.plain word)
        else
          match spelledOut? word with
          | some w => .ok w
          | none =>
            match candidates cs with
            | [(_, w)] => .ok w
            | [] =>
              if isNegativeNumber cs || cs.contains ' ' then .ok (.plain word)
              else .ok (.unknown word)
            | several => .error (.ambiguous word (several.map (·.1)))

/-- What the words of a line are taken for, by `classify` up to a separator and as plain words
    behind it. -/
def classifyAll : List String → Except UsageError (List Word)
  | [] => .ok []
  | word :: words =>
    if word = "--" then .ok (.separator :: words.map .plain)
    else
      match classify word, classifyAll words with
      | .ok w, .ok ws => .ok (w :: ws)
      | .error e, _ => .error e
      | _, .error e => .error e

/-! ## Lines -/

/-- What has been gathered from a line: the `file` (once its place is taken), the `pairs`, and the
    `extras` that nothing wants.  A pair is missing if its option was given the separator as its
    argument. -/
structure Gathered where
  fileTaken : Bool
  file : Option String
  pairs : List (Option (String × String))
  extras : List String
deriving Repr

/-- What a line asks for: the help text, or a check of a `file` and of `pairs`. -/
inductive Request
  | help
  | check (file : Option String) (pairs : List (Option (String × String)))
deriving Repr

/-- One more pair, read from `text`; `explicit` says that it stood behind an equals sign. -/
def Gathered.addPair (g : Gathered) (text : String) (explicit : Bool) :
    Except UsageError Gathered :=
  if explicit && text = "--" then .ok { g with pairs := g.pairs ++ [none] }
  else
    match readPair text with
    | .ok pair => .ok { g with pairs := g.pairs ++ [some pair] }
    | .error fault => .error (.badArgument .value fault)

/-- Letters behind `-h` must all ask for help as well. -/
def checkHelpLetters : List Char → Except UsageError Unit
  | [] => .ok ()
  | c :: cs =>
    if c = 'h' then checkHelpLetters cs
    else .error (.argumentIgnored .help (String.ofList (c :: cs)))

/-- Works through the words, with `g` gathered before them.  The file is the first plain word, and
    takes a separator on either side of it along. -/
def gather (g : Gathered) : List Word → Except UsageError Request
  | [] =>
    if g.extras.isEmpty then .ok (.check g.file g.pairs) else .error (.unrecognized g.extras)
  | .plain text :: rest =>
    if g.fileTaken then gather { g with extras := g.extras ++ [text] } rest
    else
      let g := { g with fileTaken := true, file := some text }
      match rest with
      | .separator :: rest => gather g rest
      | rest => gather g rest
  | .separator :: rest =>
    if g.fileTaken then gather { g with extras := g.extras ++ ["--"] } rest
    else
      match rest with
      | .plain text :: rest => gather { g with fileTaken := true, file := some text } rest
      | rest => gather { g with fileTaken := true } rest
  | .unknown text :: rest => gather { g with extras := g.extras ++ [text] } rest
  | .option .help _ none :: _ => .ok .help
  | .option .help short (some argument) :: _ =>
    if short && !argument.isEmpty then
      match checkHelpLetters argument.toList with
      | .ok () => .ok .help
      | .error e => .error e
    else .error (.argumentIgnored .help argument)
  | .option .value _ (some argument) :: rest =>
    match g.addPair argument true with
    | .ok g => gather g rest
    | .error e => .error e
  | .option .value _ none :: .plain text :: rest =>
    match g.addPair text false with
    | .ok g => gather g rest
    | .error e => .error e
  | .option .value _ none :: _ => .error (.argumentExpected .value)

/-- The request that the command line `words` make. -/
def Request.parse (words : List String) : Except UsageError Request :=
  match classifyAll words with
  | .ok ws => gather ⟨false, none, [], []⟩ ws
  | .error e => .error e

/-! ## Texts -/

/-- The usage line of `program`. -/
def usage (program : String) : String :=
  "usage: " ++ program ++ " [-h] [--value KEY=VALUE] [fields_file]\n"

/-- The help text of `program`. -/
def help (program : String) : String :=
  usage program ++ "\nCompile and check field rule strings\n\npositional arguments:\n"
    ++ "  fields_file        Path to fields JSON\n\noptions:\n"
    ++ "  -h, --help         show this help message and exit\n"
    ++ "  --value KEY=VALUE  Validate a value for a field (repeatable)\n"

/-- The report of the error `e`: the usage line, and a line with the message. -/
def UsageError.report (program : String) (e : UsageError) : String :=
  usage program ++ program ++ ": error: " ++ e.message ++ "\n"

end Rulebook.Console
