/-
  Loading a registry from a file.

  A strict registry stops at the first problem; any other notes it and goes on with the next
  entry.  Problems of the file as a whole come before those of single entries.

  1. `sameKey`, `note`: keys of any kind, and problems by key;
  2. `problems`: what is wrong with the entries as a list;
  3. `reject`, `loadEntries`: the entries one after the other;
  4. `load`: the file.
-/
import Rulebook.Directory
import Rulebook.Json.Read
import Rulebook.Registry.Basic

namespace Rulebook.Registry

open Rulebook.Text

/-! ## Keys -/

/-- Equality of the keys `a` and `b` from one file, where nan is one thing and so equal to
    itself. -/
def sameKey (a b : Value) : Bool :=
  match a, b with
  | .float .nan, .float .nan => true
  | _, _ => a.same b

/-- Notes the `message` under `key`: in place of an earlier one under the `sameKey`, else at the
    end. -/
def note (key : Value) (message : String) : List (Value × String) → List (Value × String)
  | [] => [(key, message)]
  | (k, m) :: rest =>
    if sameKey k key then (k, message) :: rest else (k, m) :: note key message rest

/-! ## Problems of the list -/

/-- The parts that every entry must have, `key` and `type`. -/
def requiredParts : List String := ["key", "type"]

/-- The `requiredParts` that `entry` lacks, in order. -/
def missingParts (entry : List (Value × Value)) : List String :=
  requiredParts.filter fun part => (Value.get? entry part).isNone

/-- The problem of the `entry` at `index` if it lacks parts, and no problem otherwise. -/
def missingProblem (index : Nat) (entry : List (Value × Value)) : List String :=
  match missingParts entry with
  | [] => []
  | parts =>
    ["Field " ++ index.repr ++ " missing keys: "
      ++ Value.bracketed "[" (parts.map quoted) "]"]

/-- The problem of a `key` that is the `same` as one of the keys `known` from earlier entries.  An
    entry without a key counts as one whose key is empty.  It fails on a key that is a list or an
    object, which cannot be looked up. -/
def duplicateProblem (same : Value → Value → Bool) (known : List Value) (key : Value) :
    Except Fault (List String) :=
  if !key.isKey then .error (.notAKey key.kindName)
  else if known.any (same · key) then
    match key.asText with
    | .ok text => .ok ["Duplicate field key: '" ++ text ++ "'"]
    | .error e => .error (.tooManyDigits e)
  else .ok []

/-- The problems of entries from `index` on, where `known` are the keys before it. -/
def problemsFrom (same : Value → Value → Bool) (index : Nat) (known : List Value) :
    List Value → Except Fault (List String)
  | [] => .ok []
  | .dict entry :: rest =>
    let key := (Value.get? entry "key").getD (.text "")
    match duplicateProblem same known key with
    | .error e => .error e
    | .ok duplicate =>
      match problemsFrom same (index + 1) (known ++ [key]) rest with
      | .ok more => .ok (missingProblem index entry ++ duplicate ++ more)
      | .error e => .error e
  | _ :: rest =>
    match problemsFrom same (index + 1) known rest with
    | .ok more => .ok (("Field " ++ index.repr ++ " is not an object") :: more)
    | .error e => .error e

/-- The problems of the `entries` as a list, in order: entries that are no objects, missing parts,
    and keys that are the `same` as earlier ones. -/
def problems (same : Value → Value → Bool) (entries : List Value) :
    Except Fault (List String) :=
  problemsFrom same 0 [] entries

/-! ## Loading -/

/-- The key of an entry that has all `requiredParts`. -/
def keyOfEntry? : Value → Option Value
  | .dict entry => if (missingParts entry).isEmpty then Value.get? entry "key" else none
  | _ => none

/-- The key is that of a field that `r` stores already, so it is a text. -/
def holdsKey (r : Registry) : Value → Bool
  | .text s => r.keys.contains s
  | _ => false

/-- The reason for passing over an entry of the `file`, worded with its `key`. -/
def entryReason (file : String) (key : Value) (refusal : Refusal) : Except Fault Reason :=
  match key.asText with
  | .ok text => .ok (.badEntry file text refusal.message)
  | .error e => .error (.tooManyDigits e)

/-- A problem for a `reason`: the end of a strict load, else a note, under the `key` of its entry.
    Problems of the file as a whole have no key; nor has an entry whose key is null, and its
    problem is noted among theirs. -/
def reject (r : Registry) (key : Value) (reason : Reason) : Except Fault Registry :=
  if r.strict then .error (.refuse none reason)
  else
    match key with
    | .null => .ok { r with fileErrors := r.fileErrors ++ [reason.message] }
    | _ => .ok { r with errors := note key reason.message r.errors }

/-- The problem of the entry with `key` that is refused by `refusal`. -/
def rejectEntry (r : Registry) (key : Value) (refusal : Refusal) : Except Fault Registry :=
  match entryReason r.file key refusal with
  | .error e => .error e
  | .ok reason => reject r key reason

/-- The problems of the file as a whole, whose `messages` go into one. -/
def rejectFile (r : Registry) (messages : List String) : Except Fault Registry :=
  reject r .null (.badEntries r.file messages)

/-- Loads entries into `r`; the keys `loaded` before them are at hand.  Entries without the
    required parts and entries of a key that is stored already are passed over. -/
def loadEntries (table : TypeTable) (r : Registry) (loaded : List String) :
    List Value → Registry × Except Fault (List String)
  | [] => (r, .ok loaded)
  | entry :: rest =>
    match keyOfEntry? entry with
    | none => loadEntries table r loaded rest
    | some key =>
      if holdsKey r key then loadEntries table r loaded rest
      else
        match register table r entry with
        | .ok (r', f) => loadEntries table r' (loaded ++ [f.key]) rest
        | .error (.refused refusal) =>
          match rejectEntry r key refusal with
          | .ok r' => loadEntries table r' loaded rest
          | .error e => (r, .error e)
        | .error e => (r, .error e)

/-- The entries that the value of a whole file lists: a bare list, or the part `fields` of an
    object, empty if it has none. -/
def entriesOf? : Value → Option (List Value)
  | .list entries => some entries
  | .dict parts =>
    match Value.get? parts "fields" with
    | none => some []
    | some (.list entries) => some entries
    | some _ => none
  | _ => none

/-- Loads the `value` of a file into a registry `r` without fields. -/
def loadValue (table : TypeTable) (r : Registry) (value : Value) :
    Registry × Except Fault (List String) :=
  match entriesOf? value with
  | none => (r, .error (.refuse none (.noList r.file)))
  | some entries =>
    match problems sameKey entries with
    | .error e => (r, .error e)
    | .ok [] => loadEntries table r [] entries
    | .ok messages =>
      match rejectFile r messages with
      | .error e => (r, .error e)
      | .ok r' => loadEntries table r' [] entries

/-- The registry `r` with nothing loaded and no problems noted. -/
def cleared (r : Registry) : Registry := empty r.file r.strict

/-- The value that the `bytes` of the `file` write. -/
def readFile (file : String) (bytes : List UInt8) : Except Fault Value :=
  match Directory.textOf bytes with
  | .error e => .error e
  | .ok cs =>
    match Json.read cs with
    | .ok v => .ok v
    | .error (.error e) => .error (.refuse none (.badFile file e))
    | .error (.tooManyDigits limit) => .error (.tooManyDigits limit)

/-- Loads the file of `r` from the directory `d`: what was there is forgotten first, and a missing
    file is an empty list.  The result has the keys that were loaded, or the fault that stopped
    it. -/
def load (table : TypeTable) (d : Directory) (r : Registry) :
    Registry × Except Fault (List String) :=
  match d.look r.file with
  | .nothing => (r.cleared, .ok [])
  | .directory => (r.cleared, .error (.directory r.file))
  | .file bytes =>
    match readFile r.file bytes with
    | .error e => (r.cleared, .error e)
    | .ok value => loadValue table r.cleared value

end Rulebook.Registry
