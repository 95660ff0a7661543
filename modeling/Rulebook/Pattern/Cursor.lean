/-
  A pattern text as it is read: one token ahead.

  A token is one character, or a backslash with the character behind it.  The token ahead is
  always known, so a backslash with nothing behind it is noticed as soon as it comes next.

  1. `Token`, `Cursor`: the text, the token ahead, and the place just past it;
  2. `Progress`: what has been learned of groups and switches so far;
  3. `Reading`: a step of reading, with `take`, `accept`, `seek` and the kinds of fault.
-/
import Rulebook.Pattern.Basic
import Rulebook.Pattern.Complaint

namespace Rulebook.Pattern

/-! ## Tokens -/

/-- One character, or a backslash with the character behind it. -/
inductive Token
  | plain (c : Char)
  | escaped (c : Char)
deriving DecidableEq, Repr

namespace Token

/-- The characters of a token, with the backslash of an `escaped` one. -/
def chars : Token → List Char
  | plain c => [c]
  | escaped c => ['\\', c]

/-- The count of the characters of a token. -/
def length : Token → Nat
  | plain _ => 1
  | escaped _ => 2

/-- The token `t` as text. -/
def text (t : Token) : String := String.ofList t.chars

end Token

/-! ## The state of reading -/

/-- What has been read of a pattern text: `next` is the token ahead, and `index` the place just
    past it. -/
structure Cursor where
  text : Array Char
  index : Nat
  next : Option Token
deriving Repr

namespace Cursor

/-- The place of the token ahead of `c`; at the end of the text it is `index`. -/
def position (c : Cursor) : Nat :=
  c.index - (match c.next with | some t => t.length | none => 0)

/-- Looks at the token that begins at `index`.  A backslash with nothing behind it is refused. -/
def lookAt (text : Array Char) (index : Nat) : Except Fault Cursor :=
  match text[index]? with
  | none => .ok ⟨text, index, none⟩
  | some '\\' =>
    match text[index + 1]? with
    | none => .error (.error ⟨.escapeAtEnd, some (text.size - 1)⟩)
    | some c => .ok ⟨text, index + 2, some (.escaped c)⟩
  | some c => .ok ⟨text, index + 1, some (.plain c)⟩

end Cursor

/-- What has been learned so far: `widths` holds the widths of each group that is closed, by number
    (number zero stays open), `names` the numbers of named groups, `conditions` the groups that
    conditions ask for. -/
structure Progress where
  cursor : Cursor
  flags : Flags
  widths : Array (Option (Nat × Nat))
  names : List (String × Nat)
  lookBehindFrom : Option Nat
  conditions : List (Nat × Nat)
deriving Repr

/-- A step of reading, which may end with a `Fault`. -/
abbrev Reading := StateT Progress (Except Fault)

namespace Reading

/-! ## Steps -/

/-- The token ahead, `none` at the end of the text. -/
def peek : Reading (Option Token) := return (← get).cursor.next

/-- The place of the token ahead. -/
def position : Reading Nat := return (← get).cursor.position

/-- Goes to the place `index` of the text. -/
def seek (index : Nat) : Reading Unit := do
  let s ← get
  let cursor ← Cursor.lookAt s.cursor.text index
  set { s with cursor := cursor }

/-- Takes the token ahead and looks at the one behind it. -/
def take : Reading (Option Token) := do
  let s ← get
  seek s.cursor.index
  return s.cursor.next

/-- Takes the token ahead if it is the plain character `c`, and tells whether it was. -/
def accept (c : Char) : Reading Bool := do
  if (← peek) = some (.plain c) then
    let _ ← take
    return true
  else return false

/-- Stops with the `complaint`, which is about the place `back` characters before the token
    ahead. -/
def complain {α : Type} (complaint : Complaint) (back : Nat) : Reading α := do
  throw (.error ⟨complaint, some ((← position) - back)⟩)

/-- Stops with the `complaint` about `place`. -/
def complainAt {α : Type} (complaint : Complaint) (place : Nat) : Reading α :=
  throw (.error ⟨complaint, some place⟩)

/-- Takes plain characters as long as `accepts` lets them pass, `count` of them at most. -/
def takeWhile (accepts : Char → Bool) : (count : Nat) → Reading (List Char)
  | 0 => return []
  | count + 1 => do
    match ← peek with
    | some (.plain c) =>
      if accepts c then
        let _ ← take
        return c :: (← takeWhile accepts count)
      else return []
    | _ => return []

/-- Takes what stands before the character `close`, behind what there is `sofar`, and that
    character; `what` is reported missing if there is nothing before it.  The count of tokens
    `left` bounds the search. -/
def takeUntil (close : Char) (what : String) : (left : Nat) → (sofar : List Char) →
    Reading (List Char)
  | 0, sofar => return sofar
  | left + 1, sofar => do
    match ← take with
    | none =>
      if sofar.isEmpty then complain (.missing what) 0
      else complain (.missing (String.ofList [close] ++ ", unterminated name")) sofar.length
    | some t =>
      if t = .plain close then
        if sofar.isEmpty then complain (.missing what) 1 else return sofar
      else takeUntil close what left (sofar ++ t.chars)

/-- Takes a name up to the character `close`; it may not be empty. -/
def takeName (close : Char) (what : String) : Reading (List Char) := do
  takeUntil close what ((← get).cursor.text.size + 1) []

/-! ## Groups -/

/-- The count of groups opened so far, the whole pattern being number zero. -/
def groupCount : Reading Nat := return (← get).widths.size

/-- The widths of `group`, once it is closed. -/
def closedGroup? (group : Nat) : Reading (Option (Nat × Nat)) := do
  return ((← get).widths[group]?).join

/-- Opens the next group, under `name` if it has one, and gives its number. -/
def openGroup (name : Option (List Char)) : Reading Nat := do
  let s ← get
  let group := s.widths.size
  match name with
  | none =>
    set { s with widths := s.widths.push none }
    return group
  | some cs =>
    let text := String.ofList cs
    match s.names.lookup text with
    | some first => complain (.groupRedefined text group first) (cs.length + 1)
    | none =>
      set { s with widths := s.widths.push none, names := (text, group) :: s.names }
      return group

/-- Closes `group`, whose matches have this `width`. -/
def closeGroup (group : Nat) (width : Nat × Nat) : Reading Unit :=
  modify fun s => { s with widths := s.widths.setIfInBounds group (some width) }

/-- Inside a look-behind, `group` may be referred to only if it was closed before the
    look-behind. -/
def checkLookBehind (group : Nat) : Reading Unit := do
  match (← get).lookBehindFrom with
  | none => return ()
  | some first =>
    if (← closedGroup? group).isNone then complain .groupStillOpen 0
    if first ≤ group then complain .groupInSameLookBehind 0

end Reading

end Rulebook.Pattern
