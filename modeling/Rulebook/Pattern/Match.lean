/-
  Does a pattern match somewhere in a text?

  A tree is run from a state with a continuation: the first way of matching the tree after which
  the continuation succeeds is taken.

  1. `Category.holds`, `CharTest.holds`: one character;
  2. `Anchor.holds`: one position;
  3. `times`, `greedily`, `lazily`, `possessively`: repetitions of a body given as a function;
  4. `Node.run`: the tree;
  5. `Node.mayBegin`, `search`: the starts of a text one after the other.

  An optional repetition is not tried again where the one before it began: at least one
  character lies between two of them, so the characters left bound their number.
-/
import Rulebook.Pattern.Basic
import Rulebook.Text.Blank
import Rulebook.Text.Case
import Rulebook.Text.Digit
import Rulebook.Text.Letter

namespace Rulebook.Pattern

open Rulebook.Text

/-! ## Characters -/

/-- The character `c` is of the class, of `ascii` characters alone or of all. -/
def Category.holds (ascii : Bool) (c : Char) : Category → Bool
  | digit => if ascii then isAsciiDigit c else isDigit c
  | blank => if ascii then isAsciiBlank c else isBlank c
  | word => if ascii then isAsciiWord c else isWord c

/-- The lower case of the character `code`, if there is a character of that number. -/
def lowerCode (code : Nat) : Nat :=
  if code.isValidChar then (lowerChar (Char.ofNat code)).toNat else code

/-- Case is folded along tables for the characters below `tableEnd`. -/
def tableEnd : Nat := 0x10000

/-- The literal `code` stands for `c`: it is the number of `c`, or, but for case, of its lower case
    or of a letter that shares its capital. -/
def literalHolds (folding : Folding) (code : Nat) (c : Char) : Bool :=
  match folding with
  | .exact => c.toNat == code
  | .ascii => (lowerAscii c).toNat == (if code < 128 then lowerCode code else code)
  | .unicode =>
    let low := lowerChar c
    low.toNat == lowerCode code || (extraPartners low).any fun p => p.toNat == lowerCode code

/-- The number `code` lies in the range from `first` to `last`. -/
def inRange (first last code : Nat) : Bool := first ≤ code && code ≤ last

/-- A member of the range from `first` to `last` is the character `c`, but for case. -/
def rangeHolds (folding : Folding) (first last : Nat) (c : Char) : Bool :=
  match folding with
  | .exact => inRange first last c.toNat
  | .ascii =>
    let low := lowerAscii c
    inRange first last low.toNat || inRange first last (upperAscii low).toNat
      || (tableEnd ≤ last && inRange first last (upperChar low).toNat)
  | .unicode =>
    let low := lowerChar c
    (sameCased low).any (fun s => s.toNat < tableEnd && inRange first last s.toNat)
      || (tableEnd ≤ last
          && (inRange first last low.toNat || inRange first last (upperChar low).toNat))

/-- The character `c` is a member, but for case.  Single letters from `tableEnd` on are compared as
    they stand in the set. -/
def SetItem.holds (folding : Folding) (ascii : Bool) (c : Char) : SetItem → Bool
  | single code =>
    if folding = .unicode ∧ tableEnd ≤ lowerCode code then (lowerChar c).toNat == code
    else literalHolds folding code c
  | range first last => rangeHolds folding first last c
  | category k negated => k.holds ascii c != negated

/-- The character `c` passes the test. -/
def CharTest.holds (c : Char) : CharTest → Bool
  | any lineFeed => lineFeed || c != '\n'
  | literal code negated folding => literalHolds folding code c != negated
  | set items negated folding ascii => items.any (·.holds folding ascii c) != negated

/-! ## Positions -/

/-- The character at `place` belongs to a word. -/
def wordAt (ascii : Bool) (text : Array Char) (place : Nat) : Bool :=
  match text[place]? with
  | some c => Category.word.holds ascii c
  | none => false

/-- The position `pos` fulfils the condition.  An empty text has no boundaries, and no other places
    either. -/
def Anchor.holds (text : Array Char) (pos : Nat) : Anchor → Bool
  | textStart => pos == 0
  | lineStart => pos == 0 || text[pos - 1]? == some '\n'
  | textEnd => pos == text.size
  | lineEnd => pos == text.size || text[pos]? == some '\n'
  | lastLineEnd => pos == text.size || (pos + 1 == text.size && text[pos]? == some '\n')
  | boundary inside ascii =>
    let before := pos != 0 && wordAt ascii text (pos - 1)
    let after := wordAt ascii text pos
    text.size != 0 && ((before != after) == inside)

/-! ## States -/

/-- A position `pos`, and for each of the `groups` the ends of the text it matched last. -/
structure State where
  pos : Nat
  groups : Array (Option (Nat × Nat))
deriving Repr

/-- The text that `group` matched last, if it has matched. -/
def State.group? (s : State) (group : Nat) : Option (Nat × Nat) := (s.groups[group]?).join

/-- A way to match from a state, given how to go on behind it. -/
abbrev Step := State → (State → Option State) → Option State

/-! ## Repetitions -/

/-- The `body` so many times, then on. -/
def times (body : Step) : (count : Nat) → Step
  | 0, s, k => k s
  | count + 1, s, k => body s fun s' => times body count s' k

/-- The `body` as often as possible, `budget` times at most, then `k`; `last` is where the
    repetition before began. -/
def greedily (body : Step) (k : State → Option State) : (budget : Nat) → (last : Option Nat) →
    State → Option State
  | 0, _, s => k s
  | budget + 1, last, s =>
    if last = some s.pos then k s
    else
      match body s (greedily body k budget (some s.pos)) with
      | some r => some r
      | none => k s

/-- The `body` as seldom as possible, `budget` times at most, then `k`; `last` is where the
    repetition before began. -/
def lazily (body : Step) (k : State → Option State) : (budget : Nat) → (last : Option Nat) →
    State → Option State
  | 0, _, s => k s
  | budget + 1, last, s =>
    match k s with
    | some r => some r
    | none => if last = some s.pos then none else body s (lazily body k budget (some s.pos))

/-- The `body` so many times, each for good. -/
def timesForGood (body : Step) : (count : Nat) → State → Option State
  | 0, s => some s
  | count + 1, s =>
    match body s some with
    | some s' => timesForGood body count s'
    | none => none

/-- The `body` as often as possible, `budget` times at most, each for good. -/
def possessively (body : Step) : (budget : Nat) → State → State
  | 0, s => s
  | budget + 1, s =>
    match body s some with
    | some s' => if s'.pos = s.pos then s' else possessively body budget s'
    | none => s

/-- How many characters from `pos` on pass the `test`, `budget` at most. -/
def runLength (text : Array Char) (test : Char → Bool) : (budget : Nat) → (pos : Nat) → Nat
  | 0, _ => 0
  | budget + 1, pos =>
    match text[pos]? with
    | some c => if test c then runLength text test budget (pos + 1) + 1 else 0
    | none => 0

/-- Goes on with `k` behind so many characters, or else one less, down to none. -/
def longestFirst (k : State → Option State) (s : State) : (count : Nat) → Option State
  | 0 => k s
  | count + 1 =>
    match k { s with pos := s.pos + (count + 1) } with
    | some r => some r
    | none => longestFirst k s count

/-- Goes on with `k` behind `skipped` characters, or else one more, `count` more at most. -/
def shortestFirst (k : State → Option State) (s : State) : (count : Nat) → (skipped : Nat) →
    Option State
  | 0, skipped => k { s with pos := s.pos + skipped }
  | count + 1, skipped =>
    match k { s with pos := s.pos + skipped } with
    | some r => some r
    | none => shortestFirst k s count (skipped + 1)

/-- A repetition of one character, which must pass the `test`: `least` times at least, and `most`
    at most. -/
def repeatChar (text : Array Char) (test : Char → Bool) (style : Style) (least : Nat)
    (most : Option Nat) : Step := fun s k =>
  let left := text.size - s.pos
  let budget := match most with | some n => min n left | none => left
  let count := runLength text test budget s.pos
  if count < least then none
  else
    let start := { s with pos := s.pos + least }
    match style with
    | .greedy => longestFirst k start (count - least)
    | .lazy => shortestFirst k start (count - least) 0
    | .possessive => k { s with pos := s.pos + count }

/-- A repetition of any `body`: `least` times at least, and `most` at most. -/
def repeatBody (text : Array Char) (body : Step) (style : Style) (least : Nat)
    (most : Option Nat) : Step := fun s k =>
  let budget (s : State) : Nat :=
    let left := text.size - s.pos + 2
    match most with | some n => min (n - least) left | none => left
  match style with
  | .greedy => times body least s fun s' => greedily body k (budget s') none s'
  | .lazy => times body least s fun s' => lazily body k (budget s') none s'
  | .possessive =>
    match timesForGood body least s with
    | some s' => k (possessively body (budget s') s')
    | none => none

/-! ## The tree -/

/-- The same `count` characters stand at the places `first` and `second`, but for case. -/
def sameText (text : Array Char) (folding : Folding) : (count first second : Nat) → Bool
  | 0, _, _ => true
  | count + 1, first, second =>
    match text[first]?, text[second]? with
    | some a, some b =>
      (match folding with
        | .exact => a == b
        | .ascii => lowerAscii a == lowerAscii b
        | .unicode => lowerChar a == lowerChar b)
        && sameText text folding count (first + 1) (second + 1)
    | _, _ => false

/-- Runs a tree on `text`: each constructor is a `Step`. -/
def Node.run (text : Array Char) : Node → Step
  | empty, s, k => k s
  | char test, s, k =>
    match text[s.pos]? with
    | some c => if test.holds c then k { s with pos := s.pos + 1 } else none
    | none => none
  | anchor a, s, k => if a.holds text s.pos then k s else none
  | again group folding _ _, s, k =>
    match s.group? group with
    | some (first, last) =>
      if sameText text folding (last - first) first s.pos then
        k { s with pos := s.pos + (last - first) }
      else none
    | none => none
  | seq a b, s, k => a.run text s fun s' => b.run text s' k
  | either a b, s, k =>
    match a.run text s k with
    | some r => some r
    | none => b.run text s k
  | capture group body, s, k =>
    body.run text s fun s' =>
      k { s' with groups := s'.groups.setIfInBounds group (some (s.pos, s'.pos)) }
  | atomic body, s, k =>
    match body.run text s some with
    | some s' => k s'
    | none => none
  | ahead negated body, s, k =>
    match body.run text s some with
    | some s' => if negated then none else k { s' with pos := s.pos }
    | none => if negated then k s else none
  | behind negated body, s, k =>
    let width := body.width.1
    let found :=
      if s.pos < width then none else body.run text { s with pos := s.pos - width } some
    match found with
    | some s' => if negated then none else k { s' with pos := s.pos }
    | none => if negated then k s else none
  | ifGroup group yes no, s, k =>
    if (s.group? group).isSome then yes.run text s k else no.run text s k
  | many style least most (char test), s, k => repeatChar text test.holds style least most s k
  | many style least most body, s, k => repeatBody text (body.run text) style least most s k

/-! ## Search -/

/-- The set that every match begins with, where the tree begins with a set. -/
def Node.openingSet? : Node → Option CharTest
  | char (.set items negated folding ascii) => some (.set items negated folding ascii)
  | seq empty b => b.openingSet?
  | seq a _ => a.openingSet?
  | capture _ body => body.openingSet?
  | _ => none

/-- The letter of the number `code` has two cases. -/
def hasCase (folding : Folding) (code : Nat) : Bool :=
  if code.isValidChar then
    let c := Char.ofNat code
    match folding with
    | .exact => false
    | .ascii => isAsciiLetter c
    | .unicode => lowerChar c != c || upperChar c != c
  else false

/-- Case makes a difference to the member. -/
def SetItem.hasCase (folding : Folding) : SetItem → Bool
  | single code => Pattern.hasCase folding code
  | range first last =>
    tableEnd ≤ last
      || (List.range (last + 1 - first)).any fun i => Pattern.hasCase folding (first + i)
  | category _ _ => false

/-- A match of `node` may begin with the character `c`.  A set that the tree begins with is asked
    in advance, and then its classes are narrowed or not as in the pattern as a whole (`ascii`),
    whatever the switches of the group it stands in.  Sets of letters that are compared without
    regard to case are not asked. -/
def Node.mayBegin (node : Node) (ascii : Bool) (c : Char) : Bool :=
  match node.openingSet? with
  | some (.set items negated folding narrowed) =>
    narrowed == ascii || (folding != .exact && items.any (·.hasCase folding))
      || (CharTest.set items negated .exact ascii).holds c
  | _ => true

/-- Tries the starts from `start` on, `left` of them. -/
def searchFrom (text : Array Char) (node : Node) (ascii : Bool) (groups : Nat) :
    (left : Nat) → (start : Nat) → Bool
  | 0, _ => false
  | left + 1, start =>
    (text[start]?.all (node.mayBegin ascii)
        && (node.run text ⟨start, Array.replicate groups none⟩ some).isSome)
      || searchFrom text node ascii groups left (start + 1)

/-- Some part of `text` matches `node`; `ascii` says how the pattern as a whole takes its classes,
    and `groups` counts the groups and the whole. -/
def search (node : Node) (ascii : Bool) (groups : Nat) (text : String) : Bool :=
  let cs := text.toList.toArray
  searchFrom cs node ascii groups (cs.size + 1) 0

end Rulebook.Pattern
