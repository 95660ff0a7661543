/-
  Search patterns: the tree that a pattern text stands for.

  1. `Flags`: the switches of a pattern, and the number that sums them up;
  2. `CharTest`: what one character may be, with or without regard to case;
  3. `Node`: the tree; switches are already worked into its leaves;
  4. `Node.width`: the least and greatest length of what a tree matches, within a range.
-/

namespace Rulebook.Pattern

/-! ## Switches -/

/-- The switches of a pattern; those named by the letters `t i L m s u x a`, in this order. -/
structure Flags where
  template : Bool := false
  ignoreCase : Bool := false
  locale : Bool := false
  multiline : Bool := false
  dotAll : Bool := false
  unicode : Bool := false
  verbose : Bool := false
  ascii : Bool := false
deriving DecidableEq, Repr

namespace Flags

/-- The switches that are on in `a` or in `b`. -/
def union (a b : Flags) : Flags where
  template := a.template || b.template
  ignoreCase := a.ignoreCase || b.ignoreCase
  locale := a.locale || b.locale
  multiline := a.multiline || b.multiline
  dotAll := a.dotAll || b.dotAll
  unicode := a.unicode || b.unicode
  verbose := a.verbose || b.verbose
  ascii := a.ascii || b.ascii

/-- The switches of `a` that `b` lacks. -/
def without (a b : Flags) : Flags where
  template := a.template && !b.template
  ignoreCase := a.ignoreCase && !b.ignoreCase
  locale := a.locale && !b.locale
  multiline := a.multiline && !b.multiline
  dotAll := a.dotAll && !b.dotAll
  unicode := a.unicode && !b.unicode
  verbose := a.verbose && !b.verbose
  ascii := a.ascii && !b.ascii

/-- The switches common to `a` and `b`. -/
def common (a b : Flags) : Flags := a.without (a.without b)

/-- The switches that choose a character set; of these `kinds` only one may be on. -/
def kinds : Flags := { unicode := true, locale := true, ascii := true }

/-- The switch `template`, which can only be set for a whole pattern. -/
def whole : Flags := { template := true }

/-- Is any switch of `a` on? -/
def any (a : Flags) : Bool := a != {}

/-- The switches in force inside a group that adds the `added` ones to `outer` and drops the
    `dropped` ones; a new character set replaces the old one. -/
def inside (outer added dropped : Flags) : Flags :=
  let base := if (added.common kinds).any then outer.without kinds else outer
  (base.union added).without dropped

/-- The switch that a letter names. -/
def ofLetter? : Char → Option Flags
  | 't' => some { template := true }
  | 'i' => some { ignoreCase := true }
  | 'L' => some { locale := true }
  | 'm' => some { multiline := true }
  | 's' => some { dotAll := true }
  | 'u' => some { unicode := true }
  | 'x' => some { verbose := true }
  | 'a' => some { ascii := true }
  | _ => none

/-- The sum of the weights of the switches that are on in `f`. -/
def number (f : Flags) : Nat :=
  f.template.toNat + 2 * f.ignoreCase.toNat + 4 * f.locale.toNat + 8 * f.multiline.toNat
    + 16 * f.dotAll.toNat + 32 * f.unicode.toNat + 64 * f.verbose.toNat + 256 * f.ascii.toNat

end Flags

/-! ## Characters -/

/-- The classes that have a letter: `\d`, `\s` and `\w`. -/
inductive Category
  | digit
  | blank
  | word
deriving DecidableEq, Repr

/-- How letters are compared: as they are, or without regard to case, among `ascii` letters alone
    or among all. -/
inductive Folding
  | exact
  | ascii
  | unicode
deriving DecidableEq, Repr

/-- A member of a bracketed set; single characters are given by their `code`, for a pattern can
    name numbers that no text holds. -/
inductive SetItem
  | single (code : Nat)
  | range (first last : Nat)
  | category (c : Category) (negated : Bool)
deriving DecidableEq, Repr

/-- What one character may be, where `negated` turns the answer round. -/
inductive CharTest
  /-- Any character; the line feed only if `lineFeed`. -/
  | any (lineFeed : Bool)
  /-- The character `code`, or any but it. -/
  | literal (code : Nat) (negated : Bool) (folding : Folding)
  /-- A member of the set of `items`, or any non-member; `ascii` narrows the classes. -/
  | set (items : List SetItem) (negated : Bool) (folding : Folding) (ascii : Bool)
deriving DecidableEq, Repr

/-! ## The tree -/

/-- Conditions on a position; `lastLineEnd` is also before a line feed at the very end. -/
inductive Anchor
  | textStart
  | lineStart
  | textEnd
  | lineEnd
  | lastLineEnd
  | boundary (inside : Bool) (ascii : Bool)
deriving DecidableEq, Repr

/-- How a repetition chooses its count: as great as possible, as small as possible, or as great as
    possible and for good. -/
inductive Style
  | greedy
  | lazy
  | possessive
deriving DecidableEq, Repr

/-- The tree of a pattern, with the `Folding` of its scope in every leaf. -/
inductive Node
  | empty
  | char (test : CharTest)
  | anchor (a : Anchor)
  /-- The text of `group` again; the widths are those of the group. -/
  | again (group : Nat) (folding : Folding) (low high : Nat)
  | seq (first second : Node)
  | either (first second : Node)
  | capture (group : Nat) (body : Node)
  | atomic (body : Node)
  | ahead (negated : Bool) (body : Node)
  | behind (negated : Bool) (body : Node)
  /-- The tree `yes` if `group` has matched, else `no`. -/
  | ifGroup (group : Nat) (yes no : Node)
  /-- The `body` so many times: `least` at least, and `most` at most, or without bound if there is
      no `most`. -/
  | many (style : Style) (least : Nat) (most : Option Nat) (body : Node)
deriving Repr

namespace Node

/-- The tree of a sequence, nested to the right. -/
def ofList : List Node → Node
  | [] => empty
  | [n] => n
  | n :: ns => seq n (ofList ns)

/-- Lengths from `lengthLimit` on are out of range. -/
def lengthLimit : Nat := 4294967295

/-- The lengths `low` and `high`, kept within `lengthLimit`.  Out of range, the least length stays
    below the greatest. -/
def capped (low high : Nat) : Nat × Nat := (min low (lengthLimit - 1), min high lengthLimit)

/-- The least and the greatest length of what a tree matches. -/
def width : Node → Nat × Nat
  | empty => (0, 0)
  | char _ => (1, 1)
  | anchor _ => (0, 0)
  | again _ _ low high => (low, high)
  | seq a b =>
    let (la, ha) := a.width
    let (lb, hb) := b.width
    capped (la + lb) (ha + hb)
  | either a b =>
    let (la, ha) := a.width
    let (lb, hb) := b.width
    (min la lb, max ha hb)
  | capture _ body => body.width
  | atomic body => body.width
  | ahead _ _ => (0, 0)
  | behind _ _ => (0, 0)
  | ifGroup _ yes no =>
    let (la, ha) := yes.width
    let (lb, hb) := no.width
    (min la lb, max ha hb)
  | many _ least most body =>
    let (low, high) := body.width
    capped (low * least) (high * most.getD lengthLimit)

end Node

end Rulebook.Pattern
