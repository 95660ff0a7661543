/-
  Patterns: a text together with the tree it stands for.

  1. `Pattern`: the body as written, its switches and its tree;
  2. `compile`: the pattern of a text, or why there is none;
  3. `matchesSomewhere`: does it match a part of a text?
  4. `shown`: the pattern as values are shown in messages.
-/
import Rulebook.Pattern.Parse
import Rulebook.Pattern.Match

namespace Rulebook

open Rulebook.Text

/-- A pattern.  The `node` is determined by the `body`, so two patterns with one body are equal. -/
structure Pattern where
  body : String
  flags : Pattern.Flags
  node : Pattern.Node
  groups : Nat
deriving Repr

namespace Pattern

/-! ## From text to pattern -/

/-- More than the grammar ever goes down in a text of the given `length`. -/
def depthBound (length : Nat) : Nat := 4 * length + 8

/-- Reads the whole of `body`.  A pattern of both character sets is refused before a parenthesis
    left over, that before a condition on a group that does not exist, and that before what only
    the tree shows. -/
def compile (body : String) : Except Fault Pattern := do
  let text := body.toList.toArray
  let cursor ← Cursor.lookAt text 0
  let start : Progress := ⟨cursor, {}, #[none], [], none, []⟩
  let (node, s) ← (readAlternatives (depthBound text.size) ⟨{}, false, false⟩ true).run start
  if s.flags.ascii && s.flags.unicode then throw .asciiAndUnicode
  if s.cursor.next.isSome then throw (.error ⟨.unbalanced, some s.cursor.position⟩)
  match s.conditions.find? (fun c => s.widths.size ≤ c.1) with
  | some (group, place) => throw (.error ⟨.invalidGroup group, some place⟩)
  | none => pure ()
  match node.fault? s.flags.template with
  | some complaint => throw (.error ⟨complaint, none⟩)
  | none => pure ()
  let flags := if s.flags.ascii then s.flags else { s.flags with unicode := true }
  return ⟨body, flags, node, s.widths.size⟩

/-- Some part of `text` matches the pattern `p`. -/
def matchesSomewhere (p : Pattern) (text : String) : Bool :=
  search p.node p.flags.ascii p.groups text

/-! ## Comparison and display -/

/-- The patterns `a` and `b` are compared by their bodies. -/
def same (a b : Pattern) : Bool := a.body == b.body

/-- The names of the switches that are on in `f`; the character set is named only if it is ASCII. -/
def switchNames (f : Flags) : List String :=
  [(f.template, "re.TEMPLATE"), (f.ignoreCase, "re.IGNORECASE"), (f.locale, "re.LOCALE"),
    (f.multiline, "re.MULTILINE"), (f.dotAll, "re.DOTALL"), (f.verbose, "re.VERBOSE"),
    (f.ascii, "re.ASCII")].filterMap fun (on, name) => if on then some name else none

/-- The pattern `p` in messages: its body in quotes, cut after 200 characters, and its switches. -/
def shown (p : Pattern) : String :=
  let body := String.ofList ((quoted p.body).toList.take 200)
  match switchNames p.flags with
  | [] => "re.compile(" ++ body ++ ")"
  | names => "re.compile(" ++ body ++ ", " ++ "|".intercalate names ++ ")"

end Pattern

end Rulebook
