/-
  Rule texts and their tokens.

      rules   rule || rule || …          rule   name   or   name:argument

  1. `Token`: a name, and the text of its argument if it has one;
  2. `Token.read`: one segment of a rule text;
  3. `Token.parse`: the tokens of a rule text;
  4. `Token.render`: the rule text of tokens.
-/
import Rulebook.Fault
import Rulebook.Text.Format

namespace Rulebook

open Rulebook.Text

/-- A rule as it is written: its `name`, and its `argument` if it has one. -/
structure Token where
  name : String
  argument : Option String
deriving DecidableEq, Repr

namespace Token

/-! ## The grammar -/

/-- The `separator` stands, twice, between rules. -/
def separator : Char := '|'

/-- The `argumentMark` stands between a name and its argument. -/
def argumentMark : Char := ':'

/-- What passes for a name: the characters `cs` are ASCII letters, digits and underscores, one at
    least. -/
def isName (cs : List Char) : Bool := isAllOf isAsciiWord cs

/-! ## Reading -/

/-- The text of `cs`, if there is anything in it. -/
def nonEmpty? (cs : List Char) : Option String :=
  if cs.isEmpty then none else some (String.ofList cs)

/-- The token of one `segment`: the argument begins behind the first `argumentMark`, blanks around
    the name do not count, and an empty argument is none. -/
def readChars? (segment : List Char) : Option Token :=
  let (name, argument) := cut argumentMark segment
  let name := stripChars name
  if isName name then some ⟨String.ofList name, argument.bind nonEmpty?⟩ else none

/-- The tokens of segments by `readChars?`, or the first segment that has no proper name. -/
def readAll : List (List Char) → Except (List Char) (List Token)
  | [] => .ok []
  | segment :: segments =>
    match readChars? segment with
    | none => .error segment
    | some t =>
      match readAll segments with
      | .ok ts => .ok (t :: ts)
      | .error e => .error e

/-- The tokens of the text `rules`, in order; an empty text has none.  A segment without a proper
    name is to blame as a whole. -/
def parseText (rules : String) : Except Refusal (List Token) :=
  if rules.isEmpty then .ok []
  else
    match readAll (splitOnPair separator rules.toList) with
    | .ok ts => .ok ts
    | .error segment => .error ⟨some (String.ofList segment), .malformedName rules⟩

/-- The tokens of a rule text that may be missing: `none` has no tokens, like the empty text. -/
def parse : Option String → Except Refusal (List Token)
  | none => .ok []
  | some rules => parseText rules

/-! ## Writing -/

/-- The token `t` as a segment: its name, and behind an `argumentMark` its argument. -/
def segment (t : Token) : List Char :=
  match t.argument with
  | none => t.name.toList
  | some argument => t.name.toList ++ argumentMark :: argument.toList

/-- The rule text of the tokens `ts`, each one's `segment` and two of the `separator` between
    them. -/
def render (ts : List Token) : String :=
  String.ofList (join [separator, separator] (ts.map segment))

end Token

end Rulebook
