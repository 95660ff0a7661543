/-
  Cutting texts at a separator.

  1. `splitOn`: the parts between the occurrences of a character;
  2. `cut`: what stands before and behind the first occurrence;
  3. `splitOnPair`: the parts between the occurrences of a character written twice, found from
     left to right;
  4. `join`: parts put together again with a separator between them.
-/

namespace Rulebook.Text

/-! ## One character -/

/-- The parts between the occurrences of the character `sep`; never an empty list. -/
def splitOn (sep : Char) : List Char → List (List Char)
  | [] => [[]]
  | c :: cs =>
    if c = sep then [] :: splitOn sep cs
    else
      match splitOn sep cs with
      | [] => [[c]]
      | part :: parts => (c :: part) :: parts

/-- What stands before the first occurrence of `sep`, and what stands behind it if there is one. -/
def cut (sep : Char) : List Char → List Char × Option (List Char)
  | [] => ([], none)
  | c :: cs =>
    if c = sep then ([], some cs)
    else
      let (before, behind) := cut sep cs
      (c :: before, behind)

/-! ## A pair -/

/-- The parts between the occurrences of `sep` written twice.  Of three in a row the first two
    separate. -/
def splitOnPair (sep : Char) : List Char → List (List Char)
  | [] => [[]]
  | [c] => [[c]]
  | c :: d :: cs =>
    if c = sep ∧ d = sep then [] :: splitOnPair sep cs
    else
      match splitOnPair sep (d :: cs) with
      | [] => [[c]]
      | part :: parts => (c :: part) :: parts

/-! ## Joining -/

/-- The parts with `sep` between each two of them. -/
def join (sep : List Char) : List (List Char) → List Char
  | [] => []
  | [part] => part
  | part :: parts => part ++ sep ++ join sep parts

end Rulebook.Text
