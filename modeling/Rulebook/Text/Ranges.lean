/-
  Sets of code points, as the standard's tables give them.

  A property of characters is stored as the ascending list of the points where it changes:
  the first entry is the first member, the second the first non-member after it, and so on.

  1. `flipsUpTo`: how many changes lie at or below a point (binary search);
  2. `contains`: a point is a member exactly when that number is odd.
-/

namespace Rulebook.Text

/-- A set of code points, given by the ascending points (`flips`) at which membership changes. -/
structure Ranges where
  flips : Array Nat

namespace Ranges

/-! ## Membership -/

/-- The number of entries of `flips` in the window `[lo, hi)` side that are at most `c`,
    counted from the left end: the window always holds the first entry above `c`. -/
def search (flips : Array Nat) (c lo hi : Nat) : Nat :=
  if lo < hi then
    let mid := (lo + hi) / 2
    if flips.getD mid 0 ≤ c then search flips c (mid + 1) hi else search flips c lo mid
  else lo
termination_by hi - lo

/-- How many changes of `s` lie at or below the code point `c`. -/
def flipsUpTo (s : Ranges) (c : Nat) : Nat := search s.flips c 0 s.flips.size

/-- The character `c` is a member of `s` when an odd number of changes lies at or below it. -/
def contains (s : Ranges) (c : Char) : Bool := s.flipsUpTo c.toNat % 2 == 1

/-- The same as `contains`, but for a character below 128 the test `ascii` decides without the
    table. -/
def containsOr (s : Ranges) (ascii : Char → Bool) (c : Char) : Bool :=
  if c.toNat < 128 then ascii c else s.contains c

end Ranges

end Rulebook.Text
