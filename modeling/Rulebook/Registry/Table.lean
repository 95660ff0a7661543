/-
  Tables that keep the order in which keys arrive.

  1. `Table`: rows of a key and what is stored under it;
  2. `keys`, `put`, `erase`: a known key keeps its place, a new one goes to the end.
-/

namespace Rulebook

/-- Rows of a key and what is stored under it, in the order in which the keys arrived. -/
abbrev Table (α : Type) := List (String × α)

namespace Table

variable {α : Type}

/-- The keys of `t`, in their order. -/
def keys (t : Table α) : List String := t.map (·.1)

/-- Stores `a` under `key`: in place of what is there, or at the end. -/
def put (key : String) (a : α) : Table α → Table α
  | [] => [(key, a)]
  | row :: rows => if row.1 = key then (key, a) :: rows else row :: put key a rows

/-- Removes `key` from `t`, with what is stored under it. -/
def erase (t : Table α) (key : String) : Table α := t.filter (·.1 != key)

/-! ## Laws -/

/-- Under `put` a known `key` stays where it is, and a new one goes to the end. -/
theorem keys_put (key : String) (a : α) (t : Table α) :
    keys (put key a t) = if key ∈ keys t then keys t else keys t ++ [key] := by
  unfold keys
  induction t with
  | nil => simp [put]
  | cons row rows ih =>
    by_cases h : row.1 = key
    · simp [put, h]
    · have hne : key ≠ row.1 := fun he => h he.symm
      simp only [put, h, if_false, List.map_cons, ih, List.mem_cons, hne, false_or]
      split <;> rfl

/-- Under `erase` the other keys stay, in their order. -/
theorem keys_erase (t : Table α) (key : String) :
    keys (erase t key) = (keys t).filter (· != key) := by
  unfold keys erase
  rw [List.filter_map]
  rfl

end Table

end Rulebook
