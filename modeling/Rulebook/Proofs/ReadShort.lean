/-
  What is read from a data text can be written.

  A whole number of more than 4300 digits is not read, so none of them gets into a value that is
  read, however deep; and these are the only things in a value that cannot be written.

  1. `holdsLong_list_iff`, `holdsLong_dict_iff`: where a long number can be;
  2. `readNumber?_short`, `readWord?_short`: the values that are read in one piece;
  3. `ReadsShort`, `reads_short`: values, items and entries, by induction on the depth left;
  4. `read_not_holdsLong`: whole texts.

  The three readers call one another with one less to go, so 3 takes them together.  What the
  readers of items and of entries have gathered so far is short by assumption.
-/
import Mathlib.Tactic.SplitIfs
import Rulebook.Json.Read
import Rulebook.Proofs.Writing

namespace Rulebook

open Rulebook.Text Rulebook.Number

namespace Value

/-! ## Where a long number can be -/

theorem holdsLong_list_iff {items : List Value} :
    (list items).HoldsLong ↔ ∃ v ∈ items, v.HoldsLong := by
  constructor
  · intro h
    cases h with
    | item hmem hlong => exact ⟨_, hmem, hlong⟩
  · rintro ⟨v, hmem, hlong⟩
    exact .item hmem hlong

theorem holdsLong_dict_iff {entries : List (Value × Value)} :
    (dict entries).HoldsLong ↔ ∃ p ∈ entries, p.1.HoldsLong ∨ p.2.HoldsLong := by
  constructor
  · intro h
    cases h with
    | key hmem hlong => exact ⟨_, hmem, .inl hlong⟩
    | entry hmem hlong => exact ⟨_, hmem, .inr hlong⟩
  · rintro ⟨⟨k, v⟩, hmem, hlong | hlong⟩
    · exact .key hmem hlong
    · exact .entry hmem hlong

theorem not_holdsLong_text (s : String) : ¬ (text s).HoldsLong := by
  intro h
  cases h

/-- Setting a key by `put` brings nothing in but the `key` and its `value`. -/
theorem holdsLong_of_put {entries : List (Value × Value)} {key value : Value}
    (h : (dict (put entries key value)).HoldsLong) :
    (dict entries).HoldsLong ∨ key.HoldsLong ∨ value.HoldsLong := by
  rw [holdsLong_dict_iff] at h
  rw [holdsLong_dict_iff]
  induction entries with
  | nil =>
    obtain ⟨p, hp, hlong⟩ := h
    obtain rfl := List.mem_singleton.1 hp
    exact .inr hlong
  | cons row rest ih =>
    obtain ⟨k, v⟩ := row
    obtain ⟨p, hp, hlong⟩ := h
    unfold put at hp
    split at hp
    · rcases List.mem_cons.1 hp with rfl | hp
      · rcases hlong with hlong | hlong
        · exact .inl ⟨(k, v), List.mem_cons_self .., .inl hlong⟩
        · exact .inr (.inr hlong)
      · exact .inl ⟨p, List.mem_cons_of_mem _ hp, hlong⟩
    · rcases List.mem_cons.1 hp with rfl | hp
      · exact .inl ⟨(k, v), List.mem_cons_self .., hlong⟩
      · rcases ih ⟨p, hp, hlong⟩ with ⟨q, hq, hlong⟩ | hnew
        · exact .inl ⟨q, List.mem_cons_of_mem _ hq, hlong⟩
        · exact .inr hnew

theorem mem_of_get? {entries : List (Value × Value)} {part : String} {v : Value}
    (h : get? entries part = some v) : ∃ k, (k, v) ∈ entries := by
  unfold get? at h
  obtain ⟨⟨k, w⟩, hfind, rfl⟩ := Option.map_eq_some_iff.1 h
  exact ⟨k, List.mem_of_find?_eq_some hfind⟩

end Value

namespace Json

variable {text : Array Char} {fuel pos stop : Nat} {v : Value}

/-! ## Values in one piece -/

/-- A whole number `n` is read from 4300 digits at most. -/
theorem not_holdsLong_of_ofDigits {negative : Bool} {digits : List Char} {n : Int}
    (h : Whole.ofDigits negative digits = .ok n) : ¬ (Value.int n).HoldsLong := by
  unfold Whole.ofDigits at h
  split at h
  · cases h
  · rename_i hshort
    obtain rfl := Except.ok.inj h
    have hlt : readNat digits < tenTo Whole.digitLimit :=
      Nat.lt_of_lt_of_le (readNat_lt digits) (tenTo_le (by omega))
    intro hlong
    cases hlong with
    | int hle => split at hle <;> omega

theorem readNumber?_short (h : readNumber? text pos = some (.ok (v, stop))) : ¬ v.HoldsLong := by
  unfold readNumber? at h
  extract_lets negative start run whole at h
  split at h
  · cases h
  · split at h
    · split at h
      · rename_i hdigits
        obtain ⟨rfl, -⟩ := Prod.mk.inj (Except.ok.inj (Option.some.inj h))
        exact not_holdsLong_of_ofDigits hdigits
      · cases Option.some.inj h
    · obtain ⟨rfl, -⟩ := Prod.mk.inj (Except.ok.inj (Option.some.inj h))
      intro hlong
      cases hlong

theorem readWord?_short (h : readWord? text pos = some (v, stop)) : ¬ v.HoldsLong := by
  unfold readWord? at h
  split_ifs at h
  all_goals
    obtain ⟨rfl, -⟩ := Prod.mk.inj (Option.some.inj h)
    intro hlong
    cases hlong

/-! ## The grammar -/

/-- With `fuel` to go, all three readers read values without a long number, if what they have
    gathered holds none. -/
structure ReadsShort (text : Array Char) (fuel : Nat) : Prop where
  value : ∀ {pos stop : Nat} {v : Value}, readValue text fuel pos = .ok (v, stop) → ¬ v.HoldsLong
  items : ∀ {pos stop : Nat} {v : Value} {sofar : List Value}, ¬ (Value.list sofar).HoldsLong →
    readItems text fuel pos sofar = .ok (v, stop) → ¬ v.HoldsLong
  entries : ∀ {pos stop : Nat} {v : Value} {sofar : List (Value × Value)},
    ¬ (Value.dict sofar).HoldsLong →
      readEntries text fuel pos sofar = .ok (v, stop) → ¬ v.HoldsLong

theorem not_holdsLong_nil : ¬ (Value.list []).HoldsLong ∧ ¬ (Value.dict []).HoldsLong := by
  rw [Value.holdsLong_list_iff, Value.holdsLong_dict_iff]
  simp

theorem readValue_short (ih : ReadsShort text fuel)
    (h : readValue text (fuel + 1) pos = .ok (v, stop)) : ¬ v.HoldsLong := by
  rw [readValue] at h
  split at h
  · dsimp only at h
    split at h
    · obtain ⟨rfl, -⟩ := Prod.mk.inj (Except.ok.inj h)
      exact not_holdsLong_nil.2
    · exact ih.entries not_holdsLong_nil.2 h
  · dsimp only at h
    split at h
    · obtain ⟨rfl, -⟩ := Prod.mk.inj (Except.ok.inj h)
      exact not_holdsLong_nil.1
    · exact ih.items not_holdsLong_nil.1 h
  · split at h
    · split at h
      · obtain ⟨rfl, -⟩ := Prod.mk.inj (Except.ok.inj h)
        exact Value.not_holdsLong_text _
      · cases h
    · split at h
      · rename_i hword
        obtain rfl := Except.ok.inj h
        exact readWord?_short hword
      · split at h
        · rename_i hnumber
          rw [h] at hnumber
          exact readNumber?_short hnumber
        · cases h
  · cases h

theorem readItems_short (ih : ReadsShort text fuel) {sofar : List Value}
    (hsofar : ¬ (Value.list sofar).HoldsLong)
    (h : readItems text (fuel + 1) pos sofar = .ok (v, stop)) : ¬ v.HoldsLong := by
  rw [readItems] at h
  split at h
  · cases h
  · rename_i item next hitem
    have hmore : ¬ (Value.list (item :: sofar)).HoldsLong := by
      rw [Value.holdsLong_list_iff] at hsofar ⊢
      simp only [List.mem_cons, exists_eq_or_imp, not_or]
      exact ⟨ih.value hitem, hsofar⟩
    dsimp only at h
    split at h
    · obtain ⟨rfl, -⟩ := Prod.mk.inj (Except.ok.inj h)
      rw [Value.holdsLong_list_iff] at hmore ⊢
      simpa only [List.mem_reverse] using hmore
    · split at h
      · exact ih.items hmore h
      · cases h

theorem readEntries_short (ih : ReadsShort text fuel) {sofar : List (Value × Value)}
    (hsofar : ¬ (Value.dict sofar).HoldsLong)
    (h : readEntries text (fuel + 1) pos sofar = .ok (v, stop)) : ¬ v.HoldsLong := by
  rw [readEntries] at h
  split at h
  · cases h
  · split at h
    · cases h
    · rename_i name _ _
      dsimp only at h
      split at h
      · cases h
      · split at h
        · cases h
        · rename_i value _ hvalue
          -- a name is a text, and the value comes from the reader of values
          have hmore : ¬ (Value.dict (Value.put sofar (.text name) value)).HoldsLong := by
            intro hlong
            rcases Value.holdsLong_of_put hlong with hold | hname | hnew
            · exact hsofar hold
            · exact Value.not_holdsLong_text _ hname
            · exact ih.value hvalue hnew
          split at h
          · obtain ⟨rfl, -⟩ := Prod.mk.inj (Except.ok.inj h)
            exact hmore
          · split at h
            · exact ih.entries hmore h
            · cases h

theorem reads_short (text : Array Char) (fuel : Nat) : ReadsShort text fuel := by
  induction fuel with
  | zero =>
    refine ⟨?_, ?_, ?_⟩
    · intro pos stop v h
      cases h
    · intro pos stop v sofar _ h
      cases h
    · intro pos stop v sofar _ h
      cases h
  | succ fuel ih =>
    exact ⟨readValue_short ih, fun h => readItems_short ih h, fun h => readEntries_short ih h⟩

/-- **What is read can be written**: no number in the value `v` of a data text is too long. -/
theorem read_not_holdsLong {cs : List Char} (h : read cs = .ok v) : ¬ v.HoldsLong := by
  unfold read at h
  dsimp only at h
  split at h
  · cases h
  · split at h
    · cases h
    · rename_i hvalue
      split at h
      · obtain rfl := Except.ok.inj h
        exact (reads_short _ _).value hvalue
      · cases h

end Json

end Rulebook
