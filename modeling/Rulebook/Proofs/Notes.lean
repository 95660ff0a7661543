/-
  Problems that are noted under keys.

  A note takes the place of an earlier one of the same key, or it comes last:

      … (k, m) …        with a problem of `k` noted      … (k, message) …
      no row of `k`     with a problem of `k` noted      … and (k, message) last

  1. `note_cases`: the two ways;
  2. `mem_note_text_iff`, `mem_note_new`, `mem_note_old`, `mem_note_of_other`: what is there behind
     a note, all from 1;
  3. `Noted`: a problem is noted under a text;
  4. `note_of_runs`, `mem_errors_of_runs`: a key that has a note keeps one through a run, and it
     keeps the same unless an entry of the run has the key.
-/
import Rulebook.Proofs.Loading

namespace Rulebook.Registry

variable {table : TypeTable} {r r' : Registry} {entry k : Value} {entries : List Value}
  {m : String} {notes : List (Value × String)}

/-! ## One note -/

theorem sameKey_text (s t : String) : sameKey (.text s) (.text t) = (s == t) := rfl

theorem sameKey_text_iff {a b : Value} (h : sameKey a b = true) (s : String) :
    a = .text s ↔ b = .text s := by
  cases a <;> cases b <;> simp [sameKey, Value.same, Value.place?] at h ⊢
  rw [h]

/-- **A note** under `key` comes behind rows of other keys, or in place of the first row of its
    key. -/
theorem note_cases (key : Value) (message : String) (notes : List (Value × String)) :
    note key message notes = notes ++ [(key, message)] ∨
      ∃ front k m back, notes = front ++ (k, m) :: back ∧ sameKey k key = true ∧
        note key message notes = front ++ (k, message) :: back := by
  induction notes with
  | nil => exact .inl rfl
  | cons row rest ih =>
    obtain ⟨k, m⟩ := row
    unfold note
    by_cases hsame : sameKey k key = true
    · rw [if_pos hsame]
      exact .inr ⟨[], k, m, rest, rfl, hsame, rfl⟩
    · rw [if_neg hsame]
      rcases ih with hlast | ⟨front, k', m', back, rfl, hsame', hplace⟩
      · exact .inl (by rw [hlast]; rfl)
      · exact .inr ⟨(k, m) :: front, k', m', back, rfl, hsame', by rw [hplace]; rfl⟩

/-- The key of a `note` is there behind it, be it that of an earlier one. -/
theorem mem_note_new (key : Value) (message : String) (notes : List (Value × String)) :
    ∃ k, (k = key ∨ sameKey k key = true) ∧ (k, message) ∈ note key message notes := by
  rcases note_cases key message notes with hlast | ⟨front, k, m, back, -, hsame, hplace⟩
  · rw [hlast]
    exact ⟨key, .inl rfl, List.mem_append_right _ (List.mem_singleton_self _)⟩
  · rw [hplace]
    exact ⟨k, .inr hsame, List.mem_append_right _ (List.mem_cons_self ..)⟩

/-- A key `k` that has a note keeps one when another `note` is made. -/
theorem mem_note_old (key : Value) (message : String) (h : (k, m) ∈ notes) :
    ∃ m', (k, m') ∈ note key message notes := by
  rcases note_cases key message notes with hlast | ⟨front, k', m', back, rfl, -, hplace⟩
  · rw [hlast]
    exact ⟨m, List.mem_append_left _ h⟩
  · rw [hplace]
    rcases List.mem_append.1 h with hfront | hback
    · exact ⟨m, List.mem_append_left _ hfront⟩
    · rcases List.mem_cons.1 hback with hrow | hback
      · obtain ⟨rfl, -⟩ := Prod.mk.inj hrow
        exact ⟨message, List.mem_append_right _ (List.mem_cons_self ..)⟩
      · exact ⟨m, List.mem_append_right _ (List.mem_cons_of_mem _ hback)⟩

/-- A `note` under another key leaves a row as it is. -/
theorem mem_note_of_other {key : Value} {message : String} (h : (k, m) ∈ notes)
    (hother : sameKey k key = false) : (k, m) ∈ note key message notes := by
  rcases note_cases key message notes with hlast | ⟨front, k', m', back, rfl, hsame, hplace⟩
  · rw [hlast]
    exact List.mem_append_left _ h
  · rw [hplace]
    rcases List.mem_append.1 h with hfront | hback
    · exact List.mem_append_left _ hfront
    · rcases List.mem_cons.1 hback with hrow | hback
      · -- the row that gives way is not this one
        obtain ⟨rfl, rfl⟩ := Prod.mk.inj hrow
        cases hother.symm.trans hsame
      · exact List.mem_append_right _ (List.mem_cons_of_mem _ hback)

/-- A `note` under `k` adds `k` to the texts that have one. -/
theorem mem_note_text_iff {key : String} {message : String} :
    (∃ m, (.text key, m) ∈ note k message notes) ↔
      k = .text key ∨ ∃ m, (.text key, m) ∈ notes := by
  constructor
  · rintro ⟨m, hm⟩
    rcases note_cases k message notes with hlast | ⟨front, k', m', back, rfl, hsame, hplace⟩
    · rw [hlast] at hm
      rcases List.mem_append.1 hm with hold | hnew
      · exact .inr ⟨m, hold⟩
      · exact .inl (Prod.mk.inj (List.mem_singleton.1 hnew)).1.symm
    · rw [hplace] at hm
      rcases List.mem_append.1 hm with hfront | hback
      · exact .inr ⟨m, List.mem_append_left _ hfront⟩
      · rcases List.mem_cons.1 hback with hrow | hback
        · exact .inl ((sameKey_text_iff hsame key).1 (Prod.mk.inj hrow).1.symm)
        · exact .inr ⟨m, List.mem_append_right _ (List.mem_cons_of_mem _ hback)⟩
  · rintro (rfl | ⟨m, hm⟩)
    · obtain ⟨k', hk', hmem⟩ := mem_note_new (.text key) message notes
      have hkey : k' = .text key := hk'.elim id fun hsame => (sameKey_text_iff hsame key).2 rfl
      exact ⟨message, hkey ▸ hmem⟩
    · exact mem_note_old k message hm

/-! ## Texts with a note -/

/-- A problem is noted under `key`. -/
def Noted (r : Registry) (key : String) : Prop := ∃ message, (.text key, message) ∈ r.errors

theorem noted_iff {key : String} :
    Noted r key ↔ (r.errors.any fun row => sameKey row.1 (.text key)) = true := by
  rw [List.any_eq_true]
  constructor
  · rintro ⟨message, hmem⟩
    exact ⟨(.text key, message), hmem, by simp [sameKey_text]⟩
  · rintro ⟨⟨k, message⟩, hmem, hsame⟩
    obtain rfl := (sameKey_text_iff hsame key).2 rfl
    exact ⟨message, hmem⟩

instance {key : String} : Decidable (Noted r key) := decidable_of_iff _ noted_iff.symm

/-! ## Runs -/

theorem note_of_treats (h : Treats table r entry r') (hmem : ∃ m, (k, m) ∈ r.errors) :
    ∃ m, (k, m) ∈ r'.errors := by
  cases h with
  | incomplete => exact hmem
  | held => exact hmem
  | stored => exact hmem
  | noted _ _ _ _ hreject =>
    obtain ⟨-, ⟨-, rfl⟩ | ⟨-, rfl⟩⟩ := reject_cases hreject
    · exact hmem
    · obtain ⟨m, hm⟩ := hmem
      exact mem_note_old _ _ hm

theorem mem_errors_of_treats (h : Treats table r entry r') (hmem : (k, m) ∈ r.errors)
    (hother : ∀ key, keyOfEntry? entry = some key → sameKey k key = false) :
    (k, m) ∈ r'.errors := by
  cases h with
  | incomplete => exact hmem
  | held => exact hmem
  | stored => exact hmem
  | noted hentry _ _ _ hreject =>
    obtain ⟨-, ⟨-, rfl⟩ | ⟨-, rfl⟩⟩ := reject_cases hreject
    · exact hmem
    · exact mem_note_of_other hmem (hother _ hentry)

/-- It keeps the same one, `m`, unless the key comes again (`hother`). -/
theorem mem_errors_of_runs (h : Runs table r entries r') (hmem : (k, m) ∈ r.errors)
    (hother : ∀ key ∈ entries.filterMap keyOfEntry?, sameKey k key = false) :
    (k, m) ∈ r'.errors := by
  refine Runs.preserves (P := fun s => (k, m) ∈ s.errors) ?_ h hmem
  intro s entry s' hentry htreats hs
  refine mem_errors_of_treats htreats hs ?_
  intro key hkey
  exact hother key (List.mem_filterMap.2 ⟨entry, hentry, hkey⟩)

end Rulebook.Registry
