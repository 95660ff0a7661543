/-
  What can be written, and what cannot.

  A whole number of more than 4300 digits has no text.  So a value has none exactly if such a
  number is somewhere in it, however deep; and since an argument has 100 digits at most, whatever
  a rule takes from its argument can be written.

  1. `readNat_lt`: a run of digits stands for a number of no more digits;
  2. `Whole.text_isError_iff`: the numbers without a text;
  3. `HoldsLong`, `asText_isError_iff`: the values without a text;
  4. `IsArgument`, `read_isArgument`: what arguments are read as, and that it can be written.

  The crux is 3.  Lists and objects are shown item by item, so each gets its lemma on the item
  that stops it, and the induction on the value then only follows the items.
-/
import Rulebook.Rule.Argument

namespace Rulebook

open Rulebook.Text Rulebook.Number

/-! ## Numbers -/

/-- A run of digits `cs`, read behind others that make `n`: each digit makes ten times as many
    numbers. -/
theorem foldl_digits_lt (cs : List Char) (n : Nat) :
    cs.foldl (fun n c => n * 10 + (digitValue? c).getD 0) n < (n + 1) * tenTo cs.length := by
  induction cs generalizing n with
  | nil => simp
  | cons c cs ih =>
    have hdigit : (digitValue? c).getD 0 < 10 := by
      cases hd : digitValue? c with
      | none => decide
      | some d => exact digitValue?_lt hd
    rw [List.foldl_cons, List.length_cons, Nat.add_comm cs.length 1, tenTo_add]
    have hstep : n * 10 + (digitValue? c).getD 0 + 1 ≤ (n + 1) * 10 := by omega
    calc
      _ < (n * 10 + (digitValue? c).getD 0 + 1) * tenTo cs.length := ih _
      _ ≤ (n + 1) * 10 * tenTo cs.length := Nat.mul_le_mul_right _ hstep
      _ = (n + 1) * (tenTo 1 * tenTo cs.length) := by rw [Nat.mul_assoc]; rfl

theorem readNat_lt (cs : List Char) : readNat cs < tenTo cs.length := by
  have h := foldl_digits_lt cs 0
  rwa [Nat.zero_add, Nat.one_mul] at h

theorem tenTo_le {m n : Nat} (h : m ≤ n) : tenTo m ≤ tenTo n := Nat.pow_le_pow_right (by decide) h

theorem Number.Whole.text_isError_iff {n : Int} :
    (∃ e, Whole.text n = .error e) ↔ tenTo Whole.digitLimit ≤ n.natAbs := by
  unfold Whole.text
  by_cases h : tenTo Whole.digitLimit ≤ n.natAbs
  · simp [h]
  · simp [h]

theorem Number.Whole.ofDigits_isError_iff {negative : Bool} {digits : List Char} :
    (∃ e, Whole.ofDigits negative digits = .error e) ↔ Whole.digitLimit < digits.length := by
  unfold Whole.ofDigits
  by_cases h : Whole.digitLimit < digits.length
  · simp [h]
  · simp [h]

namespace Value

/-! ## Values -/

/-- A whole number of more than 4300 digits is somewhere in the value. -/
inductive HoldsLong : Value → Prop
  | int {n : Int} : tenTo Whole.digitLimit ≤ n.natAbs → HoldsLong (.int n)
  | item {items : List Value} {v : Value} : v ∈ items → HoldsLong v → HoldsLong (.list items)
  | key {entries : List (Value × Value)} {k v : Value} :
    (k, v) ∈ entries → HoldsLong k → HoldsLong (.dict entries)
  | entry {entries : List (Value × Value)} {k v : Value} :
    (k, v) ∈ entries → HoldsLong v → HoldsLong (.dict entries)

theorem shownItems_isError_iff {items : List Value} :
    (∃ e, shownItems items = .error e) ↔ ∃ v ∈ items, ∃ e, v.shown = .error e := by
  induction items with
  | nil => simp [shownItems]
  | cons v items ih =>
    simp only [List.mem_cons, exists_eq_or_imp]
    rw [← ih]
    rw [shownItems]
    cases hv : v.shown <;> cases hi : shownItems items <;> simp

theorem shownEntries_isError_iff {entries : List (Value × Value)} :
    (∃ e, shownEntries entries = .error e) ↔
      ∃ p ∈ entries, (∃ e, p.1.shown = .error e) ∨ (∃ e, p.2.shown = .error e) := by
  induction entries with
  | nil => simp [shownEntries]
  | cons p entries ih =>
    simp only [List.mem_cons, exists_eq_or_imp]
    rw [← ih]
    obtain ⟨k, v⟩ := p
    rw [shownEntries]
    cases hk : k.shown <;> cases hv : v.shown <;> cases he : shownEntries entries <;> simp

theorem shown_list_isError_iff {items : List Value} :
    (∃ e, (Value.list items).shown = .error e) ↔ ∃ e, shownItems items = .error e := by
  rw [shown]
  cases shownItems items <;> simp

theorem shown_dict_isError_iff {entries : List (Value × Value)} :
    (∃ e, (Value.dict entries).shown = .error e) ↔ ∃ e, shownEntries entries = .error e := by
  rw [shown]
  cases shownEntries entries <;> simp

theorem shown_int_isError_iff {n : Int} :
    (∃ e, (Value.int n).shown = .error e) ↔ tenTo Whole.digitLimit ≤ n.natAbs := by
  rw [shown]
  exact Whole.text_isError_iff

/-- A value `v` that cannot be `shown` holds a long number: one of its items cannot be shown. -/
theorem holdsLong_of_shown (v : Value) (h : ∃ e, v.shown = .error e) : HoldsLong v := by
  -- on the size of the value: an item may be one half of an entry, and no direct part of it
  induction hsize : sizeOf v using Nat.strongRecOn generalizing v with
  | _ size ih =>
    cases v with
    | null => simp [shown] at h
    | bool b => cases b <;> simp [shown] at h
    | float _ => simp [shown] at h
    | text _ => simp [shown] at h
    | pattern _ => simp [shown] at h
    | int n => exact .int (shown_int_isError_iff.1 h)
    | list items =>
      obtain ⟨w, hw, he⟩ := shownItems_isError_iff.1 (shown_list_isError_iff.1 h)
      have hlt := List.sizeOf_lt_of_mem hw
      rw [list.sizeOf_spec] at hsize
      exact .item hw (ih _ (by omega) w he rfl)
    | dict entries =>
      obtain ⟨⟨k, w⟩, hp, he⟩ := shownEntries_isError_iff.1 (shown_dict_isError_iff.1 h)
      have hlt := List.sizeOf_lt_of_mem hp
      rw [dict.sizeOf_spec] at hsize
      rw [Prod.mk.sizeOf_spec] at hlt
      rcases he with he | he
      · exact .key hp (ih _ (by omega) k he rfl)
      · exact .entry hp (ih _ (by omega) w he rfl)

theorem shown_isError_iff {v : Value} : (∃ e, v.shown = .error e) ↔ HoldsLong v := by
  constructor
  · exact holdsLong_of_shown v
  · intro h
    induction h with
    | int hn => exact shown_int_isError_iff.2 hn
    | item hv _ ih => exact shown_list_isError_iff.2 (shownItems_isError_iff.2 ⟨_, hv, ih⟩)
    | key hp _ ih => exact shown_dict_isError_iff.2 (shownEntries_isError_iff.2 ⟨_, hp, .inl ih⟩)
    | entry hp _ ih => exact shown_dict_isError_iff.2 (shownEntries_isError_iff.2 ⟨_, hp, .inr ih⟩)

/-- **The values without a text** are those that hold a long number: `asText` fails exactly if
    `HoldsLong v`. -/
theorem asText_isError_iff {v : Value} : (∃ e, v.asText = .error e) ↔ HoldsLong v := by
  rw [← shown_isError_iff]
  cases v with
  | text s => simp [asText, shown]
  | _ => rfl

/-! ## Arguments -/

/-- What the text of an argument can stand for: a flag, a text, a pattern, or a whole number of at
    most as many digits as are read. -/
inductive IsArgument : Value → Prop
  | int {n : Int} : n.natAbs < tenTo Argument.digitLimit → IsArgument (.int n)
  | bool (b : Bool) : IsArgument (.bool b)
  | pattern (p : Pattern) : IsArgument (.pattern p)
  | text (s : String) : IsArgument (.text s)

/-- A number `n` of at most 100 digits is none of more than 4300. -/
theorem lt_digitLimit {n : Nat} (h : n < tenTo Argument.digitLimit) :
    ¬ tenTo Whole.digitLimit ≤ n := by
  have hle : tenTo Argument.digitLimit ≤ tenTo Whole.digitLimit := tenTo_le (by decide)
  omega

theorem IsArgument.not_holdsLong {v : Value} (h : IsArgument v) : ¬ HoldsLong v := by
  intro hlong
  cases hlong with
  | int hn =>
    cases h with
    | int hlt => exact lt_digitLimit hlt hn
  | item => cases h
  | key => cases h
  | entry => cases h

theorem IsArgument.shown_isOk {v : Value} (h : IsArgument v) : ∃ s, v.shown = .ok s := by
  cases hs : v.shown with
  | ok s => exact ⟨s, rfl⟩
  | error e => exact absurd (shown_isError_iff.1 ⟨e, hs⟩) h.not_holdsLong

theorem IsArgument.asText_isOk {v : Value} (h : IsArgument v) : ∃ s, v.asText = .ok s := by
  cases hs : v.asText with
  | ok s => exact ⟨s, rfl⟩
  | error e => exact absurd (asText_isError_iff.1 ⟨e, hs⟩) h.not_holdsLong

/-- Arguments can be `listed`. -/
theorem listed_isOk {vs : List Value} (h : ∀ v ∈ vs, IsArgument v) :
    ∃ s, listed vs = .ok s := by
  have hall : ∃ texts, vs.mapM asText = .ok texts := by
    induction vs with
    | nil => exact ⟨[], rfl⟩
    | cons v vs ih =>
      obtain ⟨s, hs⟩ := (h v (List.mem_cons_self ..)).asText_isOk
      obtain ⟨texts, htexts⟩ := ih fun w hw => h w (List.mem_cons_of_mem _ hw)
      refine ⟨s :: texts, ?_⟩
      rw [List.mapM_cons, hs, htexts]
      rfl
  obtain ⟨texts, htexts⟩ := hall
  refine ⟨", ".intercalate texts, ?_⟩
  unfold listed
  rw [htexts]
  rfl

end Value

/-- **What an argument is read as** is something that arguments stand for: the value `v` of any
    text `raw` satisfies `IsArgument`. -/
theorem Argument.read_isArgument {raw : String} {rule : Option String} {v : Value}
    (h : Argument.read raw rule = .ok v) : v.IsArgument := by
  unfold Argument.read at h
  split at h
  · -- a numeral that is not refused has as many digits as are read, or fewer
    rename_i negative digits _
    split at h
    · cases h
    · rename_i hshort
      obtain rfl := Except.ok.inj h
      refine .int ?_
      have hlt := readNat_lt digits
      have hle : tenTo digits.length ≤ tenTo Argument.digitLimit := tenTo_le (by omega)
      split <;> omega
  · split at h
    · obtain rfl := Except.ok.inj h
      exact .bool _
    · split at h
      · dsimp only at h
        split at h
        · obtain rfl := Except.ok.inj h
          exact .pattern _
        · cases h
      · obtain rfl := Except.ok.inj h
        exact .text _

end Rulebook
