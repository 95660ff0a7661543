/-
  Lists of members.

      custom_list:1,true,/x/        "true,1,1"      accepted
                                    "1, true"       Invalid Element(s):  true. Allowed: 1, true, /x/
                                    7, for numbers  Invalid Element(s): 7. Allowed: 1, true, /x/

  The list is the argument as it stands: it is cut at its commas and nothing is read from what is
  between them.  A value is cut likewise, in its text, and each part has to be in the list.

  1. `Splits`, `splits_iff`: what there is between the commas of a text;
  2. `apply_members`: the check, on the text of a value;
  3. `build_members`: the rule text;
  4. `judge_int_members`, `judge_long_int`, `judge_long_text`: whole numbers, and those that are too
     long;
  5. `custom_list_members`: fields with this rule.

  The crux is 1: a text falls into parts in one way only, so that a text made of members falls into
  them again, and one that does not is made of no members.  Behind 4300 digits there is no answer: a
  number of that length has no text, and its text is not read.
-/
import Rulebook.Proofs.SingleCheck
import Rulebook.Proofs.WholeTexts

namespace Rulebook

open Rulebook.Text Rulebook.Number

variable {type : BaseType} {label raw s : String} {allowed es : List String} {n : Int} {x : Value}

/-! ## Between commas -/

/-- The text `s` is the parts `es` with commas between them, at least one and none with a comma in
    it. -/
structure Splits (s : String) (es : List String) : Prop where
  ne_nil : es ≠ []
  no_comma : ∀ e ∈ es, ',' ∉ e.toList
  joined : ",".intercalate es = s

/-- **The one way to split a text**: `Splits` is the specification of `ValueCheck.parts`. -/
theorem splits_iff : Splits s es ↔ ValueCheck.parts s = es := by
  have hlists : ValueCheck.parts s = es ↔ splitOn ',' s.toList = es.map String.toList := by
    unfold ValueCheck.parts
    constructor
    · rintro rfl
      rw [List.map_map]
      exact (List.map_id'' (fun cs => String.toList_ofList) _).symm
    · intro h
      rw [h, List.map_map]
      exact List.map_id'' (fun e => String.ofList_toList) _
  have hjoined : ",".intercalate es = s ↔ [','].intercalate (es.map String.toList) = s.toList := by
    rw [← String.toList_inj, String.toList_intercalate]
    rfl
  rw [hlists, splitOn_eq_iff, List.forall_mem_map, ← hjoined, ne_eq, List.map_eq_nil_iff]
  exact ⟨fun h => ⟨h.1, h.2, h.3⟩, fun h => ⟨h.1, h.2.1, h.2.2⟩⟩

theorem splits_parts (s : String) : Splits s (ValueCheck.parts s) := splits_iff.2 rfl

/-- A text is made of members of `allowed` exactly if all its `parts` are members; `hallowed` says
    that no member has a comma in it. -/
theorem forall_parts_iff (hallowed : ∀ e ∈ allowed, ',' ∉ e.toList) :
    (∀ part ∈ ValueCheck.parts s, part ∈ allowed) ↔
      ∃ es, es ≠ [] ∧ (∀ e ∈ es, e ∈ allowed) ∧ s = ",".intercalate es := by
  constructor
  · intro h
    exact ⟨_, (splits_parts s).ne_nil, h, (splits_parts s).joined.symm⟩
  · rintro ⟨es, hne, hes, rfl⟩
    have hsplits : Splits (",".intercalate es) es := ⟨hne, fun e he => hallowed e (hes e he), rfl⟩
    rwa [splits_iff.1 hsplits]

/-- The text of a number has no comma in it, and so `parts` gives that text alone. -/
theorem parts_toString (n : Int) : ValueCheck.parts (toString n) = [toString n] := by
  refine splits_iff.1 ⟨List.cons_ne_nil _ _, ?_, String.intercalate_singleton⟩
  intro e he hcomma
  obtain rfl := List.mem_singleton.1 he
  exact Whole.not_mem_toString n (by decide) hcomma

/-! ## The check -/

/-- The text of a number as a value, by `asText`, is `Whole.text`. -/
theorem Value.asText_int (n : Int) : (Value.int n).asText = Whole.text n := rfl

/-- What is said of a value whose parts `foreign` are not among `allowed`. -/
def noMembers (foreign allowed : List String) : Violation :=
  ⟨"any.custom", "Invalid Element(s): " ++ ", ".intercalate foreign ++ ". Allowed: "
    ++ ", ".intercalate allowed⟩

/-- What the check `members` makes of a value: it looks at the `parts` of its text `s`, and names
    those outside `allowed`. -/
theorem Check.apply_members (hs : x.asText = .ok s) :
    (Check.value (.members allowed)).apply label x =
      if ∀ part ∈ ValueCheck.parts s, part ∈ allowed then .ok none
      else .ok (some (noMembers ((ValueCheck.parts s).filter (· ∉ allowed)) allowed)) := by
  have hforeign : ValueCheck.foreignParts allowed x =
      .ok ((ValueCheck.parts s).filter (· ∉ allowed)) := by
    rw [ValueCheck.foreignParts, hs]
    simp
  show ValueCheck.apply x (.members allowed) = _
  rw [ValueCheck.apply, hforeign]
  by_cases hall : ∀ part ∈ ValueCheck.parts s, part ∈ allowed
  · have hnone : (ValueCheck.parts s).filter (· ∉ allowed) = [] := by simpa using hall
    rw [if_pos hall, hnone]
  · rw [if_neg hall]
    have hsome : (ValueCheck.parts s).filter (· ∉ allowed) ≠ [] := by simpa using hall
    obtain ⟨part, rest, hcons⟩ := List.exists_cons_of_ne_nil hsome
    rw [hcons]
    rfl

/-! ## The rule text -/

/-- The rule `custom_list` with the list `raw`, for each type: a validator with the one check
    `members`, whose members are the `parts` of `raw`. -/
theorem build_members {name : String} (htype : TypeTable.standard.find? name = some type)
    (hne : raw ≠ "") (hbar : ¬ ['|', '|'] <:+: raw.toList) :
    Validator.build .standard (some ("custom_list" ++ ":" ++ raw)) name =
      .ok (Validator.ofRules type [.check (.value (.members (ValueCheck.parts raw)))]) :=
  Validator.build_single htype (Token.parse_argument (by decide) hne hbar) (.members hne)

/-! ## Fields -/

/-- A number `n` below `tenTo Whole.digitLimit`, as such or as its text, is judged by
    `toString n`. -/
theorem judge_int_members (hn : n.natAbs < tenTo Whole.digitLimit)
    (hx : x = .int n ∨ x = .text (toString n)) :
    (Validator.ofRules .number [.check (.value (.members allowed))]).judge label x =
      if toString n ∈ allowed then .ok none
      else .ok (some (noMembers [toString n] allowed)) := by
  have hjudge : (Validator.ofRules .number [.check (.value (.members allowed))]).judge label x =
      (Check.value (.members allowed)).apply label (.int n) := by
    rcases hx with rfl | rfl
    · exact Validator.judge_check_int
    · exact Validator.judge_check_numeral
        (Whole.numberOfText_of_spells (Whole.spells_toString (by decide) hn))
  rw [hjudge, Check.apply_members ((Value.asText_int n).trans (Whole.text_eq_toString hn)),
    parts_toString]
  generalize toString n = s
  by_cases hmem : s ∈ allowed <;> simp [hmem]

/-- A longer number has no text: `judge` ends in the fault `tooManyDigits` in `writing`. -/
theorem judge_long_int (hn : tenTo Whole.digitLimit ≤ n.natAbs) :
    (Validator.ofRules .number [.check (.value (.members allowed))]).judge label (.int n) =
      .error (.tooManyDigits .writing) := by
  have htext : (Value.int n).asText = .error .writing := by
    rw [Value.asText_int, Whole.text, if_pos hn]
  rw [Validator.judge_check_int]
  show ValueCheck.apply (.int n) (.members allowed) = _
  rw [ValueCheck.apply, ValueCheck.foreignParts, htext]

/-- Neither is what would be its text read: there it is `tooManyDigits` in `reading`. -/
theorem judge_long_text (hn : tenTo Whole.digitLimit ≤ n.natAbs) :
    ∃ count, (Validator.ofRules .number [.check (.value (.members allowed))]).judge label
      (.text (toString n)) = .error (.tooManyDigits (.reading count)) := by
  obtain ⟨most, hspells⟩ := Whole.exists_spells_toString n
  obtain ⟨count, hcount⟩ := Whole.numberOfText_of_long hspells hn
  exact ⟨count, Validator.judge_check_unread hcount⟩

/-- **Lists of members.** Let `custom_list` be given a list `raw` that is not empty (`hne`) and
    without the bars that would end it (`hbar`), and let `allowed` be what `raw` `Splits` into.  A
    `string` field accepts, of the texts with something in them, those made of members with commas
    between them.  Of any other it reports, as `noMembers`, the parts that are no members, in their
    order and as often as they are there, and all of `allowed`.  A `number` field accepts those `n`
    whose text is a member, and reports the text otherwise, as long as `n` is below
    `tenTo Whole.digitLimit`.  From there on `judge` has no answer, so that it fails to accept a
    number just where its text is a member. -/
theorem custom_list_members (label : String) (hne : raw ≠ "")
    (hbar : ¬ ['|', '|'] <:+: raw.toList) :
    ∃ allowed, Splits raw allowed ∧
      (∃ v, Validator.build .standard (some ("custom_list" ++ ":" ++ raw)) "string" = .ok v ∧
        ∀ s, s ≠ "" →
          (v.judge label (.text s) = .ok none ↔
            ∃ es, es ≠ [] ∧ (∀ e ∈ es, e ∈ allowed) ∧ s = ",".intercalate es) ∧
          (v.judge label (.text s) ≠ .ok none →
            ∃ given, Splits s given ∧ v.judge label (.text s) =
              .ok (some (noMembers (given.filter (· ∉ allowed)) allowed)))) ∧
      ∃ v, Validator.build .standard (some ("custom_list" ++ ":" ++ raw)) "number" = .ok v ∧
        ∀ n x, (x = .int n ∨ x = .text (toString n)) →
          ((v.judge label x = .ok none ↔ toString n ∈ allowed) ↔
            n.natAbs < tenTo 4300 ∨ toString n ∉ allowed) ∧
          (n.natAbs < tenTo 4300 → toString n ∉ allowed →
            v.judge label x = .ok (some (noMembers [toString n] allowed))) ∧
          (tenTo 4300 ≤ n.natAbs →
            ∃ limit, v.judge label x = .error (.tooManyDigits limit)) := by
  have hallowed := splits_parts raw
  refine ⟨_, hallowed, ⟨_, build_members rfl hne hbar, fun s hs => ?_⟩,
    ⟨_, build_members rfl hne hbar, fun n x hx => ?_⟩⟩
  · rw [Validator.judge_check_text hs, Check.apply_members rfl]
    by_cases hall : ∀ part ∈ ValueCheck.parts s, part ∈ ValueCheck.parts raw
    · rw [if_pos hall, ← forall_parts_iff hallowed.no_comma]
      exact ⟨iff_of_true rfl hall, fun hnot => absurd rfl hnot⟩
    · rw [if_neg hall, ← forall_parts_iff hallowed.no_comma]
      exact ⟨iff_of_false (by simp) hall, fun _ => ⟨_, splits_parts s, rfl⟩⟩
  · by_cases hn : n.natAbs < tenTo 4300
    · rw [judge_int_members hn hx]
      have hshort : ¬ tenTo 4300 ≤ n.natAbs := Nat.not_le.2 hn
      by_cases hmem : toString n ∈ ValueCheck.parts raw
      · rw [if_pos hmem]
        exact ⟨iff_of_true (iff_of_true rfl hmem) (.inl hn), fun _ hnot => absurd hmem hnot,
          fun hlong => absurd hlong hshort⟩
      · rw [if_neg hmem]
        exact ⟨iff_of_true (iff_of_false (by simp) hmem) (.inl hn), fun _ _ => rfl,
          fun hlong => absurd hlong hshort⟩
    · -- there is no answer, which is as good as a violation where the text is no member
      obtain ⟨limit, hlimit⟩ : ∃ limit, (Validator.ofRules .number [.check (.value (.members
          (ValueCheck.parts raw)))]).judge label x = .error (.tooManyDigits limit) := by
        rcases hx with rfl | rfl
        · exact ⟨_, judge_long_int (Nat.not_lt.1 hn)⟩
        · obtain ⟨count, hcount⟩ := judge_long_text (Nat.not_lt.1 hn)
          exact ⟨_, hcount⟩
      rw [hlimit]
      simp [hn]

/-- Both fields with the members `1`, `true` and `/x/`: two parts of a text are no members, one of
    them twice, and neither a number nor a flag is read from a member. -/
theorem custom_list_members_of_three :
    ∃ allowed v w, Splits "1,true,/x/" allowed ∧
      Validator.build .standard (some ("custom_list" ++ ":" ++ "1,true,/x/")) "string" = .ok v ∧
      Validator.build .standard (some ("custom_list" ++ ":" ++ "1,true,/x/")) "number" = .ok w ∧
      v.judge "Tags" (.text "true,1,1") = .ok none ∧
      v.judge "Tags" (.text "1,01,,true,01") =
        .ok (some ⟨"any.custom", "Invalid Element(s): 01, , 01. Allowed: 1, true, /x/"⟩) ∧
      w.judge "Tags" (.int 1) = .ok none ∧
      w.judge "Tags" (.int 7) =
        .ok (some ⟨"any.custom", "Invalid Element(s): 7. Allowed: 1, true, /x/"⟩) := by
  obtain ⟨allowed, hallowed, ⟨v, hv, htexts⟩, w, hw, hnumbers⟩ :=
    custom_list_members "Tags" (show "1,true,/x/" ≠ "" by decide) (by decide)
  obtain rfl : ["1", "true", "/x/"] = allowed :=
    Eq.trans (by decide +kernel) (splits_iff.1 hallowed)
  have hsplits : ValueCheck.parts "1,01,,true,01" = ["1", "01", "", "true", "01"] := by
    decide +kernel
  have hshort {k : Nat} (hk : k < tenTo 1) : k < tenTo 4300 :=
    Nat.lt_of_lt_of_le hk (tenTo_le (by decide))
  refine ⟨_, v, w, hallowed, hv, hw, ?_, ?_, ?_, ?_⟩
  · exact (htexts "true,1,1" (by decide)).1.2
      ⟨["true", "1", "1"], by decide, by decide, by decide +kernel⟩
  · obtain ⟨haccepts, hreports⟩ := htexts "1,01,,true,01" (by decide)
    have hnot : v.judge "Tags" (.text "1,01,,true,01") ≠ .ok none := by
      rw [ne_eq, haccepts, ← forall_parts_iff hallowed.no_comma, hsplits]
      decide
    obtain ⟨given, hgiven, hviolation⟩ := hreports hnot
    obtain rfl : ["1", "01", "", "true", "01"] = given := hsplits.symm.trans (splits_iff.1 hgiven)
    rw [hviolation]
    decide +kernel
  · exact ((hnumbers 1 (.int 1) (.inl rfl)).1.2 (.inl (hshort (by decide)))).2 (by decide +kernel)
  · rw [(hnumbers 7 (.int 7) (.inl rfl)).2.1 (hshort (by decide)) (by decide +kernel)]
    decide +kernel

/-- There is no answer of `tenTo 4300`, the first number that is too long, though it is the one
    member. -/
theorem judge_member_too_long :
    ∃ v, Validator.build .standard (some ("custom_list" ++ ":" ++ toString (tenTo 4300 : Int)))
        "number" = .ok v ∧
      Splits (toString (tenTo 4300 : Int)) [toString (tenTo 4300 : Int)] ∧
      v.judge "value" (.int (tenTo 4300)) = .error (.tooManyDigits .writing) ∧
      ∃ count, v.judge "value" (.text (toString (tenTo 4300 : Int))) =
        .error (.tooManyDigits (.reading count)) := by
  have hlong : tenTo Whole.digitLimit ≤ (tenTo 4300 : Int).natAbs := by
    rw [Int.natAbs_natCast]
    exact Nat.le_refl _
  generalize (tenTo 4300 : Int) = n at hlong ⊢
  have hbar : ¬ ['|', '|'] <:+: (toString n).toList := fun hpair =>
    Whole.not_mem_toString n (by decide) (hpair.subset List.mem_cons_self)
  exact ⟨_, build_members rfl (Whole.toString_ne_empty n) hbar, splits_iff.2 (parts_toString n),
    judge_long_int hlong, judge_long_text hlong⟩

end Rulebook
