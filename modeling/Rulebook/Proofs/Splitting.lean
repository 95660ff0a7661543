/-
  Where texts are cut.

  A text is cut at the first occurrence of a character, at every occurrence, or at every occurrence
  of a doubled one.  The doubled one overlaps itself, and the text is cut from the left:

      a || b         a  and   b
      a ||| b        a  and  |b         the third bar belongs to the part behind the cut

  So no part holds the pair, and no part with another one behind it ends in half of the pair.
  Parts like that are found again when they are joined; no others are.

  1. `cut_eq_some_iff`, `cut_eq_none_iff`: the first occurrence of a character;
  2. `splitOn_eq_iff`, `mem_intercalate_iff`: every occurrence, which is what lists are split at,
     and the characters of parts that are joined again;
  3. `pair_infix_cons_cons`, `pair_infix_append_iff`: where a pair can be in a text;
  4. `CutParts`: parts as they come out of a cut;
  5. `splitOnPair_append`: a text cut at a pair that is put into it;
  6. `splitOnPair_eq_iff`: the parts of a text are the one way to cut it.

  The crux is 5.  A pair that is put behind a text is found there, unless the text ends in half of
  one: then the cut comes one character earlier.
-/
import Rulebook.Text.Split

namespace Rulebook.Text

variable {sep : Char} {cs before behind part : List Char} {parts : List (List Char)}

/-! ## The first occurrence -/

/-- A character `sep` that is not there cuts nothing off. -/
theorem cut_of_not_mem (h : sep ∉ cs) : cut sep cs = (cs, none) := by
  induction cs with
  | nil => rfl
  | cons c cs ih =>
    obtain ⟨hc, hcs⟩ := not_or.1 (mt List.mem_cons.2 h)
    rw [cut, if_neg fun he => hc he.symm, ih hcs]

/-- A `cut` is made at the first occurrence of `sep`. -/
theorem cut_append (h : sep ∉ before) :
    cut sep (before ++ sep :: behind) = (before, some behind) := by
  induction before with
  | nil => rw [List.nil_append, cut, if_pos rfl]
  | cons c before ih =>
    obtain ⟨hc, hbefore⟩ := not_or.1 (mt List.mem_cons.2 h)
    rw [List.cons_append, cut, if_neg fun he => hc he.symm, ih hbefore]

/-- A text `cs` has the character `sep`, and falls into what stands `before` and `behind` the first
    one, or has it nowhere. -/
theorem first_or_nowhere (sep : Char) (cs : List Char) :
    (∃ before behind, cs = before ++ sep :: behind ∧ sep ∉ before) ∨ sep ∉ cs := by
  by_cases h : sep ∈ cs
  · obtain ⟨before, behind, hsplit, hfirst⟩ := List.eq_append_cons_of_mem h
    exact .inl ⟨before, behind, hsplit, hfirst⟩
  · exact .inr h

theorem cut_eq_some_iff :
    cut sep cs = (before, some behind) ↔ cs = before ++ sep :: behind ∧ sep ∉ before := by
  constructor
  · intro h
    rcases first_or_nowhere sep cs with ⟨before', behind', rfl, hfirst⟩ | hnowhere
    · rw [cut_append hfirst] at h
      obtain ⟨rfl, hbehind⟩ := Prod.mk.inj h
      obtain rfl := Option.some.inj hbehind
      exact ⟨rfl, hfirst⟩
    · rw [cut_of_not_mem hnowhere] at h
      cases (Prod.mk.inj h).2
  · rintro ⟨rfl, hfirst⟩
    exact cut_append hfirst

theorem cut_eq_none_iff : cut sep cs = (before, none) ↔ before = cs ∧ sep ∉ cs := by
  constructor
  · intro h
    rcases first_or_nowhere sep cs with ⟨before', behind', rfl, hfirst⟩ | hnowhere
    · rw [cut_append hfirst] at h
      cases (Prod.mk.inj h).2
    · rw [cut_of_not_mem hnowhere] at h
      exact ⟨(Prod.mk.inj h).1.symm, hnowhere⟩
  · rintro ⟨rfl, hnowhere⟩
    exact cut_of_not_mem hnowhere

/-! ## Every occurrence -/

/-- The parts of a text are those that the library's `List.splitOn` finds. -/
theorem splitOn_eq (sep : Char) (cs : List Char) : splitOn sep cs = cs.splitOn sep := by
  induction cs with
  | nil => rfl
  | cons c cs ih =>
    rw [splitOn, ih, List.splitOn_eq_splitOnP, List.splitOn_eq_splitOnP,
      List.splitOnP_cons_eq_if_modifyHead]
    by_cases h : c = sep
    · simp [h]
    · obtain ⟨part, parts, hparts⟩ :=
        List.exists_cons_of_ne_nil (List.splitOnP_ne_nil (· == sep) cs)
      simp [h, hparts]

/-- No part of a text has the separator `sep` in it. -/
theorem not_mem_of_mem_splitOn (h : part ∈ splitOn sep cs) : sep ∉ part := by
  induction cs generalizing part with
  | nil => simp_all [splitOn]
  | cons c cs ih =>
    rw [splitOn] at h
    split at h
    · rcases List.mem_cons.1 h with rfl | hrest
      · exact List.not_mem_nil
      · exact ih hrest
    · rename_i hc
      split at h
      · obtain rfl := List.mem_singleton.1 h
        simpa using Ne.symm hc
      · rename_i first parts hparts
        rw [hparts] at ih
        rcases List.mem_cons.1 h with rfl | hrest
        · -- the character goes to the first part, and it is no separator
          rw [List.mem_cons, not_or]
          exact ⟨Ne.symm hc, ih List.mem_cons_self⟩
        · exact ih (List.mem_cons_of_mem _ hrest)

/-- **The parts of a text** between the occurrences of `sep` are the one list of `parts` without it
    that makes the text when joined. -/
theorem splitOn_eq_iff :
    splitOn sep cs = parts ↔
      parts ≠ [] ∧ (∀ part ∈ parts, sep ∉ part) ∧ [sep].intercalate parts = cs := by
  constructor
  · rintro rfl
    refine ⟨?_, fun part => not_mem_of_mem_splitOn, ?_⟩
    · rw [splitOn_eq]
      exact List.splitOn_ne_nil sep cs
    · rw [splitOn_eq, List.intercalate_splitOn]
  · rintro ⟨hne, hparts, rfl⟩
    rw [splitOn_eq, List.splitOn_intercalate sep hparts hne]

/-- The characters of joined `parts` are those of the parts, the separator apart. -/
theorem mem_intercalate_iff {c : Char} (hc : c ≠ sep) :
    c ∈ [sep].intercalate parts ↔ ∃ part ∈ parts, c ∈ part := by
  induction parts with
  | nil => simp
  | cons first parts ih =>
    by_cases hrest : parts = []
    · simp [hrest]
    · rw [List.intercalate_cons_of_ne_nil hrest]
      simp [ih, hc]

/-! ## Pairs -/

theorem not_pair_infix_singleton (c : Char) : ¬ [sep, sep] <:+: [c] := by
  intro h
  have hle := h.length_le
  simp at hle

/-- A pair of `sep` is at the front, or further on. -/
theorem pair_infix_cons_cons {c d : Char} :
    [sep, sep] <:+: c :: d :: cs ↔ (c = sep ∧ d = sep) ∨ [sep, sep] <:+: d :: cs := by
  rw [List.infix_cons_iff]
  simp [List.cons_prefix_cons, eq_comm]

/-- A pair of `sep` is in nothing that goes without its character, such as `before`. -/
theorem pair_infix_append_iff (h : sep ∉ before) :
    [sep, sep] <:+: before ++ behind ↔ [sep, sep] <:+: behind := by
  induction before with
  | nil => rfl
  | cons c before ih =>
    obtain ⟨hc, hbefore⟩ := not_or.1 (mt List.mem_cons.2 h)
    rw [List.cons_append, List.infix_cons_iff, ih hbefore]
    simp [List.cons_prefix_cons, hc]

/-! ## Parts -/

/-- Parts as they come out of a cut: at least one, none with the pair in it, and none but the last
    with half of the pair at its end. -/
structure CutParts (sep : Char) (parts : List (List Char)) : Prop where
  ne_nil : parts ≠ []
  no_pair : ∀ part ∈ parts, ¬ [sep, sep] <:+: part
  no_half : ∀ part ∈ parts.dropLast, part.getLast? ≠ some sep

theorem cutParts_singleton_iff : CutParts sep [part] ↔ ¬ [sep, sep] <:+: part := by
  constructor
  · intro h
    exact h.no_pair part (List.mem_singleton_self part)
  · intro h
    refine ⟨List.cons_ne_nil _ _, ?_, ?_⟩
    · intro p hp
      exact List.mem_singleton.1 hp ▸ h
    · intro p hp
      cases hp

theorem cutParts_cons_iff (hne : parts ≠ []) :
    CutParts sep (part :: parts) ↔
      ¬ [sep, sep] <:+: part ∧ part.getLast? ≠ some sep ∧ CutParts sep parts := by
  constructor
  · rintro ⟨-, hpair, hhalf⟩
    rw [List.dropLast_cons_of_ne_nil hne] at hhalf
    obtain ⟨hpart, hparts⟩ := List.forall_mem_cons.1 hpair
    obtain ⟨hend, hends⟩ := List.forall_mem_cons.1 hhalf
    exact ⟨hpart, hend, hne, hparts, hends⟩
  · rintro ⟨hpart, hend, -, hparts, hends⟩
    refine ⟨List.cons_ne_nil _ _, List.forall_mem_cons.2 ⟨hpart, hparts⟩, ?_⟩
    rw [List.dropLast_cons_of_ne_nil hne]
    exact List.forall_mem_cons.2 ⟨hend, hends⟩

/-! ## Cutting -/

theorem splitOnPair_ne_nil (sep : Char) (cs : List Char) : splitOnPair sep cs ≠ [] := by
  induction cs using splitOnPair.induct sep with
  | case1 => exact List.cons_ne_nil _ _
  | case2 c => exact List.cons_ne_nil _ _
  | case3 c d cs hpair _ =>
    rw [splitOnPair, if_pos hpair]
    exact List.cons_ne_nil _ _
  | case4 c d cs hpair hnone ih => exact absurd hnone ih
  | case5 c d cs hpair part parts hparts ih =>
    rw [splitOnPair, if_neg hpair, hparts]
    exact List.cons_ne_nil _ _

/-- A pair at the front cuts nothing off. -/
theorem splitOnPair_pair (sep : Char) (cs : List Char) :
    splitOnPair sep (sep :: sep :: cs) = [] :: splitOnPair sep cs := by
  rw [splitOnPair, if_pos ⟨rfl, rfl⟩]

/-- A character `c` that begins no pair goes to the `part` behind it. -/
theorem splitOnPair_cons {c d : Char} (hpair : ¬ (c = sep ∧ d = sep))
    (hparts : splitOnPair sep (d :: cs) = part :: parts) :
    splitOnPair sep (c :: d :: cs) = (c :: part) :: parts := by
  rw [splitOnPair, if_neg hpair, hparts]

/-- A text `cs` without the pair is not cut. -/
theorem splitOnPair_of_no_pair (h : ¬ [sep, sep] <:+: cs) : splitOnPair sep cs = [cs] := by
  induction cs using splitOnPair.induct sep with
  | case1 => rfl
  | case2 c => rfl
  | case3 c d cs hpair _ => exact absurd (pair_infix_cons_cons.2 (.inl hpair)) h
  | case4 c d cs _ hnone _ => exact absurd hnone (splitOnPair_ne_nil _ _)
  | case5 c d cs hpair part parts _ ih =>
    exact splitOnPair_cons hpair (ih fun hfurther => h (pair_infix_cons_cons.2 (.inr hfurther)))

/-- **A pair put into a text cuts it there**, if the text `before` it does not end in half of
    one. -/
theorem splitOnPair_append (h : before.getLast? ≠ some sep) :
    splitOnPair sep (before ++ sep :: sep :: behind) =
      splitOnPair sep before ++ splitOnPair sep behind := by
  induction before using splitOnPair.induct sep with
  | case1 => exact splitOnPair_pair sep behind
  | case2 c =>
    have hc : ¬ (c = sep ∧ sep = sep) := fun hpair => h (by simp [hpair.1])
    exact splitOnPair_cons hc (splitOnPair_pair sep behind)
  | case3 c d cs hpair ih =>
    obtain ⟨rfl, rfl⟩ := hpair
    -- the pair at the front is not all there is: it would end the text
    have hrest : cs.getLast? ≠ some d := by
      cases cs with
      | nil => exact absurd rfl h
      | cons e cs => simpa [List.getLast?_cons_cons] using h
    rw [List.cons_append, List.cons_append, splitOnPair_pair, splitOnPair_pair, ih hrest]
    rfl
  | case4 c d cs _ hnone _ => exact absurd hnone (splitOnPair_ne_nil _ _)
  | case5 c d cs hpair part parts hparts ih =>
    rw [List.getLast?_cons_cons] at h
    have hmore := ih h
    rw [hparts] at hmore
    rw [splitOnPair_cons hpair hparts]
    exact splitOnPair_cons hpair hmore

/-- The first `part` begins as the text does, or it is empty and the text begins with a pair. -/
theorem head_splitOnPair {d : Char} (h : splitOnPair sep (d :: cs) = part :: parts) :
    (part = [] ∧ d = sep) ∨ part.head? = some d := by
  cases cs with
  | nil =>
    obtain ⟨rfl, -⟩ := List.cons.inj h
    exact .inr rfl
  | cons e cs =>
    by_cases hpair : d = sep ∧ e = sep
    · obtain ⟨rfl, rfl⟩ := hpair
      rw [splitOnPair_pair] at h
      exact .inl ⟨(List.cons.inj h).1.symm, rfl⟩
    · obtain ⟨first, rest, hfirst⟩ := List.exists_cons_of_ne_nil (splitOnPair_ne_nil sep (e :: cs))
      rw [splitOnPair_cons hpair hfirst] at h
      obtain ⟨rfl, -⟩ := List.cons.inj h
      exact .inr rfl

theorem cutParts_splitOnPair (sep : Char) (cs : List Char) :
    CutParts sep (splitOnPair sep cs) := by
  induction cs using splitOnPair.induct sep with
  | case1 => exact cutParts_singleton_iff.2 (by simp)
  | case2 c => exact cutParts_singleton_iff.2 (not_pair_infix_singleton c)
  | case3 c d cs hpair ih =>
    rw [splitOnPair, if_pos hpair]
    exact (cutParts_cons_iff (splitOnPair_ne_nil _ _)).2 ⟨by simp, by simp, ih⟩
  | case4 c d cs _ hnone _ => exact absurd hnone (splitOnPair_ne_nil _ _)
  | case5 c d cs hpair part parts hparts ih =>
    rw [splitOnPair_cons hpair hparts]
    rw [hparts] at ih
    -- the character makes no pair with what it is put before
    have hnew : ¬ [sep, sep] <:+: part → ¬ [sep, sep] <:+: c :: part := by
      intro hpart
      cases part with
      | nil => exact not_pair_infix_singleton c
      | cons e part =>
        rw [pair_infix_cons_cons, not_or]
        refine ⟨?_, hpart⟩
        rcases head_splitOnPair hparts with ⟨hnil, -⟩ | hhead
        · cases hnil
        · obtain rfl := Option.some.inj hhead
          exact hpair
    cases parts with
    | nil => exact cutParts_singleton_iff.2 (hnew (cutParts_singleton_iff.1 ih))
    | cons next parts =>
      obtain ⟨hpart, hend, hrest⟩ := (cutParts_cons_iff (List.cons_ne_nil _ _)).1 ih
      refine (cutParts_cons_iff (List.cons_ne_nil _ _)).2 ⟨hnew hpart, ?_, hrest⟩
      cases part with
      | nil =>
        -- the part in front of a pair is this one character
        intro hlast
        obtain rfl : c = sep := by simpa using hlast
        rcases head_splitOnPair hparts with ⟨-, hd⟩ | hhead
        · exact hpair ⟨rfl, hd⟩
        · cases hhead
      | cons e part => rwa [List.getLast?_cons_cons]

theorem join_cons (hne : parts ≠ []) :
    join [sep, sep] (part :: parts) = part ++ sep :: sep :: join [sep, sep] parts := by
  obtain ⟨next, rest, rfl⟩ := List.exists_cons_of_ne_nil hne
  rw [join, List.append_assoc]
  · rfl
  · exact List.cons_ne_nil _ _

theorem join_splitOnPair (sep : Char) (cs : List Char) :
    join [sep, sep] (splitOnPair sep cs) = cs := by
  induction cs using splitOnPair.induct sep with
  | case1 => rfl
  | case2 c => rfl
  | case3 c d cs hpair ih =>
    obtain ⟨rfl, rfl⟩ := hpair
    rw [splitOnPair_pair, join_cons (splitOnPair_ne_nil _ _), ih]
    rfl
  | case4 c d cs _ hnone _ => exact absurd hnone (splitOnPair_ne_nil _ _)
  | case5 c d cs hpair part parts hparts ih =>
    rw [splitOnPair_cons hpair hparts]
    rw [hparts] at ih
    cases parts with
    | nil => exact congrArg (c :: ·) ih
    | cons next parts =>
      rw [join_cons (List.cons_ne_nil _ _)] at ih ⊢
      exact congrArg (c :: ·) ih

/-- Parts that are `CutParts` are found again when they are joined. -/
theorem splitOnPair_join (h : CutParts sep parts) :
    splitOnPair sep (join [sep, sep] parts) = parts := by
  induction parts with
  | nil => exact absurd rfl h.ne_nil
  | cons part parts ih =>
    by_cases hne : parts = []
    · obtain rfl := hne
      exact splitOnPair_of_no_pair (cutParts_singleton_iff.1 h)
    · obtain ⟨hpart, hend, hrest⟩ := (cutParts_cons_iff hne).1 h
      rw [join_cons hne, splitOnPair_append hend, splitOnPair_of_no_pair hpart, ih hrest]
      rfl

/-- **The parts of a text**: `splitOnPair` gives the one list of `CutParts` that makes the text
    when joined. -/
theorem splitOnPair_eq_iff :
    splitOnPair sep cs = parts ↔ CutParts sep parts ∧ join [sep, sep] parts = cs := by
  constructor
  · rintro rfl
    exact ⟨cutParts_splitOnPair sep cs, join_splitOnPair sep cs⟩
  · rintro ⟨hparts, rfl⟩
    exact splitOnPair_join hparts

end Rulebook.Text
