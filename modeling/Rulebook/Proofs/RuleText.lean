/-
  Rule texts are read back as they were written.

  Tokens are written as segments with the separator between them, and the separator overlaps
  itself.  Three things cannot be written, the last of them only where a token follows:

      argument   written          read back
      (empty)    `min:`           no argument
      a||b       `only:a||b`      two tokens
      a|         `only:a|||min`   `only` with `a`, and a segment that begins with a bar

  Everything else can: bars and marks at the front of an argument, single bars in it, a bar at the
  very end of the text.

  1. `ProperName`: names that a segment can begin with;
  2. `readChars?_segment`, `of_readChars?`: a token and its segment;
  3. `Separable`: what can be written, and `cutParts_segments_iff`: the same as segments that are
     found again;
  4. `rule_texts_round_trip`: these tokens are read back and no others, and all that is read is
     of this kind.

  The crux is 3.  A proper name holds no bar, so all bars of a segment are those of the argument.
-/
import Mathlib.Data.List.Infix
import Rulebook.Proofs.InStep
import Rulebook.Proofs.Splitting
import Rulebook.Rule.Token

namespace Rulebook

open Rulebook.Text

namespace Text

variable {c : Char} {cs : List Char}

/-! ## Names -/

/-- Where the ASCII letters, digits and the underscore are, by number. -/
theorem toNat_of_isAsciiWord (h : isAsciiWord c = true) :
    (48 ≤ c.toNat ∧ c.toNat ≤ 57) ∨ (65 ≤ c.toNat ∧ c.toNat ≤ 90) ∨ c.toNat = 95 ∨
      (97 ≤ c.toNat ∧ c.toNat ≤ 122) := by
  simp only [isAsciiWord, isAsciiAlphanumeric, isAsciiLetter, Bool.or_eq_true, Bool.and_eq_true,
    decide_eq_true_eq, beq_iff_eq] at h
  rcases h with ((⟨hlow, hhigh⟩ | ⟨hlow, hhigh⟩) | ⟨hlow, hhigh⟩) | rfl
  · exact .inr (.inr (.inr ⟨hlow, hhigh⟩))
  · exact .inr (.inl ⟨hlow, hhigh⟩)
  · exact .inl ⟨hlow, hhigh⟩
  · exact .inr (.inr (.inl rfl))

theorem isBlank_of_isAsciiWord (h : isAsciiWord c = true) : isBlank c = false := by
  have hrange := toNat_of_isAsciiWord h
  simp only [isBlank, Bool.or_eq_false_iff, Bool.and_eq_false_iff, decide_eq_false_iff_not,
    beq_eq_false_iff_ne]
  omega

/-- A text `cs` without blanks has none at its ends, so stripping does nothing. -/
theorem stripChars_eq_self (h : ∀ c ∈ cs, isBlank c = false) : stripChars cs = cs := by
  have hfront : cs.dropWhile isBlank = cs := by
    cases cs with
    | nil => rfl
    | cons c cs => exact List.dropWhile_cons_of_neg (by simp [h c List.mem_cons_self])
  have hback : cs.reverse.dropWhile isBlank = cs.reverse := by
    cases hcs : cs.reverse with
    | nil => rfl
    | cons c rest =>
      have hc : c ∈ cs := List.mem_reverse.1 (hcs ▸ List.mem_cons_self)
      exact List.dropWhile_cons_of_neg (by simp [h c hc])
  rw [stripChars, stripEnd, hfront, hback, List.reverse_reverse]

/-- What `stripChars` leaves does not end with a blank. -/
theorem isBlank_of_getLast?_stripChars (h : (stripChars cs).getLast? = some c) :
    isBlank c = false := by
  rw [stripChars, stripEnd, List.getLast?_reverse] at h
  exact head?_dropWhile_isBlank _ c h

end Text

namespace Token

variable {t : Token} {ts : List Token} {seg : List Char} {segs : List (List Char)}

/-- The token `t` has a name that a segment can begin with: word characters, and at least one. -/
def ProperName (t : Token) : Prop := t.name ≠ "" ∧ ∀ c ∈ t.name.toList, isAsciiWord c = true

instance : DecidablePred ProperName := fun t =>
  decidable_of_iff (t.name ≠ "" ∧ t.name.toList.all isAsciiWord = true)
    (by rw [ProperName, List.all_eq_true])

/-- A stripped text cannot end in a line feed, so the one that `isName` lets pass is never there. -/
theorem isName_stripChars_iff {cs : List Char} :
    isName (stripChars cs) = true ↔
      stripChars cs ≠ [] ∧ ∀ c ∈ stripChars cs, isAsciiWord c = true := by
  have hend : (stripChars cs).getLast? ≠ some '\n' := by
    intro h
    have hblank := isBlank_of_getLast?_stripChars h
    exact absurd hblank (by decide)
  simp [isName, isAllOf, dropLineEnd_eq_self hend]

/-- A character `c` that belongs to no name is in no proper one. -/
theorem ProperName.not_mem (h : ProperName t) {c : Char} (hc : isAsciiWord c = false) :
    c ∉ t.name.toList := by
  intro hmem
  rw [h.2 c hmem] at hc
  cases hc

theorem ProperName.stripChars_eq (h : ProperName t) : stripChars t.name.toList = t.name.toList :=
  stripChars_eq_self fun c hc => isBlank_of_isAsciiWord (h.2 c hc)

theorem ProperName.isName (h : ProperName t) : isName t.name.toList = true := by
  rw [← h.stripChars_eq, isName_stripChars_iff, h.stripChars_eq]
  refine ⟨?_, h.2⟩
  intro hnil
  exact h.1 (String.toList_eq_nil_iff.1 hnil)

/-! ## One segment -/

theorem nonEmpty?_eq_some_iff {cs : List Char} {a : String} :
    nonEmpty? cs = some a ↔ cs = a.toList ∧ a ≠ "" := by
  unfold nonEmpty?
  cases cs with
  | nil =>
    simp only [List.isEmpty_nil, if_true, reduceCtorEq, false_iff]
    rintro ⟨hnil, hne⟩
    exact hne (String.toList_eq_nil_iff.1 hnil.symm)
  | cons c cs =>
    simp only [List.isEmpty_cons, Bool.false_eq_true, if_false, Option.some.injEq]
    constructor
    · rintro rfl
      refine ⟨String.toList_ofList.symm, ?_⟩
      rw [Ne, String.ofList_eq_empty_iff]
      exact List.cons_ne_nil c cs
    · rintro ⟨h, -⟩
      rw [h, String.ofList_toList]

/-- The token `t` is read from its `segment`, if its argument is not the empty one. -/
theorem readChars?_segment (hname : ProperName t) (hfilled : t.argument ≠ some "") :
    readChars? (segment t) = some t := by
  have hmark : argumentMark ∉ t.name.toList := hname.not_mem (by decide)
  obtain ⟨name, argument⟩ := t
  cases argument with
  | none =>
    simp only [segment, readChars?, cut_of_not_mem hmark, hname.stripChars_eq, hname.isName,
      if_true, String.ofList_toList, Option.bind_none]
  | some a =>
    have hargument : nonEmpty? a.toList = some a :=
      nonEmpty?_eq_some_iff.2 ⟨rfl, fun h => hfilled (h ▸ rfl)⟩
    simp only [segment, readChars?, cut_append hmark, hname.stripChars_eq, hname.isName, if_true,
      String.ofList_toList, Option.bind_some, hargument]

/-- What is read from a segment `seg`: a proper name, and an argument that ends the segment. -/
theorem of_readChars? (h : readChars? seg = some t) :
    ProperName t ∧ t.argument ≠ some "" ∧
      ∀ a, t.argument = some a → ∃ front, seg = front ++ a.toList := by
  rcases hcut : cut argumentMark seg with ⟨before, behind⟩
  simp only [readChars?, hcut, Option.ite_none_right_eq_some, Option.some.injEq] at h
  obtain ⟨hname, rfl⟩ := h
  obtain ⟨hne, hword⟩ := isName_stripChars_iff.1 hname
  refine ⟨⟨mt String.ofList_eq_empty_iff.1 hne, ?_⟩, ?_, ?_⟩
  · simpa only [String.toList_ofList] using hword
  · intro hempty
    obtain ⟨cs, -, hcs⟩ := Option.bind_eq_some_iff.1 hempty
    exact (nonEmpty?_eq_some_iff.1 hcs).2 rfl
  · intro a ha
    obtain ⟨cs, rfl, hcs⟩ := Option.bind_eq_some_iff.1 ha
    obtain ⟨rfl, -⟩ := nonEmpty?_eq_some_iff.1 hcs
    obtain ⟨rfl, -⟩ := cut_eq_some_iff.1 hcut
    exact ⟨before ++ [argumentMark], by simp⟩

/-! ## All segments -/

/-- Segments are read by `readAll` one by one. -/
theorem readAll_eq_ok_iff :
    readAll segs = .ok ts ↔ List.Forall₂ (fun seg t => readChars? seg = some t) segs ts := by
  induction segs generalizing ts with
  | nil => simp [readAll, eq_comm]
  | cons seg segs ih =>
    rw [readAll, List.forall₂_cons_left_iff]
    cases hseg : readChars? seg with
    | none => simp
    | some t =>
      cases hsegs : readAll segs with
      | error e =>
        simp only [reduceCtorEq, false_iff]
        rintro ⟨t', ts', -, hts', -⟩
        rw [ih.2 hts'] at hsegs
        cases hsegs
      | ok rest =>
        simp only [Except.ok.injEq, Option.some.injEq]
        constructor
        · rintro rfl
          exact ⟨t, rest, rfl, ih.1 hsegs, rfl⟩
        · rintro ⟨t', ts', rfl, hts', rfl⟩
          rw [ih.2 hts'] at hsegs
          cases hsegs
          rfl

/-- The tokens `ts` of the text `rules` are those of its segments. -/
theorem parse_eq_ok_iff {rules : String} (hrules : rules ≠ "") :
    parse (some rules) = .ok ts ↔
      List.Forall₂ (fun seg t => readChars? seg = some t)
        (splitOnPair separator rules.toList) ts := by
  rw [← readAll_eq_ok_iff]
  unfold parse parseText
  dsimp only
  rw [if_neg (by simpa using hrules)]
  cases readAll (splitOnPair separator rules.toList) <;> simp

/-! ## Two texts -/

/-- The text `a` with the separator and the text `b` behind it has the segments of both, if `a`
    does not end in half of a separator. -/
theorem segments_append {a b : String} (hbar : a.toList.getLast? ≠ some separator) :
    splitOnPair separator (a ++ "||" ++ b).toList =
      splitOnPair separator a.toList ++ splitOnPair separator b.toList := by
  rw [← splitOnPair_append hbar]
  simp [separator]

theorem parse_append {a b : String} {ts' : List Token} (ha : a ≠ "") (hb : b ≠ "")
    (hbar : a.toList.getLast? ≠ some separator) (hts : parse (some a) = .ok ts)
    (hts' : parse (some b) = .ok ts') : parse (some (a ++ "||" ++ b)) = .ok (ts ++ ts') := by
  rw [parse_eq_ok_iff ha] at hts
  rw [parse_eq_ok_iff hb] at hts'
  rw [parse_eq_ok_iff (by simp [ha]), segments_append hbar]
  exact List.rel_append hts hts'

/-! ## What can be written -/

/-- Tokens that can be told from one another when they are written in a row: no argument is empty,
    none holds the separator, and none but that of the last token ends in half of it. -/
structure Separable (ts : List Token) : Prop where
  filled : ∀ t ∈ ts, t.argument ≠ some ""
  whole : ∀ t ∈ ts, ∀ a, t.argument = some a → ¬ [separator, separator] <:+: a.toList
  closed : ∀ t ∈ ts.dropLast, ∀ a, t.argument = some a → a.toList.getLast? ≠ some separator

/-- The separators of the `segment` of `t` are those of its argument. -/
theorem pair_infix_segment_iff (hname : ProperName t) :
    [separator, separator] <:+: segment t ↔
      ∃ a, t.argument = some a ∧ [separator, separator] <:+: a.toList := by
  have hbar : separator ∉ t.name.toList := hname.not_mem (by decide)
  obtain ⟨name, argument⟩ := t
  cases argument with
  | none =>
    simp only [segment, reduceCtorEq, false_and, exists_false, iff_false]
    intro h
    exact hbar (h.subset List.mem_cons_self)
  | some a =>
    have hfront : separator ∉ name.toList ++ [argumentMark] := by
      simpa [separator, argumentMark] using hbar
    have hsegment : segment ⟨name, some a⟩ = (name.toList ++ [argumentMark]) ++ a.toList := by
      simp [segment]
    rw [hsegment, pair_infix_append_iff hfront]
    simp

/-- The `segment` of `t` ends in a bar where its argument does. -/
theorem getLast?_segment_iff (hname : ProperName t) :
    (segment t).getLast? = some separator ↔
      ∃ a, t.argument = some a ∧ a.toList.getLast? = some separator := by
  have hbar : separator ∉ t.name.toList := hname.not_mem (by decide)
  obtain ⟨name, argument⟩ := t
  cases argument with
  | none =>
    simp only [segment, reduceCtorEq, false_and, exists_false, iff_false]
    intro h
    exact hbar (List.mem_of_getLast? h)
  | some a =>
    rcases List.eq_nil_or_concat a.toList with hnil | ⟨front, last, hlast⟩
    · simp [segment, hnil, separator, argumentMark]
    · rw [List.concat_eq_append] at hlast
      simp [segment, hlast, List.getLast?_cons]

/-- **Tokens that can be told apart** are those whose segments are `CutParts`, found again by the
    cut. -/
theorem cutParts_segments_iff (hne : ts ≠ []) (hname : ∀ t ∈ ts, ProperName t) :
    CutParts separator (ts.map segment) ↔
      (∀ t ∈ ts, ∀ a, t.argument = some a → ¬ [separator, separator] <:+: a.toList) ∧
      ∀ t ∈ ts.dropLast, ∀ a, t.argument = some a → a.toList.getLast? ≠ some separator := by
  have hparts : CutParts separator (ts.map segment) ↔
      (∀ t ∈ ts, ¬ [separator, separator] <:+: segment t) ∧
      ∀ t ∈ ts.dropLast, (segment t).getLast? ≠ some separator := by
    constructor
    · rintro ⟨-, hpair, hhalf⟩
      rw [← List.map_dropLast] at hhalf
      exact ⟨fun t ht => hpair _ (List.mem_map_of_mem ht),
        fun t ht => hhalf _ (List.mem_map_of_mem ht)⟩
    · rintro ⟨hpair, hhalf⟩
      refine ⟨mt List.map_eq_nil_iff.1 hne, List.forall_mem_map.2 hpair, ?_⟩
      rw [← List.map_dropLast]
      exact List.forall_mem_map.2 hhalf
  rw [hparts]
  refine and_congr (forall₂_congr fun t ht => ?_) (forall₂_congr fun t ht => ?_)
  · rw [pair_infix_segment_iff (hname t ht)]
    simp
  · rw [Ne, getLast?_segment_iff (hname t (List.mem_of_mem_dropLast ht))]
    simp

/-! ## The way back -/

/-- Only no tokens at all are written by `render` as the empty text. -/
theorem render_ne_empty (hne : ts ≠ []) (hname : ∀ t ∈ ts, ProperName t) : render ts ≠ "" := by
  intro hempty
  have hnil := String.ofList_eq_empty_iff.1 hempty
  obtain ⟨t, rest, rfl⟩ := List.exists_cons_of_ne_nil hne
  have hfirst := (hname t List.mem_cons_self).1
  have hsegment : segment t = [] := by
    rw [List.map_cons] at hnil
    by_cases hrest : rest.map segment = []
    · rw [hrest] at hnil
      exact hnil
    · rw [join_cons hrest] at hnil
      exact (List.append_eq_nil_iff.1 hnil).1
  refine hfirst (String.toList_eq_nil_iff.1 ?_)
  cases hargument : t.argument with
  | none => simpa [segment, hargument] using hsegment
  | some a => simp [segment, hargument] at hsegment

theorem parseText_render (hname : ∀ t ∈ ts, ProperName t) (h : Separable ts) :
    parseText (render ts) = .ok ts := by
  by_cases hne : ts = []
  · obtain rfl := hne
    rfl
  · have hcut : splitOnPair separator (render ts).toList = ts.map segment := by
      rw [render, String.toList_ofList]
      exact splitOnPair_eq_iff.2 ⟨(cutParts_segments_iff hne hname).2 ⟨h.whole, h.closed⟩, rfl⟩
    have hread : readAll (ts.map segment) = .ok ts := by
      rw [readAll_eq_ok_iff, List.forall₂_map_left_iff, List.forall₂_same]
      exact fun t ht => readChars?_segment (hname t ht) (h.filled t ht)
    have hfull : (render ts).isEmpty = false := by
      simpa using render_ne_empty hne hname
    simp only [parseText, hfull, Bool.false_eq_true, if_false, hcut, hread]

/-- A token with an argument is written as its `name`, the mark and the argument `raw`. -/
theorem render_argument (name raw : String) :
    render [⟨name, some raw⟩] = name ++ ":" ++ raw := by
  rw [← String.toList_inj, render, String.toList_ofList, String.toList_append,
    String.toList_append, List.append_assoc]
  rfl

/-- It is read back by itself, if there is anything in its argument `raw` and no separator. -/
theorem parse_argument {name raw : String} (hname : ProperName ⟨name, none⟩) (hne : raw ≠ "")
    (hpair : ¬ [separator, separator] <:+: raw.toList) :
    parse (some (name ++ ":" ++ raw)) = .ok [⟨name, some raw⟩] := by
  have hproper : ProperName ⟨name, some raw⟩ := hname
  have hseparable : Separable [⟨name, some raw⟩] := by
    constructor
    · simpa using hne
    · intro t ht a ha
      obtain rfl := List.mem_singleton.1 ht
      obtain rfl := Option.some.inj ha
      exact hpair
    · intro t ht
      cases ht
  rw [← render_argument]
  exact parseText_render (by simpa using hproper) hseparable

/-- What is read from the parts `segs` of a text has proper names, and can be written. -/
theorem of_readAll (hparts : CutParts separator segs) (h : readAll segs = .ok ts) :
    (∀ t ∈ ts, ProperName t) ∧ Separable ts := by
  have hread := readAll_eq_ok_iff.1 h
  have hfront : List.Forall₂ (fun seg t => readChars? seg = some t) segs.dropLast ts.dropLast := by
    rw [List.dropLast_eq_take, List.dropLast_eq_take, hread.length_eq]
    exact List.forall₂_take _ hread
  refine ⟨?_, ?_, ?_, ?_⟩
  · intro t ht
    obtain ⟨seg, -, hseg⟩ := exists_left_of_mem hread ht
    exact (of_readChars? hseg).1
  · intro t ht
    obtain ⟨seg, -, hseg⟩ := exists_left_of_mem hread ht
    exact (of_readChars? hseg).2.1
  · intro t ht a ha hpair
    obtain ⟨seg, hmem, hseg⟩ := exists_left_of_mem hread ht
    obtain ⟨front, rfl⟩ := (of_readChars? hseg).2.2 a ha
    exact hparts.no_pair _ hmem (hpair.trans (List.suffix_append _ _).isInfix)
  · intro t ht a ha hhalf
    obtain ⟨seg, hmem, hseg⟩ := exists_left_of_mem hfront ht
    obtain ⟨front, rfl⟩ := (of_readChars? hseg).2.2 a ha
    refine hparts.no_half _ hmem ?_
    rw [List.getLast?_append, hhalf]
    rfl

/-- What is read from any text by `parse` has proper names, and can be written. -/
theorem of_parse {rules : Option String} (h : parse rules = .ok ts) :
    (∀ t ∈ ts, ProperName t) ∧ Separable ts := by
  have hnone : (∀ t ∈ ([] : List Token), ProperName t) ∧ Separable [] :=
    ⟨by simp, by simp, by simp, by simp⟩
  cases rules with
  | none =>
    cases h
    exact hnone
  | some text =>
    by_cases hempty : text = ""
    · subst hempty
      cases h
      exact hnone
    · rw [parse_eq_ok_iff hempty, ← readAll_eq_ok_iff] at h
      exact of_readAll (cutParts_splitOnPair _ _) h

/-- **Rule texts are read back as they were written**: tokens `ts` with proper names come back from
    `render` exactly if they are `Separable`, and the tokens of every text that is read are. -/
theorem rule_texts_round_trip :
    (∀ ts, (∀ t ∈ ts, ProperName t) → (parse (some (render ts)) = .ok ts ↔ Separable ts)) ∧
    ∀ rules ts, parse rules = .ok ts →
      (∀ t ∈ ts, ProperName t) ∧ Separable ts ∧ parse (some (render ts)) = .ok ts := by
  constructor
  · intro ts hname
    constructor
    · intro hback
      exact (of_parse hback).2
    · intro h
      exact parseText_render hname h
  · intro rules ts hread
    obtain ⟨hname, h⟩ := of_parse hread
    exact ⟨hname, h, parseText_render hname h⟩

/-- Bars and marks at the front of an argument, in it, and at the very end of the text. -/
def barredTokens : List Token := [⟨"only", some "|a|:b"⟩, ⟨"trim", none⟩, ⟨"only", some ":|"⟩]

/-- A bar at the end of an argument, with a token behind it. -/
def swallowedBar : List Token := [⟨"only", some "a|"⟩, ⟨"trim", none⟩]

/-- The bars of `barredTokens` come back; the bar of `swallowedBar` goes over to the token behind
    it. -/
theorem round_trip_of_bars :
    Separable barredTokens ∧ render barredTokens = "only:|a|:b||trim||only::|" ∧
      parse (some (render barredTokens)) = .ok barredTokens ∧
    (∀ t ∈ swallowedBar, ProperName t) ∧ ¬ Separable swallowedBar ∧
      parse (some (render swallowedBar)) =
        .error ⟨some "|trim", .malformedName "only:a|||trim"⟩ := by
  have hread : parse (some "only:|a|:b||trim||only::|") = .ok barredTokens := by decide +kernel
  have hname : ∀ t ∈ swallowedBar, ProperName t := by decide +kernel
  have hswallowed : parse (some (render swallowedBar)) =
      .error ⟨some "|trim", .malformedName "only:a|||trim"⟩ := by
    decide +kernel
  obtain ⟨-, hsep, hback⟩ := rule_texts_round_trip.2 _ _ hread
  refine ⟨hsep, by decide +kernel, hback, hname, ?_, hswallowed⟩
  rw [← rule_texts_round_trip.1 _ hname, hswallowed]
  exact fun h => nomatch h

end Token

end Rulebook
