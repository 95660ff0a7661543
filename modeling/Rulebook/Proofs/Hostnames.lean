/-
  The language of host names.

      host-1.example.org       labels between dots
      host-1.example.org.      the same, and a dot behind the last label
      10.0.0.1      ::1        addresses

  A label has one to 63 letters, digits and hyphens, and no hyphen at either end.  The name has 255
  characters at most, its dots counted.

  The text is cut into labels first, and then each label is matched by itself.  So the line feed
  that does not count is not the one behind the text: there may be one behind every label.

      a↵.b        accepted
      a↵.b↵.      accepted
      a.b.↵       refused: the last label is a line feed and nothing else

  1. `HostLabel`, `Dotted`, `HostName`: the language, for any language of labels;
  2. `isLabel_iff`: one label;
  3. `exists_last_label`, `dropFinalDot_of_labels`: the end of a text with dots;
  4. `dotted_iff`: the labels that are looked at are the labels the text is made of;
  5. `isHostname_iff`, `hostName_iff_no_lineFeed`: the recogniser, and what it takes beyond names;
  6. `hostname_language`: fields with this rule.

  The crux is 4.  The final dot is dropped by a look at the last character alone; that this is the
  dot behind the labels, and not one of a label, needs that labels are filled and have no dots.
-/
import Rulebook.Proofs.Formats

namespace Rulebook.Net

open Rulebook.Text

variable {P : List Char → Prop} {cs : List Char} {labels : List (List Char)} {c : Char}

/-! ## Names -/

def HostLabelChar (c : Char) : Prop := AsciiLetter c ∨ AsciiDigit c ∨ c = '-'

instance : DecidablePred HostLabelChar := fun _ => inferInstanceAs (Decidable (_ ∨ _))

/-- A label: `HostLabelChar` throughout, with an ASCII letter or digit at either end, 63 characters
    at most. -/
structure HostLabel (cs : List Char) : Prop where
  filled : 1 ≤ cs.length
  short : cs.length ≤ 63
  chars : ∀ c ∈ cs, HostLabelChar c
  front : cs.head? ≠ some '-'
  back : cs.getLast? ≠ some '-'

/-- Labels of the language `P` between dots, and perhaps one dot more at the end. -/
def Dotted (P : List Char → Prop) (cs : List Char) : Prop :=
  ∃ labels, labels ≠ [] ∧ (∀ label ∈ labels, P label) ∧
    (cs = ['.'].intercalate labels ∨ cs = ['.'].intercalate labels ++ ['.'])

/-- A name of 255 characters at most that is made of labels of the language `P`. -/
def HostName (P : List Char → Prop) (cs : List Char) : Prop := cs.length ≤ 255 ∧ Dotted P cs

/-! ## Labels -/

theorem isLabelChar_iff : isLabelChar c = true ↔ HostLabelChar c := by
  simp [isLabelChar, HostLabelChar, isAsciiAlphanumeric_iff, or_assoc]

/-- Neither the dot nor the line feed is a `HostLabelChar`. -/
theorem HostLabelChar.ne (h : HostLabelChar c) : c ≠ '.' ∧ c ≠ '\n' := by
  constructor
  · rintro rfl
    exact absurd h (by decide)
  · rintro rfl
    exact absurd h (by decide)

theorem HostLabel.not_mem_lineFeed (h : HostLabel cs) : '\n' ∉ cs :=
  fun hmem => (h.chars _ hmem).ne.2 rfl

theorem isLabel_iff : isLabel cs = true ↔ UpToLineEnd HostLabel cs := by
  rw [← dropLineEnd_iff fun cs => HostLabel.not_mem_lineFeed]
  simp only [isLabel, Bool.and_eq_true, Bool.not_eq_true', List.isEmpty_eq_false_iff,
    decide_eq_true_eq, List.all_eq_true, isLabelChar_iff, bne_iff_ne, ← List.length_pos_iff]
  constructor
  · rintro ⟨⟨⟨⟨hfilled, hshort⟩, hchars⟩, hfront⟩, hback⟩
    exact ⟨hfilled, hshort, hchars, hfront, hback⟩
  · rintro ⟨hfilled, hshort, hchars, hfront, hback⟩
    exact ⟨⟨⟨⟨hfilled, hshort⟩, hchars⟩, hfront⟩, hback⟩

/-- With or without a line feed, a label `cs` is filled and has no dots. -/
theorem filled_without_dots (h : UpToLineEnd HostLabel cs) : cs ≠ [] ∧ '.' ∉ cs := by
  rcases h with h | ⟨front, rfl, h⟩
  · exact ⟨List.ne_nil_of_length_pos h.filled, fun hmem => (h.chars _ hmem).ne.1 rfl⟩
  · refine ⟨by simp, ?_⟩
    intro hmem
    rcases List.mem_append.1 hmem with hmem | hmem
    · exact (h.chars _ hmem).ne.1 rfl
    · exact absurd (List.mem_singleton.1 hmem) (by decide)

/-! ## Texts with dots -/

/-- What is put together from `labels` ends as the last of them does. -/
theorem exists_last_label (sep : Char) (hne : labels ≠ []) :
    ∃ front, ∃ label ∈ labels, [sep].intercalate labels = front ++ label := by
  induction labels with
  | nil => exact absurd rfl hne
  | cons first labels ih =>
    by_cases hrest : labels = []
    · obtain rfl := hrest
      exact ⟨[], first, List.mem_singleton_self first, by simp⟩
    · obtain ⟨front, label, hlabel, hend⟩ := ih hrest
      refine ⟨first ++ [sep] ++ front, label, List.mem_cons_of_mem first hlabel, ?_⟩
      rw [List.intercalate_cons_of_ne_nil hrest, hend]
      simp

theorem dropFinalDot_cases (cs : List Char) :
    cs = dropFinalDot cs ∨ cs = dropFinalDot cs ++ ['.'] := by
  by_cases hlast : cs.getLast? = some '.'
  · obtain ⟨front, rfl⟩ := List.getLast?_eq_some_iff.1 hlast
    exact .inr (by simp [dropFinalDot])
  · exact .inl (by rw [dropFinalDot, if_neg hlast])

/-- The dot that `dropFinalDot` drops is the one behind the `labels`. -/
theorem dropFinalDot_of_labels (hne : labels ≠ [])
    (hlabels : ∀ label ∈ labels, label ≠ [] ∧ '.' ∉ label)
    (hcs : cs = ['.'].intercalate labels ∨ cs = ['.'].intercalate labels ++ ['.']) :
    dropFinalDot cs = ['.'].intercalate labels := by
  rcases hcs with rfl | rfl
  · obtain ⟨front, label, hlabel, hend⟩ := exists_last_label '.' hne
    obtain ⟨hfilled, hdots⟩ := hlabels label hlabel
    have hlast : (['.'].intercalate labels).getLast? ≠ some '.' := by
      rw [hend, List.getLast?_append_of_ne_nil front hfilled]
      exact fun h => hdots (List.mem_of_getLast? h)
    rw [dropFinalDot, if_neg hlast]
  · simp [dropFinalDot]

/-- **The labels of a text**: it is made of labels of the language `P` exactly if the parts between
    its dots, one at the end not counted, belong to `P`. -/
theorem dotted_iff (hP : ∀ label, P label → label ≠ [] ∧ '.' ∉ label) :
    Dotted P cs ↔ ∀ label ∈ splitOn '.' (dropFinalDot cs), P label := by
  constructor
  · rintro ⟨labels, hne, hlabels, hcs⟩
    have hdots : ∀ label ∈ labels, label ≠ [] ∧ '.' ∉ label :=
      fun label hlabel => hP label (hlabels label hlabel)
    have hparts : splitOn '.' (dropFinalDot cs) = labels :=
      splitOn_eq_iff.2 ⟨hne, fun label hlabel => (hdots label hlabel).2,
        (dropFinalDot_of_labels hne hdots hcs).symm⟩
    rwa [hparts]
  · intro h
    obtain ⟨hne, -, hjoined⟩ := splitOn_eq_iff.1 (Eq.refl (splitOn '.' (dropFinalDot cs)))
    refine ⟨_, hne, h, ?_⟩
    rw [hjoined]
    exact dropFinalDot_cases cs

/-! ## The recogniser -/

theorem isHostname_iff :
    isHostname cs = true ↔
      (∃ a, Address.read? cs = some a) ∨ HostName (UpToLineEnd HostLabel) cs := by
  simp only [isHostname, HostName, Bool.or_eq_true, Option.isSome_iff_exists, Bool.and_eq_true,
    decide_eq_true_eq, List.all_eq_true, isLabel_iff, dotted_iff fun _ => filled_without_dots]

/-- Names are what is left of the texts accepted as names, when those with line feeds go. -/
theorem hostName_iff_no_lineFeed :
    HostName HostLabel cs ↔ HostName (UpToLineEnd HostLabel) cs ∧ '\n' ∉ cs := by
  have hmem (labels : List (List Char))
      (hcs : cs = ['.'].intercalate labels ∨ cs = ['.'].intercalate labels ++ ['.']) :
      '\n' ∈ cs ↔ ∃ label ∈ labels, '\n' ∈ label := by
    rw [← mem_intercalate_iff (by decide : '\n' ≠ '.')]
    rcases hcs with rfl | rfl <;> simp
  constructor
  · rintro ⟨hlong, labels, hne, hlabels, hcs⟩
    refine ⟨⟨hlong, labels, hne, fun label hlabel => .inl (hlabels label hlabel), hcs⟩, ?_⟩
    rw [hmem labels hcs]
    rintro ⟨label, hlabel, hfeed⟩
    exact (hlabels label hlabel).not_mem_lineFeed hfeed
  · rintro ⟨⟨hlong, labels, hne, hlabels, hcs⟩, hnot⟩
    refine ⟨hlong, labels, hne, ?_, hcs⟩
    intro label hlabel
    rcases hlabels label hlabel with h | ⟨front, rfl, -⟩
    · exact h
    · exact absurd ((hmem labels hcs).2 ⟨_, hlabel, by simp⟩) hnot

/-- **The language of host names.** A text field with the rule `hostname` accepts the addresses and
    the texts `s` of 255 characters at most that are made of labels between dots, each with or
    without a line feed behind it (`UpToLineEnd HostLabel`).  So it accepts exactly the addresses
    and the names, but for the texts of the second kind that have a line feed and are no addresses.
    What it does not accept is reported. -/
theorem hostname_language (label : String) {s : String} (hs : s ≠ "") :
    ∃ v, Validator.build .standard (some "hostname") "string" = .ok v ∧
      (v.judge label (.text s) = .ok none ↔
        (∃ a, Address.read? s.toList = some a) ∨ HostName (UpToLineEnd HostLabel) s.toList) ∧
      ((v.judge label (.text s) = .ok none ↔
          (∃ a, Address.read? s.toList = some a) ∨ HostName HostLabel s.toList) ↔
        ('\n' ∈ s.toList → HostName (UpToLineEnd HostLabel) s.toList →
          ∃ a, Address.read? s.toList = some a)) ∧
      (v.judge label (.text s) ≠ .ok none →
        v.judge label (.text s) =
          .ok (some ⟨"string.hostname", labelled label "must be a valid hostname"⟩)) := by
  have haccepts :
      (Validator.ofRules .text [.ofText (.form .hostname)]).judge label (.text s) = .ok none ↔
        (∃ a, Address.read? s.toList = some a) ∨ HostName (UpToLineEnd HostLabel) s.toList := by
    rw [Validator.judge_form_eq_none_iff hs, TextForm.holds, Except.ok.injEq, isHostname_iff]
  refine ⟨_, Validator.build_form .hostname, haccepts, ?_, ?_⟩
  · rw [haccepts, hostName_iff_no_lineFeed]
    constructor
    · intro hexact hfeed hname
      rcases hexact.1 (.inr hname) with haddress | ⟨-, hnot⟩
      · exact haddress
      · exact absurd hfeed hnot
    · intro h
      constructor
      · rintro (haddress | hname)
        · exact .inl haddress
        · by_cases hfeed : '\n' ∈ s.toList
          · exact .inl (h hfeed hname)
          · exact .inr ⟨hname, hfeed⟩
      · exact Or.imp_right And.left
  · exact Validator.judge_form_eq_violation hs ⟨_, rfl⟩

/-- Three labels with a dot behind them, one with hyphens inside: a name, and no address. -/
theorem hostname_of_labels :
    ∃ v, Validator.build .standard (some "hostname") "string" = .ok v ∧
      v.judge "Host" (.text "x--1.example.org.") = .ok none ∧
      HostName HostLabel "x--1.example.org.".toList := by
  obtain ⟨v, hbuild, -, hexact, -⟩ :=
    hostname_language "Host" (s := "x--1.example.org.") (by decide)
  have hv := Except.ok.inj (hbuild.symm.trans (Validator.build_form .hostname))
  have hjudge : v.judge "Host" (.text "x--1.example.org.") = .ok none := by
    rw [hv]
    decide +kernel
  have hnone : Address.read? "x--1.example.org.".toList = none := by decide +kernel
  refine ⟨v, hbuild, hjudge, ?_⟩
  rcases (hexact.2 fun hfeed => absurd hfeed (by decide +kernel)).1 hjudge with ⟨a, ha⟩ | hname
  · rw [hnone] at ha
    cases ha
  · exact hname

/-- A line feed between a label and its dot: accepted, though it is no name and no address. -/
theorem hostname_with_line :
    Validator.build .standard (some "hostname") "string" =
        .ok (Validator.ofRules .text [.ofText (.form .hostname)]) ∧
      (Validator.ofRules .text [.ofText (.form .hostname)]).judge "value" (.text "a\n.b") =
        .ok none ∧
      Address.read? "a\n.b".toList = none ∧
      ¬ HostName HostLabel "a\n.b".toList := by
  refine ⟨Validator.build_form .hostname, by decide +kernel, by decide +kernel, ?_⟩
  rw [hostName_iff_no_lineFeed]
  exact fun h => h.2 (by decide)

end Rulebook.Net
