/-
  The languages of the forms that go by characters.

      alphanum    letters and digits
      token       letters, digits and the underscore
      hex         hexadecimal digits
      email       mailbox @ left . top       top: two letters or more, and no dot in it

  A rule accepts its language, and one thing more: a text of the language with a line feed behind
  it.

      abc        accepted
      abc↵       accepted, though the line feed is neither letter nor digit
      abc↵↵      refused
      ↵          refused

  1. `UpToLineEnd`, `dropLineEnd_iff`: what becomes of a language when a line feed at the end does
     not count;
  2. `AsciiLetter`, `MailAddress`, …, `Language`: the languages, by characters;
  3. `isAllOf_iff`, `isMailDomain_iff`, `isEmail_iff`: the recognisers, one by one;
  4. `holds_iff_language`: all of them;
  5. `format_language`: fields with one of these rules.

  The crux is in `isEmail_iff`.  The dots of a domain may stand anywhere, so what counts is the last
  of them; the text is read from behind for it.
-/
import Mathlib.Data.List.TakeWhile
import Rulebook.Proofs.SingleCheck
import Rulebook.Proofs.Splitting

namespace Rulebook

open Rulebook.Text

namespace Text

variable {P Q : List Char → Prop} {cs front left top : List Char} {c : Char}

/-! ## A line feed at the end -/

/-- The text `cs` is in the language `P`, or it is one of the language with a line feed behind
    it. -/
def UpToLineEnd (P : List Char → Prop) (cs : List Char) : Prop :=
  P cs ∨ ∃ front, cs = front ++ ['\n'] ∧ P front

/-- What `dropLineEnd` leaves is in a language `P`, in which no text ends in a line feed. -/
theorem dropLineEnd_iff (hP : ∀ cs, P cs → '\n' ∉ cs) : P (dropLineEnd cs) ↔ UpToLineEnd P cs := by
  by_cases hlast : cs.getLast? = some '\n'
  · obtain ⟨front, rfl⟩ := List.getLast?_eq_some_iff.1 hlast
    have hnot : ¬ P (front ++ ['\n']) := fun h => hP _ h (by simp)
    have hdrop : dropLineEnd (front ++ ['\n']) = front := by simp [dropLineEnd]
    simp [UpToLineEnd, hnot, hdrop]
  · have hnone : ¬ ∃ front, cs = front ++ ['\n'] ∧ P front := by
      rintro ⟨front, rfl, -⟩
      simp at hlast
    rw [dropLineEnd_eq_self hlast, UpToLineEnd, or_iff_left hnone]

/-- The line feed makes a difference exactly where one stands behind a text of the language `P`. -/
theorem upToLineEnd_eq_iff (hP : ∀ cs, P cs → '\n' ∉ cs) :
    (UpToLineEnd P cs ↔ P cs) ↔ ∀ front, cs = front ++ ['\n'] → ¬ P front := by
  constructor
  · rintro h front rfl hfront
    exact hP _ (h.1 (.inr ⟨front, rfl, hfront⟩)) (by simp)
  · intro h
    refine or_iff_left ?_
    rintro ⟨front, hcs, hfront⟩
    exact h front hcs hfront

/-! ## Characters -/

def AsciiLetter (c : Char) : Prop := ('A' ≤ c ∧ c ≤ 'Z') ∨ ('a' ≤ c ∧ c ≤ 'z')

def AsciiDigit (c : Char) : Prop := '0' ≤ c ∧ c ≤ '9'

def HexDigit (c : Char) : Prop := AsciiDigit c ∨ ('A' ≤ c ∧ c ≤ 'F') ∨ ('a' ≤ c ∧ c ≤ 'f')

/-- What stands in a mailbox. -/
def MailboxChar (c : Char) : Prop :=
  AsciiLetter c ∨ AsciiDigit c ∨ c = '.' ∨ c = '_' ∨ c = '%' ∨ c = '+' ∨ c = '-'

/-- What stands in a domain. -/
def DomainChar (c : Char) : Prop := AsciiLetter c ∨ AsciiDigit c ∨ c = '.' ∨ c = '-'

instance : DecidablePred AsciiLetter := fun _ => inferInstanceAs (Decidable (_ ∨ _))

instance : DecidablePred AsciiDigit := fun _ => inferInstanceAs (Decidable (_ ∧ _))

instance : DecidablePred HexDigit := fun _ => inferInstanceAs (Decidable (_ ∨ _))

instance : DecidablePred MailboxChar := fun _ => inferInstanceAs (Decidable (_ ∨ _))

instance : DecidablePred DomainChar := fun _ => inferInstanceAs (Decidable (_ ∨ _))

theorem isAsciiLetter_iff : isAsciiLetter c = true ↔ AsciiLetter c := by
  simp [isAsciiLetter, AsciiLetter, or_comm]

theorem isAsciiAlphanumeric_iff : isAsciiAlphanumeric c = true ↔ AsciiLetter c ∨ AsciiDigit c := by
  simp [isAsciiAlphanumeric, isAsciiLetter_iff, AsciiDigit]

theorem isAsciiWord_iff : isAsciiWord c = true ↔ (AsciiLetter c ∨ AsciiDigit c) ∨ c = '_' := by
  simp [isAsciiWord, isAsciiAlphanumeric_iff]

theorem isHexDigit_iff : isHexDigit c = true ↔ HexDigit c := by
  unfold isHexDigit hexValue? HexDigit AsciiDigit
  split
  · simp [*]
  · split
    · simp [*]
    · split <;> simp [*]

theorem isMailboxChar_iff : isMailboxChar c = true ↔ MailboxChar c := by
  simp [isMailboxChar, MailboxChar, isAsciiAlphanumeric_iff, or_assoc]

theorem isDomainChar_iff : isDomainChar c = true ↔ DomainChar c := by
  simp [isDomainChar, DomainChar, isAsciiAlphanumeric_iff, or_assoc]

/-! ## Languages -/

/-- Characters that a class `accepts`, and at least one. -/
def Over (accepts : Char → Prop) (cs : List Char) : Prop := cs ≠ [] ∧ ∀ c ∈ cs, accepts c

/-- A domain that ends in a name of two letters or more behind its last dot. -/
inductive MailDomain : List Char → Prop
  | mk {left top : List Char} :
    left ≠ [] → '.' ∉ top → 2 ≤ top.length → (∀ c ∈ top, AsciiLetter c) →
    (∀ c ∈ left ++ '.' :: top, DomainChar c) → MailDomain (left ++ '.' :: top)

/-- One at sign, a mailbox before and a domain behind it. -/
inductive MailAddress : List Char → Prop
  | mk {mailbox domain : List Char} :
    '@' ∉ mailbox → '@' ∉ domain → Over MailboxChar mailbox → MailDomain domain →
      MailAddress (mailbox ++ '@' :: domain)

theorem isAllOf_iff {p : Char → Bool} {accepts : Char → Prop}
    (hp : ∀ c, p c = true ↔ accepts c) : isAllOf p cs = true ↔ Over accepts (dropLineEnd cs) := by
  simp [isAllOf, Over, hp]

/-- A text `cs` with a dot in it has a last one, behind which there is `top`. -/
theorem exists_last_dot (h : '.' ∈ cs) : ∃ left top, cs = left ++ '.' :: top ∧ '.' ∉ top := by
  obtain ⟨before, behind, hsplit, hfirst⟩ := List.eq_append_cons_of_mem (List.mem_reverse.2 h)
  refine ⟨behind.reverse, before.reverse, ?_, by simpa using hfirst⟩
  rw [← List.reverse_reverse cs, hsplit]
  simp

/-- Read from behind, a run `cs` without dots goes on to its front. -/
theorem reverse_run (h : '.' ∉ cs) : ∀ c ∈ cs.reverse, (c != '.') = true := by
  intro c hc
  rw [bne_iff_ne]
  rintro rfl
  exact h (List.mem_reverse.1 hc)

/-- The two halves of a domain, `left` and `top`, as they are read from behind. -/
theorem isMailDomain_append (htop : '.' ∉ top) :
    isMailDomain (left ++ '.' :: top) = true ↔
      left ≠ [] ∧ 2 ≤ top.length ∧ (∀ c ∈ top, AsciiLetter c) ∧ ∀ c ∈ left, DomainChar c := by
  have hrun := reverse_run htop
  have htake : ((left ++ '.' :: top).reverse).takeWhile (· != '.') = top.reverse := by
    simp [List.takeWhile_append_of_pos hrun]
  have hdrop : ((left ++ '.' :: top).reverse).dropWhile (· != '.') = '.' :: left.reverse := by
    simp [List.dropWhile_append_of_pos hrun]
  simp only [isMailDomain, htake, hdrop, Bool.and_eq_true, decide_eq_true_eq, Bool.not_eq_true',
    List.isEmpty_eq_false_iff, List.all_eq_true, List.length_reverse, List.mem_reverse,
    List.reverse_eq_nil_iff, isAsciiLetter_iff, isDomainChar_iff, ne_eq]
  tauto

theorem isMailDomain_iff : isMailDomain cs = true ↔ MailDomain cs := by
  constructor
  · intro h
    have hdot : '.' ∈ cs := by
      by_contra hnone
      have hdrop : cs.reverse.dropWhile (· != '.') = [] :=
        List.dropWhile_eq_nil_iff.2 (reverse_run hnone)
      simp [isMailDomain, hdrop] at h
    obtain ⟨left, top, rfl, htop⟩ := exists_last_dot hdot
    obtain ⟨hleft, hlong, hletters, hdomain⟩ := (isMailDomain_append htop).1 h
    refine .mk hleft htop hlong hletters ?_
    simp only [List.mem_append, List.mem_cons]
    rintro c (hc | rfl | hc)
    · exact hdomain c hc
    · exact .inr (.inr (.inl rfl))
    · exact .inl (hletters c hc)
  · rintro ⟨hleft, htop, hlong, hletters, hdomain⟩
    refine (isMailDomain_append htop).2 ⟨hleft, hlong, hletters, ?_⟩
    exact fun c hc => hdomain c (List.mem_append_left _ hc)

/-- The at sign is no `DomainChar` (and no `MailboxChar`). -/
theorem not_at_of_domainChar (h : DomainChar c) : c ≠ '@' := by
  rintro rfl
  exact absurd h (by decide)

theorem isEmail_iff : isEmail cs = true ↔ MailAddress (dropLineEnd cs) := by
  unfold isEmail
  rcases hcut : cut '@' (dropLineEnd cs) with ⟨mailbox, _ | domain⟩
  · -- no at sign
    obtain ⟨-, hnone⟩ := cut_eq_none_iff.1 hcut
    simp only [Bool.false_eq_true, false_iff]
    intro h
    generalize dropLineEnd cs = ds at hnone h
    cases h with
    | mk => exact hnone (by simp)
  · obtain ⟨hsplit, hfirst⟩ := cut_eq_some_iff.1 hcut
    simp only [Bool.and_eq_true, Bool.not_eq_true', List.isEmpty_eq_false_iff, List.all_eq_true,
      isMailboxChar_iff, isMailDomain_iff]
    constructor
    · rintro ⟨⟨hfilled, hmailbox⟩, hdomain⟩
      rw [hsplit]
      refine .mk hfirst ?_ ⟨hfilled, hmailbox⟩ hdomain
      intro hat
      cases hdomain with
      | mk _ _ _ _ hchars => exact not_at_of_domainChar (hchars _ hat) rfl
    · intro h
      generalize hds : dropLineEnd cs = ds at hsplit h
      cases h with
      | mk hat _ hmailbox hdomain =>
        -- the first at sign is the only one
        have hsame := (cut_eq_some_iff.2 ⟨rfl, hat⟩).symm.trans (cut_eq_some_iff.2 ⟨hsplit, hfirst⟩)
        obtain ⟨rfl, hbehind⟩ := Prod.mk.inj hsame
        obtain rfl := Option.some.inj hbehind
        exact ⟨hmailbox, hdomain⟩

end Text

namespace TextForm

variable {f : TextForm} {cs : List Char}

/-! ## The four forms -/

/-- The texts that a form is meant for, if it goes by characters. -/
inductive Language : TextForm → List Char → Prop
  | alphanum {cs : List Char} :
    Over (fun c => AsciiLetter c ∨ AsciiDigit c) cs → Language .alphanum cs
  | token {cs : List Char} :
    Over (fun c => (AsciiLetter c ∨ AsciiDigit c) ∨ c = '_') cs → Language .token cs
  | hex {cs : List Char} : Over HexDigit cs → Language .hex cs
  | email {cs : List Char} : MailAddress cs → Language .email cs

/-- The forms that go by characters. -/
def byCharacters : List TextForm := [.alphanum, .token, .hex, .email]

/-- No class has the line feed, and no mail address has one either, so no `Language` has. -/
theorem not_mem_lineFeed (h : Language f cs) : '\n' ∉ cs := by
  intro hmem
  cases h with
  | alphanum hover => exact absurd (hover.2 _ hmem) (by decide)
  | token hover => exact absurd (hover.2 _ hmem) (by decide)
  | hex hover => exact absurd (hover.2 _ hmem) (by decide)
  | email haddress =>
    obtain ⟨-, -, hmailbox, hdomain⟩ := haddress
    rcases List.mem_append.1 hmem with hmem | hmem
    · exact absurd (hmailbox.2 _ hmem) (by decide)
    · obtain hmem := List.mem_of_ne_of_mem (by decide) hmem
      cases hdomain with
      | mk _ _ _ _ hchars => exact absurd (hchars _ hmem) (by decide)

/-- **The recognisers**: a form `f` holds of a text `cs` of its `Language`, up to a line feed at
    the end. -/
theorem holds_iff_language (hf : f ∈ byCharacters) :
    f.holds cs = .ok true ↔ UpToLineEnd (Language f) cs := by
  rw [← dropLineEnd_iff fun cs => not_mem_lineFeed]
  simp only [byCharacters, List.mem_cons, List.not_mem_nil, or_false] at hf
  rcases hf with rfl | rfl | rfl | rfl
  · rw [holds, Except.ok.injEq, isAllOf_iff fun c => isAsciiAlphanumeric_iff]
    exact ⟨.alphanum, fun | .alphanum h => h⟩
  · rw [holds, Except.ok.injEq, isAllOf_iff fun c => isAsciiWord_iff]
    exact ⟨.token, fun | .token h => h⟩
  · rw [holds, Except.ok.injEq, isAllOf_iff fun c => isHexDigit_iff]
    exact ⟨.hex, fun | .hex h => h⟩
  · rw [holds, Except.ok.injEq, isEmail_iff]
    exact ⟨.email, fun | .email h => h⟩

/-- The forms `byCharacters` have an answer for every text. -/
theorem holds_isOk (hf : f ∈ byCharacters) (cs : List Char) : ∃ b, f.holds cs = .ok b := by
  simp only [byCharacters, List.mem_cons, List.not_mem_nil, or_false] at hf
  rcases hf with rfl | rfl | rfl | rfl <;> exact ⟨_, rfl⟩

/-- **The languages of the forms.** A text field with one of the four rules `f` accepts the texts
    `s` of its `Language` and those with one line feed behind them.  So it accepts exactly its
    language, but for the texts of the second kind.  What it does not accept is reported under its
    name. -/
theorem format_language (hf : f ∈ byCharacters) (label : String) {s : String} (hs : s ≠ "") :
    ∃ v, Validator.build .standard (some f.name) "string" = .ok v ∧
      (v.judge label (.text s) = .ok none ↔
        Language f s.toList ∨ ∃ front, s.toList = front ++ ['\n'] ∧ Language f front) ∧
      ((v.judge label (.text s) = .ok none ↔ Language f s.toList) ↔
        ∀ front, s.toList = front ++ ['\n'] → ¬ Language f front) ∧
      (v.judge label (.text s) ≠ .ok none →
        v.judge label (.text s) =
          .ok (some ⟨"string." ++ f.name, labelled label f.demand⟩)) := by
  have haccepts : (Validator.ofRules .text [.ofText (.form f)]).judge label (.text s) = .ok none ↔
      UpToLineEnd (Language f) s.toList := by
    rw [Validator.judge_form_eq_none_iff hs, holds_iff_language hf]
  refine ⟨_, Validator.build_form f, haccepts, ?_, ?_⟩
  · rw [haccepts]
    exact upToLineEnd_eq_iff fun cs => not_mem_lineFeed
  · exact Validator.judge_form_eq_violation hs (holds_isOk hf s.toList)

/-- An address whose domain has several dots and hyphens; the name behind the last dot has three
    letters. -/
theorem format_of_address :
    ∃ v, Validator.build .standard (some "email") "string" = .ok v ∧
      v.judge "Mail" (.text "a.b%c@x-1..y.org") = .ok none ∧
      Language .email "a.b%c@x-1..y.org".toList := by
  obtain ⟨v, hbuild, -, hexact, -⟩ :=
    format_language (f := .email) (by decide) "Mail" (s := "a.b%c@x-1..y.org") (by decide)
  have hv := Except.ok.inj (hbuild.symm.trans (Validator.build_form .email))
  have hjudge : v.judge "Mail" (.text "a.b%c@x-1..y.org") = .ok none := by
    rw [hv]
    decide +kernel
  refine ⟨v, hbuild, hjudge, (hexact.2 ?_).1 hjudge⟩
  intro front hfront
  have hlast : "a.b%c@x-1..y.org".toList.getLast? = some '\n' := by
    rw [hfront, List.getLast?_concat]
  exact absurd hlast (by decide +kernel)

/-- Three letters and a line feed: accepted, though not all are letters or digits. -/
theorem format_of_line :
    Validator.build .standard (some "alphanum") "string" =
        .ok (Validator.ofRules .text [.ofText (.form .alphanum)]) ∧
      (Validator.ofRules .text [.ofText (.form .alphanum)]).judge "value" (.text "abc\n") =
        .ok none ∧
      ¬ Language .alphanum "abc\n".toList :=
  ⟨Validator.build_form .alphanum, by decide +kernel, fun h => not_mem_lineFeed h (by decide)⟩

end TextForm

end Rulebook
