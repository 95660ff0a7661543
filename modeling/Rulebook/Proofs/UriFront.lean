/-
  How an accepted URI begins.

      http://example.org        a scheme, a colon, and something behind it
      ␁http://example.org       accepted as well

  The text is searched for blanks as it is given, but it is taken apart only when it has been
  cleaned: what stands in front of the first character above the space is dropped.  Among the
  characters up to the space there are 23 that are no blanks; those may stand in front of a URI.

      0 … 8        control characters
      9 … 13       blanks
      14 … 27      control characters
      28 … 32      blanks

  1. `Control`, `BeginsWithScheme`: the characters that are dropped, and how a URI begins;
  2. `clean_eq_dropWhile`: without blanks, cleaning is dropping the front;
  3. `isUri_append`: a front of control characters makes no difference;
  4. `beginsWithScheme_of_split`: a text that is taken apart into a scheme and something more;
  5. `accepted_uri`: fields with this rule.

  The crux is 4.  The colon alone does not show that anything stands behind it: what shows it is
  that nothing would leave both the authority and the path empty.
-/
import Rulebook.Proofs.Formats

namespace Rulebook.Net.Uri

open Rulebook.Text

variable {cs front rest : List Char} {c : Char} {p : Parts}

/-! ## Fronts -/

/-- The character `c` is a control character of ASCII that is no blank. -/
def Control (c : Char) : Prop := c.toNat ≤ 8 ∨ (14 ≤ c.toNat ∧ c.toNat ≤ 27)

def SchemeChar (c : Char) : Prop :=
  AsciiLetter c ∨ AsciiDigit c ∨ c = '+' ∨ c = '-' ∨ c = '.'

/-- A scheme in front, its colon, and at least one character behind that. -/
inductive BeginsWithScheme : List Char → Prop
  | mk {first next : Char} {scheme more : List Char} :
    AsciiLetter first → (∀ c ∈ scheme, SchemeChar c) →
      BeginsWithScheme (first :: (scheme ++ ':' :: next :: more))

/-- What is dropped in front is a blank or a `Control` character. -/
theorem control_iff : Control c ↔ isControlOrSpace c = true ∧ isBlank c = false := by
  simp only [Control, isControlOrSpace, isBlank, decide_eq_true_eq, Bool.or_eq_false_iff,
    Bool.and_eq_false_iff, decide_eq_false_iff_not, beq_eq_false_iff_ne]
  omega

theorem isBlank_of_isLayout (h : isLayout c = true) : isBlank c = true := by
  simp only [isLayout, Bool.or_eq_true, beq_iff_eq] at h
  rcases h with (rfl | rfl) | rfl <;> rfl

theorem not_control_of_letter (h : AsciiLetter c) : ¬ Control c := by
  simp only [AsciiLetter, Char.le_def, UInt32.le_iff_toNat_le] at h
  change (65 ≤ c.toNat ∧ c.toNat ≤ 90) ∨ (97 ≤ c.toNat ∧ c.toNat ≤ 122) at h
  simp only [Control]
  omega

/-! ## Cleaning -/

/-- Tabs and line ends are blanks, so that from a text without blanks `clean` drops nothing but the
    front. -/
theorem clean_eq_dropWhile (h : ∀ c ∈ cs, isBlank c = false) :
    clean cs = cs.dropWhile isControlOrSpace := by
  rw [clean, List.filter_eq_self]
  intro c hc
  have hblank : isBlank c = false := h c ((List.dropWhile_suffix _).subset hc)
  cases hlayout : isLayout c with
  | false => rfl
  | true =>
    rw [isBlank_of_isLayout hlayout] at hblank
    cases hblank

/-- A text is taken apart as it is without a `front` of control characters. -/
theorem isUri_append (hfront : ∀ c ∈ front, Control c) : isUri (front ++ rest) = isUri rest := by
  have hblank : front.any isBlank = false := by
    rw [List.any_eq_false]
    intro c hc
    rw [(control_iff.1 (hfront c hc)).2]
    exact Bool.false_ne_true
  have hclean : clean (front ++ rest) = clean rest := by
    rw [clean, clean, List.dropWhile_append_of_pos fun c hc => (control_iff.1 (hfront c hc)).1]
  rw [isUri, isUri, List.any_append, hblank, Bool.false_or, split, split, hclean]

/-! ## Taking apart -/

theorem isSchemeChar_iff : isSchemeChar c = true ↔ SchemeChar c := by
  simp [isSchemeChar, SchemeChar, isAsciiAlphanumeric_iff, or_assoc]

theorem isScheme_cons_iff {first : Char} :
    isScheme (first :: cs) = true ↔ AsciiLetter first ∧ ∀ c ∈ cs, SchemeChar c := by
  simp [isScheme, isAsciiLetter_iff, isSchemeChar_iff]

/-- The scheme is what the cleaned text begins with, and where nothing stands behind its colon
    there is neither authority nor path. -/
theorem split_scheme (h : split cs = .ok p) :
    p.scheme = (splitScheme (clean cs)).1 ∧
      ((splitScheme (clean cs)).2 = [] → p.authority = [] ∧ p.path = []) := by
  rcases hscheme : splitScheme (clean cs) with ⟨scheme, behind⟩
  simp only [split, hscheme, bind, Except.bind] at h
  cases hauthority : splitAuthority behind with
  | error e =>
    rw [hauthority] at h
    cases h
  | ok r =>
    obtain ⟨authority, path⟩ := r
    rw [hauthority] at h
    cases hlook : checkLookalikes authority with
    | error e => simp [hlook] at h
    | ok u =>
      simp only [hlook, pure, Except.pure, Except.ok.injEq] at h
      subst h
      refine ⟨rfl, ?_⟩
      rintro rfl
      obtain ⟨rfl, rfl⟩ := Prod.mk.inj (Except.ok.inj hauthority)
      refine ⟨rfl, ?_⟩
      split <;> rfl

/-- A scheme that was found by `splitScheme` is a scheme in front of a colon. -/
theorem beginsWithScheme_of_split (hscheme : isScheme (splitScheme cs).1 = true)
    (hmore : (splitScheme cs).2 ≠ []) : BeginsWithScheme cs := by
  rcases hcut : cut ':' cs with ⟨scheme, _ | behind⟩
  · simp [splitScheme, hcut, isScheme] at hscheme
  · obtain ⟨rfl, -⟩ := cut_eq_some_iff.1 hcut
    by_cases hs : isScheme scheme = true
    · rw [splitScheme, hcut] at hmore
      simp only [hs, if_true] at hmore
      obtain ⟨next, more, rfl⟩ := List.exists_cons_of_ne_nil hmore
      cases scheme with
      | nil => cases hs
      | cons first scheme =>
        obtain ⟨hfirst, hchars⟩ := isScheme_cons_iff.1 hs
        exact .mk hfirst hchars
    · rw [splitScheme, hcut] at hscheme
      simp only [hs] at hscheme
      cases hscheme

/-! ## Acceptance -/

theorem isUri_eq_true_iff :
    isUri cs = .ok true ↔
      (∀ c ∈ cs, isBlank c = false) ∧
        ∃ p, split cs = .ok p ∧ isScheme p.scheme = true ∧ (p.authority ≠ [] ∨ p.path ≠ []) := by
  unfold isUri
  by_cases hblank : cs.any isBlank = true
  · have hnot : ¬ ∀ c ∈ cs, isBlank c = false := by simpa using hblank
    simp [hblank, hnot]
  · have hall : ∀ c ∈ cs, isBlank c = false := by simpa using hblank
    rw [if_neg hblank, and_iff_right hall]
    cases split cs with
    | error e => simp [bind, Except.bind]
    | ok p => simp [bind, Except.bind, pure, Except.pure, ← not_and_or]

/-- **How an accepted text begins**: with a scheme, once its front is dropped by
    `isControlOrSpace`. -/
theorem beginsWithScheme_dropWhile (h : isUri cs = .ok true) :
    BeginsWithScheme (cs.dropWhile isControlOrSpace) := by
  obtain ⟨hblank, p, hsplit, hscheme, hparts⟩ := isUri_eq_true_iff.1 h
  obtain ⟨hsame, hnothing⟩ := split_scheme hsplit
  rw [hsame, clean_eq_dropWhile hblank] at hscheme
  rw [clean_eq_dropWhile hblank] at hnothing
  refine beginsWithScheme_of_split hscheme ?_
  intro hbehind
  obtain ⟨hauthority, hpath⟩ := hnothing hbehind
  exact hparts.elim (fun h => h hauthority) fun h => h hpath

/-- The front counts: with a `Control` character there, the text `cs` itself does not begin with a
    scheme. -/
theorem beginsWithScheme_iff (h : isUri cs = .ok true) :
    BeginsWithScheme cs ↔ ∀ c, cs.head? = some c → ¬ Control c := by
  constructor
  · rintro ⟨hfirst, -⟩ c hc
    obtain rfl := Option.some.inj hc
    exact not_control_of_letter hfirst
  · intro hhead
    have hdrop := beginsWithScheme_dropWhile h
    cases cs with
    | nil => exact hdrop
    | cons first cs =>
      have hblank := (isUri_eq_true_iff.1 h).1 first List.mem_cons_self
      have hkept : ¬ isControlOrSpace first = true :=
        fun hcontrol => hhead first rfl (control_iff.2 ⟨hcontrol, hblank⟩)
      rwa [List.dropWhile_cons_of_neg hkept] at hdrop

/-- Where the `front` of control characters ends, an accepted text begins with its scheme, and it
    is accepted from there. -/
theorem exists_front (h : isUri cs = .ok true) :
    ∃ front rest, cs = front ++ rest ∧ (∀ c ∈ front, Control c) ∧ BeginsWithScheme rest ∧
      isUri rest = .ok true := by
  have hfront : ∀ c ∈ cs.takeWhile isControlOrSpace, Control c := by
    intro c hc
    refine control_iff.2 ⟨List.mem_takeWhile_imp hc, ?_⟩
    exact (isUri_eq_true_iff.1 h).1 c ((List.takeWhile_prefix _).subset hc)
  refine ⟨_, _, (List.takeWhile_append_dropWhile (p := isControlOrSpace)).symm, hfront,
    beginsWithScheme_dropWhile h, ?_⟩
  rw [← isUri_append hfront, List.takeWhile_append_dropWhile]
  exact h

/-! ## Fields -/

theorem apply_uri_eq_none_iff {label s : String} :
    (Check.text (.form .uri)).apply label (.text s) = .ok none ↔ isUri s.toList = .ok true := by
  simp only [Check.apply, TextCheck.apply, TextForm.holds]
  rcases isUri s.toList with e | _ | _ <;> simp

/-- An empty text is no URI either, so it makes no difference that no check is made of it. -/
theorem judge_uri_eq_none_iff {label s : String} :
    (Validator.ofRules .text [.ofText (.form .uri)]).judge label (.text s) = .ok none ↔
      isUri s.toList = .ok true := by
  by_cases hs : s = ""
  · subst hs
    rw [Rule.ofText, Validator.judge_check_empty]
    exact iff_of_false (by simp) (by decide)
  · rw [Rule.ofText, Validator.judge_check_text hs, apply_uri_eq_none_iff]

/-- **Accepted URIs.** The rule `uri` makes one check, and a text field with this rule alone
    accepts the text `s` exactly if the check does.  No such text has a blank.  It begins with a
    scheme exactly if no `Control` character stands in front; the `rest` behind all of those in the
    `front` begins with a scheme in any case, and is accepted itself. -/
theorem accepted_uri (label s : String) :
    Token.Means .text ⟨"uri", none⟩ (.check (.text (.form .uri))) ∧
    ∃ v, Validator.build .standard (some "uri") "string" = .ok v ∧
      (v.judge label (.text s) = .ok none ↔
        (Check.text (.form .uri)).apply label (.text s) = .ok none) ∧
      (v.judge label (.text s) = .ok none →
        (∀ c ∈ s.toList, isBlank c = false) ∧
        (BeginsWithScheme s.toList ↔ ∀ c, s.toList.head? = some c → ¬ Control c) ∧
        ∃ front rest, s.toList = front ++ rest ∧ (∀ c ∈ front, Control c) ∧
          BeginsWithScheme rest ∧ v.judge label (.text (String.ofList rest)) = .ok none) := by
  refine ⟨.made rfl (.form .uri), _, Validator.build_form .uri, ?_, ?_⟩
  · rw [judge_uri_eq_none_iff, apply_uri_eq_none_iff]
  intro hs
  rw [judge_uri_eq_none_iff] at hs
  obtain ⟨front, rest, hsplit, hfront, hrest, haccepted⟩ := exists_front hs
  refine ⟨(isUri_eq_true_iff.1 hs).1, beginsWithScheme_iff hs, ?_⟩
  refine ⟨front, rest, hsplit, hfront, hrest, ?_⟩
  rw [judge_uri_eq_none_iff, String.toList_ofList]
  exact haccepted

/-- A scheme with a plus and a dot in it, no slashes, and a path of one character: accepted, and no
    control character stands in front. -/
theorem accepted_uri_without_slashes :
    ∃ v, Validator.build .standard (some "uri") "string" = .ok v ∧
      v.judge "Link" (.text "a+b.c:d") = .ok none ∧
      BeginsWithScheme "a+b.c:d".toList := by
  obtain ⟨-, v, hbuild, -, hv⟩ := accepted_uri "Link" "a+b.c:d"
  have hsame := Except.ok.inj (hbuild.symm.trans (Validator.build_form .uri))
  have hjudge : v.judge "Link" (.text "a+b.c:d") = .ok none := by
    rw [hsame]
    decide +kernel
  obtain ⟨-, hbegins, -⟩ := hv hjudge
  refine ⟨v, hbuild, hjudge, hbegins.2 ?_⟩
  intro c hc
  have hhead : "a+b.c:d".toList.head? = some 'a' := by decide +kernel
  obtain rfl := Option.some.inj (hhead.symm.trans hc)
  exact not_control_of_letter (by decide)

/-- A control character in front: accepted, though the text does not begin with a letter. -/
theorem accepted_behind_control :
    Validator.build .standard (some "uri") "string" =
        .ok (Validator.ofRules .text [.ofText (.form .uri)]) ∧
      (Validator.ofRules .text [.ofText (.form .uri)]).judge "value" (.text "\x01http://a") =
        .ok none ∧
      ¬ BeginsWithScheme "\x01http://a".toList := by
  have haccepted : isUri "\x01http://a".toList = .ok true := by decide +kernel
  refine ⟨Validator.build_form .uri, by decide +kernel, ?_⟩
  rw [beginsWithScheme_iff haccepted]
  exact fun h => h '\x01' rfl (.inl (by decide))

end Rulebook.Net.Uri
