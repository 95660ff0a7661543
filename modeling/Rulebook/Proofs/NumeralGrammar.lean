/-
  How numerals are written.

  A numeral is read by taking it apart from the front.  What is read is what the grammar says, and
  the grammar leaves no choice: the parts are written one behind the other,

      sign      whole      fraction         exponent
      + - none  d…         none  .  .d…     none  ed…  e+d…  E-d…  …

  and there is a digit in the second or the third.

  1. `takeWhile_digits`, `dropWhile_digits`: a run of digits ends where the next part begins;
  2. `WritesFraction`, `WritesExponent`, `Writes`: the grammar;
  3. `writes_of_readChars?`: what is read is written like this;
  4. `readChars?_of_writes`, `readChars?_eq_some_iff`: and whatever is written like this is read;
  5. `digit_or_mark_of_writes`: the characters of a numeral.

  The crux is 1: a fraction begins with a point and an exponent with a letter, and neither is a
  digit of any script, so no run of digits goes on into the next part.
-/
import Rulebook.Number.Numeral

namespace Rulebook.Number.Numeral

open Rulebook.Text

variable {cs ds rest front : List Char} {sign : Option Char} {n : Numeral} {c : Char}
  {exponent : Option (Option Char × List Char)} {point : Bool}

/-! ## Runs of digits -/

/-- The text `cs` does not go on with a digit. -/
def NoDigitAhead (cs : List Char) : Prop := ∀ c, cs.head? = some c → isDigit c = false

theorem takeWhile_digits (hds : ∀ c ∈ ds, isDigit c = true) (hrest : NoDigitAhead rest) :
    (ds ++ rest).takeWhile isDigit = ds := by
  rw [List.takeWhile_append_of_pos hds]
  cases rest with
  | nil => simp
  | cons c rest => simp [hrest c rfl]

theorem dropWhile_digits (hds : ∀ c ∈ ds, isDigit c = true) (hrest : NoDigitAhead rest) :
    (ds ++ rest).dropWhile isDigit = rest := by
  rw [List.dropWhile_append_of_pos hds]
  cases rest with
  | nil => rfl
  | cons c rest => simp [hrest c rfl]

/-- A text `cs` begins with a run of digits `ds`, though it may be empty. -/
theorem exists_digits (cs : List Char) :
    ∃ ds rest, cs = ds ++ rest ∧ (∀ c ∈ ds, isDigit c = true) ∧ cs.takeWhile isDigit = ds ∧
      cs.dropWhile isDigit = rest :=
  ⟨_, _, List.takeWhile_append_dropWhile.symm, List.all_eq_true.1 List.all_takeWhile, rfl, rfl⟩

theorem hasDigits_iff : (ds.isEmpty && rest.isEmpty) = false ↔ ds ≠ [] ∨ rest ≠ [] := by
  cases ds <;> cases rest <;> simp

/-! ## The grammar -/

/-- What can stand for a `sign`: plus, minus or nothing. -/
def IsSign (sign : Option Char) : Prop := sign = none ∨ sign = some '+' ∨ sign = some '-'

/-- The part behind the whole digits, if it begins with a point: its text, whether there is a
    point, and the digits behind it. -/
inductive WritesFraction : List Char → Bool → List Char → Prop
  | nothing : WritesFraction [] false []
  | point {ds : List Char} : (∀ c ∈ ds, isDigit c = true) → WritesFraction ('.' :: ds) true ds

/-- The last part, with a letter in front: its text, its sign and its digits. -/
inductive WritesExponent : List Char → Option (Option Char × List Char) → Prop
  | nothing : WritesExponent [] none
  | power {mark : Char} {sign : Option Char} {ds : List Char} :
    mark = 'e' ∨ mark = 'E' → IsSign sign → ds ≠ [] → (∀ c ∈ ds, isDigit c = true) →
      WritesExponent (mark :: (sign.toList ++ ds)) (some (sign, ds))

/-- The text writes the numeral `n`, part by part; one of the parts in front of the exponent has a
    digit. -/
inductive Writes : List Char → Numeral → Prop
  | parts {n : Numeral} {fraction exponent : List Char} :
    IsSign n.sign → (∀ c ∈ n.whole, isDigit c = true) → n.whole ≠ [] ∨ n.fraction ≠ [] →
    WritesFraction fraction n.point n.fraction → WritesExponent exponent n.exponent →
      Writes (n.sign.toList ++ (n.whole ++ (fraction ++ exponent))) n

/-! ## Signs -/

theorem of_splitSign (h : splitSign cs = (sign, rest)) :
    IsSign sign ∧ cs = sign.toList ++ rest := by
  unfold splitSign at h
  split at h
  · obtain ⟨rfl, rfl⟩ := Prod.mk.inj h
    exact ⟨.inr (.inl rfl), rfl⟩
  · obtain ⟨rfl, rfl⟩ := Prod.mk.inj h
    exact ⟨.inr (.inr rfl), rfl⟩
  · obtain ⟨rfl, rfl⟩ := Prod.mk.inj h
    exact ⟨.inl rfl, rfl⟩

/-- A `sign` is found in front of a `rest` that does not begin with one. -/
theorem splitSign_append (hsign : IsSign sign) (hplus : rest.head? ≠ some '+')
    (hminus : rest.head? ≠ some '-') : splitSign (sign.toList ++ rest) = (sign, rest) := by
  rcases hsign with rfl | rfl | rfl
  · show splitSign rest = (none, rest)
    unfold splitSign
    split
    · exact absurd rfl hplus
    · exact absurd rfl hminus
    · rfl
  · rfl
  · rfl

/-- What begins with the digits `ds` does not begin with a sign. -/
theorem not_sign_of_digits (hds : ∀ c ∈ ds, isDigit c = true) (hne : ds ≠ []) (rest : List Char) :
    (ds ++ rest).head? ≠ some '+' ∧ (ds ++ rest).head? ≠ some '-' := by
  obtain ⟨d, tail, rfl⟩ := List.exists_cons_of_ne_nil hne
  have hd := hds d (List.mem_cons_self ..)
  refine ⟨?_, ?_⟩
  · rintro ⟨rfl⟩
    exact absurd hd (by decide)
  · rintro ⟨rfl⟩
    exact absurd hd (by decide)

/-! ## Exponents -/

theorem noDigitAhead_of_writesExponent (h : WritesExponent cs exponent) : NoDigitAhead cs := by
  cases h with
  | nothing =>
    intro c hc
    cases hc
  | power hmark =>
    rintro c ⟨rfl⟩
    rcases hmark with rfl | rfl
    · decide
    · decide

/-- An exponent is read by `readExponent?` exactly if it is written as one. -/
theorem readExponent?_eq_some_iff :
    readExponent? cs = some exponent ↔ WritesExponent cs exponent := by
  constructor
  · intro h
    unfold readExponent? at h
    split at h
    · obtain rfl := Option.some.inj h
      exact .nothing
    · split at h
      · rename_i mark rest hmark
        rcases hsplit : splitSign rest with ⟨sign, ds⟩
        obtain ⟨hsign, rfl⟩ := of_splitSign hsplit
        rw [hsplit] at h
        simp only [Option.ite_none_right_eq_some, Bool.and_eq_true, Bool.not_eq_true',
          List.isEmpty_eq_false_iff, List.all_eq_true, Option.some.injEq] at h
        obtain ⟨⟨hne, hds⟩, rfl⟩ := h
        exact .power (by simpa using hmark) hsign hne hds
      · cases h
  · intro h
    cases h with
    | nothing => rfl
    | @power mark sign ds hmark hsign hne hds =>
      have hends := not_sign_of_digits hds hne []
      rw [List.append_nil] at hends
      have hmark' : (mark == 'e' || mark == 'E') = true := by simpa using hmark
      have hall : (!ds.isEmpty && ds.all isDigit) = true := by
        simpa [List.isEmpty_eq_false_iff] using ⟨hne, hds⟩
      unfold readExponent?
      simp only [hmark', if_true, splitSign_append hsign hends.1 hends.2, hall]

/-! ## Numerals -/

/-- **Whatever is read** as `n` is written as a numeral: the text `Writes` `n`. -/
theorem writes_of_readChars? (h : readChars? cs = some n) : Writes cs n := by
  unfold readChars? at h
  rcases hsplit : splitSign cs with ⟨sign, rest⟩
  obtain ⟨hsign, rfl⟩ := of_splitSign hsplit
  obtain ⟨whole, behind, rfl, hwhole, htake, hdrop⟩ := exists_digits rest
  simp only [hsplit, htake, hdrop] at h
  split at h
  · rename_i tail
    obtain ⟨fraction, back, rfl, hfraction, htake', hdrop'⟩ := exists_digits tail
    simp only [htake', hdrop', Option.ite_none_left_eq_some, Option.map_eq_some_iff] at h
    obtain ⟨hdigits, exponent, hexponent, rfl⟩ := h
    have hsome : whole ≠ [] ∨ fraction ≠ [] := hasDigits_iff.1 (by simpa using hdigits)
    exact .parts (n := ⟨sign, whole, true, fraction, exponent⟩) hsign hwhole hsome
      (.point hfraction) (readExponent?_eq_some_iff.1 hexponent)
  · simp only [Option.ite_none_left_eq_some, Option.map_eq_some_iff] at h
    obtain ⟨hdigits, exponent, hexponent, rfl⟩ := h
    exact .parts (n := ⟨sign, whole, false, [], exponent⟩) hsign hwhole
      (.inl (by simpa using hdigits)) .nothing (readExponent?_eq_some_iff.1 hexponent)

/-- What stands behind the sign, digits or a point, does not begin with one. -/
theorem not_sign_of_parts {whole fraction : List Char} (hwhole : ∀ c ∈ whole, isDigit c = true)
    (hsome : whole ≠ [] ∨ fraction ≠ []) (hfraction : WritesFraction front point fraction)
    (back : List Char) :
    (whole ++ (front ++ back)).head? ≠ some '+' ∧ (whole ++ (front ++ back)).head? ≠ some '-' := by
  by_cases hne : whole = []
  · obtain rfl := hne
    cases hfraction with
    | nothing => exact absurd rfl (hsome.resolve_left fun h => h rfl)
    | point => exact ⟨by simp, by simp⟩
  · exact not_sign_of_digits hwhole hne _

/-- **Whatever is written as a numeral** is read, part by part. -/
theorem readChars?_of_writes (h : Writes cs n) : readChars? cs = some n := by
  obtain @⟨⟨sign, whole, point, fraction, exponent⟩, front, back, hsign, hwhole, hsome, hfraction,
    hexponent⟩ := h
  dsimp only at hsign hwhole hsome hfraction hexponent ⊢
  obtain ⟨hplus, hminus⟩ := not_sign_of_parts hwhole hsome hfraction back
  have hback := noDigitAhead_of_writesExponent hexponent
  have hread := readExponent?_eq_some_iff.2 hexponent
  unfold readChars?
  rw [splitSign_append hsign hplus hminus]
  dsimp only
  cases hfraction with
  | nothing =>
    have hne : whole ≠ [] := hsome.resolve_right fun h => h rfl
    rw [List.nil_append, takeWhile_digits hwhole hback, dropWhile_digits hwhole hback]
    split
    · -- an exponent does not begin with a point
      rename_i tail
      cases hexponent with
      | power hmark => exact absurd hmark (by decide)
    · simp [hne, hread]
  | point hds =>
    have hpoint : NoDigitAhead ('.' :: (fraction ++ back)) := by
      rintro c ⟨rfl⟩
      decide
    have hdigits : (whole.isEmpty && fraction.isEmpty) = false := hasDigits_iff.2 hsome
    rw [List.cons_append, takeWhile_digits hwhole hpoint, dropWhile_digits hwhole hpoint]
    simp [takeWhile_digits hds hback, dropWhile_digits hds hback, hread, hdigits]

/-- **Numerals**: what is read by `readChars?` is what the grammar `Writes` says. -/
theorem readChars?_eq_some_iff : readChars? cs = some n ↔ Writes cs n :=
  ⟨writes_of_readChars?, readChars?_of_writes⟩

/-- A text `cs` writes one numeral at most. -/
theorem Writes.unique {n' : Numeral} (h : Writes cs n) (h' : Writes cs n') : n = n' :=
  Option.some.inj ((readChars?_of_writes h).symm.trans (readChars?_of_writes h'))

/-! ## Characters -/

/-- What stands in a numeral besides digits. -/
def marks : List Char := ['+', '-', '.', 'e', 'E']

theorem mem_marks_of_isSign (hsign : IsSign sign) (hc : c ∈ sign.toList) : c ∈ marks := by
  rcases hsign with rfl | rfl | rfl
  · cases hc
  · obtain rfl := List.mem_singleton.1 hc
    decide
  · obtain rfl := List.mem_singleton.1 hc
    decide

theorem digit_or_mark_of_fraction (h : WritesFraction cs point ds) (hc : c ∈ cs) :
    isDigit c = true ∨ c ∈ marks := by
  cases h with
  | nothing => cases hc
  | point hds =>
    rcases List.mem_cons.1 hc with rfl | hc
    · exact .inr (by decide)
    · exact .inl (hds c hc)

theorem digit_or_mark_of_exponent (h : WritesExponent cs exponent) (hc : c ∈ cs) :
    isDigit c = true ∨ c ∈ marks := by
  cases h with
  | nothing => cases hc
  | power hmark hsign _ hds =>
    rcases List.mem_cons.1 hc with rfl | hc
    · exact .inr (by rcases hmark with rfl | rfl <;> decide)
    · rcases List.mem_append.1 hc with hc | hc
      · exact .inr (mem_marks_of_isSign hsign hc)
      · exact .inl (hds c hc)

/-- A numeral is made of digits and the characters of `marks`. -/
theorem digit_or_mark_of_writes (h : Writes cs n) (hc : c ∈ cs) :
    isDigit c = true ∨ c ∈ marks := by
  cases h with
  | parts hsign hwhole _ hfraction hexponent =>
    rcases List.mem_append.1 hc with hc | hc
    · exact .inr (mem_marks_of_isSign hsign hc)
    · rcases List.mem_append.1 hc with hc | hc
      · exact .inl (hwhole c hc)
      · rcases List.mem_append.1 hc with hc | hc
        · exact digit_or_mark_of_fraction hfraction hc
        · exact digit_or_mark_of_exponent hexponent hc

/-- There is no line feed in the text `cs` of a numeral. -/
theorem no_lineFeed_of_writes (h : Writes cs n) : '\n' ∉ cs := by
  intro hmem
  exact absurd (digit_or_mark_of_writes h hmem) (by decide)

end Rulebook.Number.Numeral
