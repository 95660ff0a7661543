/-
  Whole numbers and their texts.

      -0042        a sign or none, and digits, with as many zeros in front as one likes

  Such a text is read in two places, and both read the number it spells:

      the value of a number field      up to 4300 digits
      the argument of a rule           up to  100 digits

  The text that a number is given by default is one of them, and it is the text that messages show.

  1. `Spells`: the texts of a number, up to so many digits;
  2. `writes_of_spells`: as numerals, they have a sign and whole digits and nothing else;
  3. `numberOfText_of_spells`, `numberOfText_of_long`, `read_of_spells`: the two places;
  4. `readNat_toDigits`, `toDigits_readNat`, `spells_toString`: the text by default;
  5. `text_eq_toString`: the text that is shown;
  6. `AsksWith`, `asksWith_text`: rule texts with a number for an argument.

  The crux is 4.  The digits of a number are made from the last one on, and they are read from the
  first one on; that the one undoes the other is a fact about digits in base ten, to which reading
  digits of any script comes down when they are those of ASCII.
-/
import Rulebook.Proofs.ArgumentValue
import Rulebook.Proofs.RuleText
import Rulebook.Validator.Basic

namespace Rulebook

open Rulebook.Text Rulebook.Number

variable {most : Nat} {cs ds : List Char} {sign : Option Char} {c : Char} {n : Int}

/-! ## Blanks -/

/-- The digits of all scripts stay clear of the blanks: a digit `c` is none. -/
theorem Text.isBlank_of_isDigit (h : isDigit c = true) : isBlank c = false := by
  obtain ⟨d, hd⟩ := Option.isSome_iff_exists.1 h
  -- blanks stand below 14, from 28 to 32, and from 133 to 12288, where only few of the digits are
  have hscripts : ∀ z ∈ digitStarts.toList, z = 0x30 ∨ (0xA0 < z ∧ z + 10 ≤ 0x1680) ∨
      (0x1680 < z ∧ z + 10 ≤ 0x2000) ∨ 0x3000 < z := by
    decide
  simp only [isBlank, Bool.or_eq_false_iff, Bool.and_eq_false_iff, decide_eq_false_iff_not,
    beq_eq_false_iff_ne]
  unfold digitValue? at hd
  dsimp only at hd
  split at hd
  · split at hd
    · omega
    · cases hd
  · obtain ⟨z, hz, -⟩ := Option.map_eq_some_iff.1 hd
    have hrange := Array.find?_some hz
    simp only [Bool.and_eq_true, decide_eq_true_eq] at hrange
    have hz' := hscripts z (Array.mem_toList_iff.2 (Array.mem_of_find?_eq_some hz))
    omega

theorem Number.Numeral.isBlank_of_writes {m : Numeral} (h : Numeral.Writes cs m) (hc : c ∈ cs) :
    isBlank c = false := by
  rcases Numeral.digit_or_mark_of_writes h hc with hdigit | hmark
  · exact isBlank_of_isDigit hdigit
  · simp only [Numeral.marks, List.mem_cons, List.not_mem_nil, or_false] at hmark
    rcases hmark with rfl | rfl | rfl | rfl | rfl <;> rfl

namespace Number.Whole

/-! ## Spelling -/

/-- The number that `sign` and the digits `ds` stand for. -/
def signed (sign : Option Char) (ds : List Char) : Int :=
  if Numeral.isMinus sign then -(readNat ds : Int) else readNat ds

/-- A sign or none, and digits: at least one, and `most` at most. -/
inductive Spells (most : Nat) : List Char → Int → Prop
  | mk {sign : Option Char} {ds : List Char} :
    Numeral.IsSign sign → ds ≠ [] → ds.length ≤ most → (∀ c ∈ ds, isDigit c = true) →
      Spells most (sign.toList ++ ds) (signed sign ds)

/-- A whole number as a numeral, with the digits `ds` and nothing behind them. -/
def numeral (sign : Option Char) (ds : List Char) : Numeral := ⟨sign, ds, false, [], none⟩

theorem writes_numeral (hsign : Numeral.IsSign sign) (hne : ds ≠ [])
    (hds : ∀ c ∈ ds, isDigit c = true) :
    Numeral.Writes (sign.toList ++ ds) (numeral sign ds) := by
  have h := @Numeral.Writes.parts (numeral sign ds) [] [] hsign hds (.inl hne) .nothing .nothing
  rwa [List.append_nil, List.append_nil] at h

/-- What is spelled is written as a `numeral` without a point and without an exponent. -/
theorem writes_of_spells (h : Spells most cs n) :
    ∃ sign ds, Numeral.Writes cs (numeral sign ds) ∧ ds ≠ [] ∧ ds.length ≤ most ∧
      n = signed sign ds := by
  obtain ⟨hsign, hne, hlong, hds⟩ := h
  exact ⟨_, _, writes_numeral hsign hne hds, hne, hlong, rfl⟩

theorem ne_nil_of_spells (h : Spells most cs n) : cs ≠ [] := by
  obtain ⟨-, hne, -, -⟩ := h
  exact List.append_ne_nil_of_right_ne_nil _ hne

theorem natAbs_signed : (signed sign ds).natAbs = readNat ds := by
  unfold signed
  split
  · rw [Int.natAbs_neg, Int.natAbs_natCast]
  · exact Int.natAbs_natCast _

/-- A number `n` is no longer than its text. -/
theorem natAbs_lt_of_spells (h : Spells most cs n) : n.natAbs < tenTo most := by
  obtain @⟨sign, ds, -, -, hlong, -⟩ := h
  rw [natAbs_signed]
  exact Nat.lt_of_lt_of_le (readNat_lt ds) (tenTo_le hlong)

/-! ## Reading -/

/-- The value of a field: a text `s` that `Spells` the number `n` is read as that number. -/
theorem numberOfText_of_spells {s : String} (h : Spells digitLimit s.toList n) :
    Validator.numberOfText s = .ok (some (.int n)) := by
  obtain ⟨sign, ds, hwrites, -, hlong, rfl⟩ := writes_of_spells h
  have hstrip : stripChars s.toList = s.toList :=
    stripChars_eq_self fun c hc => Numeral.isBlank_of_writes hwrites hc
  have hdigits : ofDigits (Numeral.isMinus sign) ds = .ok (signed sign ds) := by
    rw [ofDigits, if_neg (Nat.not_lt.2 hlong)]
    rfl
  unfold Validator.numberOfText
  rw [hstrip, Numeral.readChars?_eq_some_iff.2 hwrites]
  simp [numeral, Numeral.isWhole, hdigits]

/-- A text `s` of a longer number is not read, for it has as many digits at least. -/
theorem numberOfText_of_long {s : String} (h : Spells most s.toList n)
    (hlong : tenTo digitLimit ≤ n.natAbs) :
    ∃ count, Validator.numberOfText s = .error (.tooManyDigits (.reading count)) := by
  obtain ⟨sign, ds, hwrites, -, -, rfl⟩ := writes_of_spells h
  have hdigits : digitLimit < ds.length := by
    rw [natAbs_signed] at hlong
    by_contra hshort
    have hlt : readNat ds < tenTo digitLimit :=
      Nat.lt_of_lt_of_le (readNat_lt ds) (tenTo_le (Nat.not_lt.1 hshort))
    omega
  have hstrip : stripChars s.toList = s.toList :=
    stripChars_eq_self fun c hc => Numeral.isBlank_of_writes hwrites hc
  refine ⟨ds.length, ?_⟩
  unfold Validator.numberOfText
  rw [hstrip, Numeral.readChars?_eq_some_iff.2 hwrites]
  simp [numeral, Numeral.isWhole, ofDigits, hdigits]

/-- The argument of a rule: a text `raw` that is short enough for one is read as the number `n`
    that it spells. -/
theorem read_of_spells {raw : String} {rule : Option String}
    (h : Spells Argument.digitLimit raw.toList n) : Argument.read raw rule = .ok (.int n) := by
  obtain ⟨sign, ds, hwrites, hne, hlong, rfl⟩ := writes_of_spells h
  have hnumber : Argument.WritesNumber raw.toList (numeral sign ds) := ⟨hwrites, hne⟩
  rw [← dropLineEnd_eq_self hnumber.getLast?_ne] at hnumber
  rw [Argument.read_of_number hnumber]
  exact if_neg (Nat.not_lt.2 hlong)

/-! ## Writing -/

theorem digitValue?_of_ascii (h : c.isDigit = true) : digitValue? c = some (c.toNat - 48) := by
  have hrange : 48 ≤ c.toNat ∧ c.toNat ≤ 57 := Char.isDigit_iff_toNat.1 h
  unfold digitValue?
  dsimp only
  rw [if_pos (by omega), if_pos hrange]

/-- Reading ASCII digits `ds` by `readNat` is reading them in base ten. -/
theorem readNat_eq_ofDigitChars (h : ∀ c ∈ ds, c.isDigit = true) :
    readNat ds = Nat.ofDigitChars 10 ds 0 := by
  rw [readNat, Nat.ofDigitChars]
  refine List.foldl_ext _ _ 0 fun k c hc => ?_
  rw [digitValue?_of_ascii (h c hc), Nat.mul_comm]
  rfl

/-- **Digits are read as the number they were made from**: `readNat` undoes `Nat.toDigits`. -/
theorem readNat_toDigits (k : Nat) : readNat (Nat.toDigits 10 k) = k := by
  have hds : ∀ c ∈ Nat.toDigits 10 k, c.isDigit = true :=
    fun c hc => Nat.isDigit_of_mem_toDigits (by decide) (by decide) hc
  rw [readNat_eq_ofDigitChars hds, Nat.ofDigitChars_ten_toDigits]

theorem digitChar_sub (h : c.isDigit = true) : Nat.digitChar (c.toNat - 48) = c := by
  have hrange : 48 ≤ c.toNat ∧ c.toNat ≤ 57 := Char.isDigit_iff_toNat.1 h
  rw [← Char.toNat_inj, Nat.toNat_digitChar_of_lt_ten (by omega)]
  omega

/-- Digits `ds` read behind a number `k` are put behind its digits.  The number is not zero, which
    has a digit but no weight. -/
theorem toDigits_ofDigitChars {k : Nat} (hk : 0 < k) (hds : ∀ c ∈ ds, c.isDigit = true) :
    Nat.toDigits 10 (Nat.ofDigitChars 10 ds k) = Nat.toDigits 10 k ++ ds := by
  induction ds generalizing k with
  | nil => simp [Nat.ofDigitChars]
  | cons c ds ih =>
    obtain ⟨hc, hds⟩ := List.forall_mem_cons.1 hds
    have hrange : 48 ≤ c.toNat ∧ c.toNat ≤ 57 := Char.isDigit_iff_toNat.1 hc
    have hdigit : c.toNat - '0'.toNat < 10 := by
      show c.toNat - 48 < 10
      omega
    rw [Nat.ofDigitChars_cons, ih (by omega) hds,
      ← Nat.toDigits_append_toDigits (by decide) hk hdigit, Nat.toDigits_of_lt_base hdigit,
      List.append_assoc]
    exact congrArg (Nat.toDigits 10 k ++ · :: ds) (digitChar_sub hc)

/-- **Digits are those of the number they are read as**, unless a zero stands in front of others. -/
theorem toDigits_readNat (hds : ∀ c ∈ ds, c.isDigit = true) (hne : ds ≠ [])
    (hzero : ds = ['0'] ∨ ds.head? ≠ some '0') : Nat.toDigits 10 (readNat ds) = ds := by
  rcases hzero with rfl | hhead
  · decide
  · obtain ⟨c, ds, rfl⟩ := List.exists_cons_of_ne_nil hne
    obtain ⟨hc, hrest⟩ := List.forall_mem_cons.1 hds
    have hrange : 48 ≤ c.toNat ∧ c.toNat ≤ 57 := Char.isDigit_iff_toNat.1 hc
    have hnot : c.toNat ≠ 48 := fun h => hhead (congrArg some (Char.toNat_inj.1 h))
    have hfirst : 10 * 0 + (c.toNat - '0'.toNat) = c.toNat - 48 := Nat.zero_add _
    rw [readNat_eq_ofDigitChars hds, Nat.ofDigitChars_cons, hfirst,
      toDigits_ofDigitChars (by omega) hrest, Nat.toDigits_of_lt_base (by omega), digitChar_sub hc]
    rfl

/-- The digits of a number `k` that is short enough, with a sign or none in front. -/
theorem spells_toDigits (hsign : Numeral.IsSign sign) (hmost : 0 < most) {k : Nat}
    (hk : k < tenTo most) :
    Spells most (sign.toList ++ Nat.toDigits 10 k)
      (if Numeral.isMinus sign then -(k : Int) else k) := by
  have h : Spells most (sign.toList ++ Nat.toDigits 10 k) (signed sign (Nat.toDigits 10 k)) := by
    refine .mk hsign Nat.toDigits_ne_nil ?_ ?_
    · exact (Nat.length_toDigits_le_iff (by decide) hmost).2 hk
    · intro c hc
      rw [isDigit, digitValue?_of_ascii (Nat.isDigit_of_mem_toDigits (by decide) (by decide) hc)]
      rfl
  rwa [signed, readNat_toDigits] at h

theorem toString_eq (n : Int) :
    toString n = if n < 0 then "-" ++ n.natAbs.repr else n.natAbs.repr := by
  cases n with
  | ofNat k =>
    have hk : ¬ Int.ofNat k < 0 := Int.not_lt.2 (Int.natCast_nonneg k)
    rw [if_neg hk]
    rfl
  | negSucc k =>
    rw [if_pos (Int.negSucc_lt_zero k)]
    rfl

/-- **The text of a number `n` spells it.** -/
theorem spells_toString (hmost : 0 < most) (h : n.natAbs < tenTo most) :
    Spells most (toString n).toList n := by
  rw [toString_eq, Nat.repr_eq_ofList_toDigits]
  by_cases hneg : n < 0
  · have hminus : Numeral.IsSign (some '-') := .inr (.inr rfl)
    have hspells := spells_toDigits hminus hmost h
    have hvalue : -(n.natAbs : Int) = n := by omega
    rw [if_pos (by decide), hvalue] at hspells
    rw [if_pos hneg, String.toList_append, String.toList_ofList, String.toList_ofList]
    exact hspells
  · have hnone : Numeral.IsSign none := .inl rfl
    have hspells := spells_toDigits hnone hmost h
    have hvalue : (n.natAbs : Int) = n := by omega
    rw [if_neg (by decide), hvalue] at hspells
    rw [if_neg hneg, String.toList_ofList]
    exact hspells

/-- The text of `n` spells it, of whatever length the number is. -/
theorem exists_spells_toString (n : Int) : ∃ most, Spells most (toString n).toList n :=
  ⟨n.natAbs + 1, spells_toString n.natAbs.succ_pos
    ((Nat.lt_pow_self (by decide)).trans_le (tenTo_le n.natAbs.le_succ))⟩

theorem toString_ne_empty (n : Int) : toString n ≠ "" := by
  obtain ⟨most, hspells⟩ := exists_spells_toString n
  exact fun hempty => ne_nil_of_spells hspells (String.toList_eq_nil_iff.2 hempty)

/-- A character `c` that is in no numeral is in no text of a number. -/
theorem not_mem_toString (n : Int) (hc : ¬ (isDigit c = true ∨ c ∈ Numeral.marks)) :
    c ∉ (toString n).toList := by
  intro hmem
  obtain ⟨most, hspells⟩ := exists_spells_toString n
  obtain ⟨sign, ds, hwrites, -⟩ := writes_of_spells hspells
  exact hc (Numeral.digit_or_mark_of_writes hwrites hmem)

/-- What a message shows of a number `n` is its text. -/
theorem text_eq_toString (h : n.natAbs < tenTo digitLimit) : text n = .ok (toString n) := by
  rw [text, if_neg (Nat.not_le.2 h), toString_eq]

end Number.Whole

/-! ## Rule texts -/

/-- The text `rules` is one rule of the `name`, and its argument stands for the number `n`. -/
def AsksWith (name rules : String) (n : Int) : Prop :=
  ∃ raw, Token.parse (some rules) = .ok [⟨name, some raw⟩] ∧
    Argument.read raw (some name) = .ok (.int n)

/-- **The name and the text of a number** ask for the rule `name` with this number. -/
theorem asksWith_text (name : String) (hname : Token.ProperName ⟨name, none⟩)
    (hn : n.natAbs < tenTo 100) : AsksWith name (name ++ ":" ++ toString n) n := by
  have hbar : Token.separator ∉ (toString n).toList := Whole.not_mem_toString n (by decide)
  have hparse := Token.parse_argument hname (Whole.toString_ne_empty n) fun hpair =>
    hbar (hpair.subset (by simp))
  exact ⟨toString n, hparse, Whole.read_of_spells (Whole.spells_toString (by decide) hn)⟩

end Rulebook
