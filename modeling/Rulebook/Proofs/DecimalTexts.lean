/-
  Texts of decimals, and what it says of them that they are accepted.

      precision:2      1.25      accepted
                       1.255     at most 2 decimal places
      integer          1.0       accepted
                       1.5       no integer

  A text of a sign and digits is converted to this whole number, and any other one to the
  floating-point number nearest to it, of which these rules then ask.  So a long text may be
  accepted for a number that it does not write:

      integer          1.00000000000000000001      accepted
      precision:14     8.818614689386611           accepted
      precision:323    1.2e-323                    accepted

  Sixteen digits are too many, then, and fifteen are, where doubles have less than 53 bits.

  1. `Numeral.value`: the number that is written;
  2. `HasPlaces`, `Close`, `Short`: few places, a number next to another one, and the numbers that
     are told from all others next to them;
  3. `hasPlaces_of_close`: what is short has no neighbour with fewer places;
  4. `Certified`, `certified_of_near`, `certified_of_isWhole`: what is known of an accepted text;
  5. `certified_of_accepts`: fields with one of the two rules.

  The crux is 3.  A number of 15 digits and one with few places are whole numbers of steps on one
  grid, and on this grid the first has less than 10^15 steps; so it would take a whole step to tell
  them apart, which is more than the conversions can move a number by.
-/
import Rulebook.Proofs.ShownDecimal
import Rulebook.Proofs.SingleCheck
import Rulebook.Proofs.WholeTexts

namespace Rulebook

open Rulebook.Text Rulebook.Number

namespace Number

variable {units n : Nat} {x v : ℚ} {m : Numeral} {cs : List Char} {negative : Bool}

/-! ## Values -/

/-- The digits of the numeral `m` and their power of ten. -/
def Numeral.magnitude (m : Numeral) : Decimal :=
  ⟨readNat (m.whole ++ m.fraction), m.exponentValue - m.fraction.length⟩

/-- The fraction `x` with its sign. -/
def withSign (negative : Bool) (x : ℚ) : ℚ := if negative then -x else x

/-- The number that the numeral `m` writes. -/
def Numeral.value (m : Numeral) : ℚ := withSign (Numeral.isMinus m.sign) m.magnitude.value

theorem abs_withSign (negative : Bool) (x : ℚ) : |withSign negative x| = |x| := by
  cases negative
  · rfl
  · exact abs_neg x

theorem withSign_sub (negative : Bool) (x y : ℚ) :
    withSign negative x - withSign negative y = withSign negative (x - y) := by
  cases negative
  · rfl
  · exact neg_sub_neg x y |>.trans (neg_sub x y).symm

/-! ## Places -/

/-- Decimal places, `n` of them, are enough for the number `x`. -/
def HasPlaces (n : Nat) (x : ℚ) : Prop := ∃ k : ℤ, x * 10 ^ n = k

/-- The number `x` is one unit away from `v` at most, or less than the last one of 15 digits of
    `v`. -/
def Close (x v : ℚ) : Prop := |x - v| ≤ 1 / unitsPerOne ∨ |x - v| * 10 ^ 15 < |v|

/-- Zero, or a number `v` of 15 digits at most, from 2^-1022 on. -/
def Short (v : ℚ) : Prop :=
  v = 0 ∨ (2 ^ 52 ≤ |v| * unitsPerOne ∧ ∃ c e : ℤ, |c| < 10 ^ 15 ∧ v = c * (10 : ℚ) ^ e)

theorem HasPlaces.withSign (h : HasPlaces n x) (negative : Bool) :
    HasPlaces n (withSign negative x) := by
  obtain ⟨k, hk⟩ := h
  cases negative
  · exact ⟨k, hk⟩
  · refine ⟨-k, ?_⟩
    show -x * 10 ^ n = _
    rw [neg_mul, hk, Int.cast_neg]

theorem Close.withSign (h : Close x v) (negative : Bool) :
    Close (withSign negative x) (withSign negative v) := by
  unfold Close
  rw [withSign_sub, abs_withSign, abs_withSign]
  exact h

/-- What is near in units (`Within`) is `Close`. -/
theorem close_of_within (h : Double.Within (x * unitsPerOne) (v * unitsPerOne)) : Close x v := by
  have hpos : (0 : ℚ) < unitsPerOne := by exact_mod_cast unitsPerOne_pos
  unfold Double.Within at h
  rw [← sub_mul, abs_mul, abs_of_pos hpos] at h
  rcases h with h | h
  · exact .inl ((le_div_iff₀ hpos).2 h)
  · rw [mul_right_comm] at h
    exact .inr ((lt_of_mul_lt_mul_right h hpos.le).trans_le (le_abs_self v))

/-- A whole number `c` of steps is one of finer steps, too. -/
theorem exists_step {e f : ℤ} (c : ℤ) (h : e ≤ f) : ∃ k : ℤ, c * (10 : ℚ) ^ f = k * 10 ^ e := by
  obtain ⟨d, rfl⟩ := Int.le.dest h
  refine ⟨c * 10 ^ d, ?_⟩
  rw [zpow_add₀ (by norm_num), zpow_natCast]
  push_cast
  ring

/-- In the range of 2^-1022 and more one unit is less than the last one of 15 digits of `v`. -/
theorem Close.abs_sub_lt (h : Close x v) (hrange : 2 ^ 52 ≤ |v| * unitsPerOne) :
    |x - v| * 10 ^ 15 < |v| := by
  rcases h with h | h
  · have hpos : (0 : ℚ) < unitsPerOne := by exact_mod_cast unitsPerOne_pos
    rw [le_div_iff₀ hpos] at h
    refine lt_of_mul_lt_mul_right ?_ hpos.le
    generalize (unitsPerOne : ℚ) = u at h hrange ⊢
    norm_num at hrange ⊢
    linarith
  · exact h

/-- **What is short has no neighbour with fewer places**: a `Short` number `v` that is `Close` to
    one of `n` places has no more itself. -/
theorem hasPlaces_of_close (hx : HasPlaces n x) (hclose : Close x v) (hshort : Short v) :
    HasPlaces n v := by
  rcases hshort with rfl | ⟨hrange, c, e, hc, rfl⟩
  · exact ⟨0, by simp⟩
  have hlt := hclose.abs_sub_lt hrange
  by_cases he : -(n : ℤ) ≤ e
  · obtain ⟨k, hk⟩ := exists_step c he
    refine ⟨k, ?_⟩
    rw [hk, mul_assoc, zpow_neg, zpow_natCast]
    field_simp
  · -- both are whole numbers of steps of `10 ^ e`
    obtain ⟨k, hk⟩ := hx
    have hsteps : x = k * (10 : ℚ) ^ (-(n : ℤ)) := by
      rw [zpow_neg, zpow_natCast, ← hk]
      field_simp
    obtain ⟨j, hj⟩ := exists_step k (not_le.1 he).le
    rw [hj] at hsteps
    have hstep : (0 : ℚ) < 10 ^ e := by positivity
    have hnone : j = c := by
      rw [hsteps, ← sub_mul, abs_mul, abs_mul, abs_of_pos hstep, mul_right_comm] at hlt
      have hless := lt_of_mul_lt_mul_right hlt hstep.le
      have hless' : |j - c| * 10 ^ 15 < |c| := by exact_mod_cast hless
      have hzero : |j - c| < 1 := by omega
      exact sub_eq_zero.1 (Int.abs_lt_one_iff.1 hzero)
    rw [← hnone, ← hsteps]
    exact ⟨k, hk⟩

/-! ## Accepted texts -/

/-- What is known of a numeral `m` that is accepted as one with `n` places. -/
structure Certified (n : Nat) (m : Numeral) : Prop where
  /-- A number with `n` places is next to the one that `m` writes. -/
  close : ∃ x, HasPlaces n x ∧ Close x m.value
  /-- The number that `m` writes has `n` places itself, if it is whole or short. -/
  exact : m.isWhole = true ∨ Short m.value → HasPlaces n m.value

/-- A sign and digits alone write a whole number. -/
theorem hasPlaces_of_isWhole (hs : m.Writes cs) (hwhole : m.isWhole = true) (n : Nat) :
    HasPlaces n m.value := by
  simp only [Numeral.isWhole, Bool.and_eq_true, Bool.not_eq_true', Option.isNone_iff_eq_none]
    at hwhole
  obtain ⟨hpoint, hexponent⟩ := hwhole
  have hfraction : m.fraction = [] := by
    cases hs with
    | parts _ _ _ hfraction _ =>
      rw [hpoint] at hfraction
      generalize m.fraction = ds at hfraction
      cases hfraction
      rfl
  have hvalue : m.magnitude.value = readNat m.whole := by
    simp [Numeral.magnitude, Numeral.exponentValue, Decimal.value, hfraction, hexponent]
  have hplaces : HasPlaces n m.magnitude.value := by
    refine ⟨readNat m.whole * 10 ^ n, ?_⟩
    rw [hvalue]
    push_cast
    rfl
  exact hplaces.withSign _

theorem certified_of_isWhole (hs : m.Writes cs) (hwhole : m.isWhole = true) (n : Nat) :
    Certified n m := by
  have hplaces := hasPlaces_of_isWhole hs hwhole n
  refine ⟨⟨m.value, hplaces, .inl ?_⟩, fun _ => hplaces⟩
  rw [sub_self, abs_zero]
  positivity

/-- **A number next to the double** that the numeral `m` is read as is next to what `m` writes. -/
theorem certified_of_near (hread : m.toDouble = .finite negative units)
    (hwhole : m.isWhole = false) (hplaces : HasPlaces n x)
    (hnear : Double.Near units (x * unitsPerOne)) : Certified n m := by
  obtain ⟨-, -, hvalue⟩ := Double.ofDecimal_near hread
  have hclose := (close_of_within (Double.within_of_near hnear hvalue)).withSign
    (Numeral.isMinus m.sign)
  refine ⟨⟨_, hplaces.withSign _, hclose⟩, ?_⟩
  rintro (h | hshort)
  · rw [hwhole] at h
    cases h
  · exact hasPlaces_of_close (hplaces.withSign _) hclose hshort

end Number

/-! ## Fields -/

section Fields

variable {c : Check} {label s : String} {m : Numeral} {units n : Nat}

theorem NumberCheck.limitViolation_ne_none {kind label demand rest : String} {limit : Quantity} :
    limitViolation kind label demand limit rest ≠ .ok none := by
  unfold limitViolation
  cases limit.text <;> simp

/-- A number of `units` that passes as one with `n` places is shown with no more. -/
theorem NumberCheck.places_le_of_apply (negative : Bool)
    (h : apply label (.binary (.finite negative units)) (.precision n) = .ok none) :
    (Decimal.ofUnits units).places ≤ n := by
  by_contra hmore
  have hlt : (n : Int) < ((Decimal.ofUnits units).places : Int) :=
    Int.ofNat_lt.2 (Nat.not_le.1 hmore)
  have happly : apply label (.binary (.finite negative units)) (.precision n) =
      if (n : Int) < ((Decimal.ofUnits units).places : Int) then
        limitViolation "number.precision" label "must have no more than " (.whole n)
          " decimal places"
      else .ok none := rfl
  rw [happly, if_pos hlt] at h
  exact limitViolation_ne_none h

/-- A number of `units` that passes as whole is so many times one. -/
theorem NumberCheck.dvd_of_apply (negative : Bool)
    (h : apply label (.binary (.finite negative units)) .integer = .ok none) :
    unitsPerOne ∣ units := by
  by_contra hnot
  have hrest : (Quantity.binary (.finite negative units)).isWhole = false := by
    rw [Quantity.isWhole, Double.isWhole, beq_eq_false_iff_ne]
    exact fun hzero => hnot (Nat.dvd_of_mod_eq_zero hzero)
  rw [apply, hrest] at h
  cases h

/-- A numeral `m` that is accepted is a whole number, or it is read as a finite number that passes
    the check `c`. -/
theorem isWhole_or_apply_of_accepts (hs : m.Writes s.toList)
    (haccepts : (Validator.ofRules .number [.check c]).judge label (.text s) = .ok none) :
    m.isWhole = true ∨ m.isWhole = false ∧ ∃ negative units,
      m.toDouble = .finite negative units ∧
        c.apply label (.float (.finite negative units)) = .ok none := by
  by_cases hwhole : m.isWhole = true
  · exact .inl hwhole
  · rw [Bool.not_eq_true] at hwhole
    have hstrip : stripChars s.toList = s.toList :=
      stripChars_eq_self fun c hc => Numeral.isBlank_of_writes hs hc
    have hnumber : Validator.numberOfText s = .ok (some (.float m.toDouble)) := by
      unfold Validator.numberOfText
      rw [hstrip, Numeral.readChars?_eq_some_iff.2 hs]
      simp [hwhole]
    exact .inr ⟨hwhole, Validator.apply_of_accepts hnumber haccepts⟩

/-- **Decimal places**: a text `s` that `precision` accepts is `Certified` for as many places. -/
theorem certified_of_precision (hs : m.Writes s.toList)
    (haccepts : (Validator.ofRules .number [.check (.number (.precision n))]).judge label
      (.text s) = .ok none) : Certified n m := by
  rcases isWhole_or_apply_of_accepts hs haccepts with
    hwhole | ⟨hwhole, negative, units, hread, happly⟩
  · exact certified_of_isWhole hs hwhole n
  obtain ⟨-, hlimit, -⟩ := Double.ofDecimal_near hread
  obtain ⟨k, hk⟩ := Decimal.exists_of_places_le (NumberCheck.places_le_of_apply negative happly)
  exact certified_of_near hread hwhole ⟨k, by rw [hk]; rfl⟩ (Decimal.ofUnits_near hlimit)

/-- **Whole numbers**: a text `s` that `integer` accepts is `Certified` for no places. -/
theorem certified_of_integer (hs : m.Writes s.toList)
    (haccepts : (Validator.ofRules .number [.check (.number .integer)]).judge label
      (.text s) = .ok none) : Certified 0 m := by
  rcases isWhole_or_apply_of_accepts hs haccepts with
    hwhole | ⟨hwhole, negative, units, hread, happly⟩
  · exact certified_of_isWhole hs hwhole 0
  obtain ⟨k, hk⟩ := NumberCheck.dvd_of_apply negative happly
  refine certified_of_near (x := k) hread hwhole ⟨k, by simp⟩ (.inl ?_)
  rw [hk, Nat.cast_mul, mul_comm, sub_self, abs_zero]
  norm_num

/-- **Texts of decimals.** Where a field for numbers with the rule `integer` accepts the text `s`
    of a numeral `m`, there is a whole number next to the one that is written: one unit of 2^-1074
    away at most, or by less than one part in 10^15.  A numeral without a point and an exponent,
    and one for zero or for a number of 15 digits at most from 2^-1022 on (`Short`), writes a whole
    number itself.  The same is true of the rule `precision` with the argument `n`, for numbers
    with `n` decimal places. -/
theorem certified_of_accepts (hs : m.Writes s.toList) (label : String) :
    (∃ v, Validator.build .standard (some "integer") "number" = .ok v ∧
      (v.judge label (.text s) = .ok none → Certified 0 m)) ∧
    ∀ (rules : String) (n : Nat), AsksWith "precision" rules n →
      ∃ v, Validator.build .standard (some rules) "number" = .ok v ∧
        (v.judge label (.text s) = .ok none → Certified n m) := by
  constructor
  · have hparse : Token.parse (some "integer") = .ok [⟨"integer", none⟩] := by decide
    exact ⟨_, Validator.build_single rfl hparse (.made rfl .integer), certified_of_integer hs⟩
  · rintro rules n ⟨raw, hparse, hread⟩
    exact ⟨_, Validator.build_single rfl hparse
      (.made (Token.value_of_read hread) (.precision (Int.natCast_nonneg n))),
      certified_of_precision hs⟩

/-- The numeral `-12.50e-1`. -/
def price : Numeral := ⟨some '-', ['1', '2'], true, ['5', '0'], some (some '-', ['1'])⟩

/-- Of the two digits of `price` behind the point the second does not count, but the exponent makes
    it two. -/
theorem certified_of_price :
    ∃ v, Validator.build .standard (some "precision:2") "number" = .ok v ∧
      v.judge "Price" (.text "-12.50e-1") = .ok none ∧
      price.Writes "-12.50e-1".toList ∧ HasPlaces 2 price.value := by
  have hwrites : price.Writes "-12.50e-1".toList := Numeral.readChars?_eq_some_iff.1 (by decide)
  have hasks : AsksWith "precision" "precision:2" (2 : Nat) := ⟨"2", by decide +kernel, rfl⟩
  obtain ⟨-, hprecision⟩ := certified_of_accepts hwrites "Price"
  obtain ⟨v, hbuild, hcertified⟩ := hprecision "precision:2" 2 hasks
  have hjudge : ((Validator.build .standard (some "precision:2") "number").bind
      fun v => v.judge "Price" (.text "-12.50e-1")) = .ok none := by
    decide +kernel
  rw [hbuild] at hjudge
  have hmagnitude : price.magnitude = ⟨1250, -3⟩ := by decide
  have hvalue : price.value = (-125 : ℤ) * (10 : ℚ) ^ (-2 : ℤ) := by
    rw [Numeral.value, hmagnitude]
    show -(((1250 : Nat) : ℚ) * 10 ^ (-3 : ℤ)) = _
    norm_num
  have hshort : Short price.value := by
    refine .inr ⟨?_, -125, -2, by norm_num, hvalue⟩
    have habs : |price.value| = 5 / 4 := by
      rw [hvalue]
      norm_num
    have hunits : (2 : ℚ) ^ 52 ≤ unitsPerOne := by
      rw [← cast_twoTo]
      exact_mod_cast (twoTo_le (by decide) : twoTo 52 ≤ twoTo unitExponent)
    rw [habs]
    linarith
  exact ⟨v, hbuild, hjudge, hwrites, (hcertified hjudge).exact (.inr hshort)⟩

/-- The numeral `1.00000000000000000001`. -/
def longFraction : Numeral := ⟨none, ['1'], true, "00000000000000000001".toList, none⟩

/-- The number that `longFraction` writes is no whole number, and the nearest double is one. -/
theorem integer_of_long_fraction :
    ((Validator.build .standard (some "integer") "number").bind
        fun v => v.judge "value" (.text "1.00000000000000000001")) = .ok none ∧
      ((Validator.build .standard (some "precision:0") "number").bind
        fun v => v.judge "value" (.text "1.00000000000000000001")) = .ok none ∧
      longFraction.Writes "1.00000000000000000001".toList ∧ ¬ HasPlaces 0 longFraction.value := by
  refine ⟨by decide +kernel, by decide +kernel, Numeral.readChars?_eq_some_iff.1 (by decide), ?_⟩
  have hmagnitude : longFraction.magnitude = ⟨100000000000000000001, -20⟩ := by decide
  rintro ⟨k, hk⟩
  have hvalue : ((100000000000000000001 : Nat) : ℚ) * 10 ^ (-20 : ℤ) * 10 ^ 0 = k := by
    rw [Numeral.value, hmagnitude] at hk
    exact hk
  have hsteps : (100000000000000000001 : ℚ) = k * 100000000000000000000 := by
    rw [← hvalue]
    norm_num
  have hwhole : (100000000000000000001 : ℤ) = k * 100000000000000000000 := by
    exact_mod_cast hsteps
  omega

end Fields

end Rulebook
