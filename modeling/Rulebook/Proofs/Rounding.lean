/-
  How near a floating-point number is to the decimal it is read from.

  All numbers are counted in units of 2^-1074 here, the floating-point ones in whole units and the
  decimals in fractions of them.  A decimal is read as a number with 53 significant bits, or with
  fewer where that many would need fractions of a unit:

      below 2^53       half a unit away at most
      from 2^53 on     one part in 2^53 away at most

  1. `Near`: at most so far away;
  2. `Decimal.value`, `Decimal.inUnits`: decimals as fractions;
  3. `abs_roundHalfEven_sub_le`, `roundUnits_near`, `unitsOf_near`: the rounding, step by step;
  4. `ofDecimal_near`: a decimal that is read as a finite number.

  What lies below the range of the exponents is no exception: it is less than half a unit, and read
  as zero.
-/
import Mathlib.Algebra.Order.Field.Power
import Mathlib.Data.Nat.Cast.Order.Field
import Mathlib.Tactic.FieldSimp
import Mathlib.Tactic.Linarith
import Mathlib.Tactic.NormNum
import Mathlib.Tactic.Positivity
import Mathlib.Tactic.Ring
import Rulebook.Number.Decimal

namespace Rulebook.Number

variable {num den units digits : Nat} {exponent : Int} {negative sign : Bool}

/-! ## Powers -/

theorem cast_tenTo (n : Nat) : (tenTo n : ℚ) = 10 ^ n := Nat.cast_pow 10 n

theorem cast_twoTo (n : Nat) : (twoTo n : ℚ) = 2 ^ n := Nat.cast_pow 2 n

theorem twoTo_le {m n : Nat} (h : m ≤ n) : twoTo m ≤ twoTo n := Nat.pow_le_pow_right (by decide) h

/-- A unit is a little more than 10^-324. -/
theorem unitsPerOne_le : unitsPerOne ≤ tenTo 324 := by decide +kernel

/-! ## Nearness -/

/-- The whole number `units` is as near to `x` as rounding leaves it. -/
def Double.Near (units : Nat) (x : ℚ) : Prop :=
  |(units : ℚ) - x| ≤ 1 / 2 ∨ (2 ^ 53 ≤ x ∧ |(units : ℚ) - x| * 2 ^ 53 ≤ x)

/-- The number that the decimal `d` stands for. -/
def Decimal.value (d : Decimal) : ℚ := d.coefficient * (10 : ℚ) ^ d.exponent

/-- The number that the decimal `d` stands for, in units. -/
def Decimal.inUnits (d : Decimal) : ℚ := d.value * unitsPerOne

theorem Decimal.inUnits_nonneg (d : Decimal) : 0 ≤ d.inUnits := by
  unfold inUnits value
  positivity

/-- Without a fraction the decimal of `digits` is a whole number of units. -/
theorem Decimal.inUnits_ofNat (digits e : Nat) :
    inUnits ⟨digits, .ofNat e⟩ = (digits * tenTo e * unitsPerOne : Nat) := by
  rw [Nat.cast_mul, Nat.cast_mul, cast_tenTo]
  rfl

/-- With a fraction the units of the decimal of `digits` are a quotient. -/
theorem Decimal.inUnits_negSucc (digits e : Nat) :
    inUnits ⟨digits, .negSucc e⟩ = (digits * unitsPerOne : Nat) / (tenTo (e + 1) : Nat) := by
  rw [inUnits, value, zpow_negSucc, Nat.cast_mul, cast_tenTo]
  generalize (unitsPerOne : ℚ) = u
  field_simp

namespace Double

/-! ## Rounding -/

/-- A quotient `num / den` is rounded to a whole number at most one half away. -/
theorem abs_roundHalfEven_sub_le (hden : 0 < den) :
    |(roundHalfEven num den : ℚ) - num / den| ≤ 1 / 2 := by
  have hsplit : den * (num / den) + num % den = num := Nat.div_add_mod num den
  have hrest : num % den < den := Nat.mod_lt num hden
  have hbounds : 2 * (den * roundHalfEven num den) ≤ 2 * num + den ∧
      2 * num ≤ 2 * (den * roundHalfEven num den) + den := by
    unfold roundHalfEven
    dsimp only
    split
    · omega
    · rw [Nat.mul_add]
      omega
  have hlow : 2 * ((den : ℚ) * roundHalfEven num den) ≤ 2 * num + den := by
    exact_mod_cast hbounds.1
  have hhigh : 2 * (num : ℚ) ≤ 2 * (den * roundHalfEven num den) + den := by
    exact_mod_cast hbounds.2
  have hden' : (0 : ℚ) < den := by exact_mod_cast hden
  have hquotient : (num : ℚ) / den * den = num := div_mul_cancel₀ _ hden'.ne'
  rw [abs_sub_le_iff]
  constructor
  · refine le_of_mul_le_mul_right ?_ hden'
    linarith
  · refine le_of_mul_le_mul_right ?_ hden'
    linarith

/-- **A quotient is rounded to one of 53 bits** near it: `roundUnits` is `Near` it. -/
theorem roundUnits_near (hden : 0 < den) : Near (roundUnits num den) ((num : ℚ) / den) := by
  generalize hshift : (num / den).log2 - 52 = shift
  have hpow : (0 : ℚ) < 2 ^ shift := by positivity
  have herror : |(roundUnits num den : ℚ) - num / den| ≤ 2 ^ shift / 2 := by
    have hround : |(roundHalfEven num (den * twoTo shift) : ℚ) - num / (den * twoTo shift : Nat)| ≤
        1 / 2 :=
      abs_roundHalfEven_sub_le (Nat.mul_pos hden (twoTo_pos shift))
    have hscale : (roundUnits num den : ℚ) - num / den =
        ((roundHalfEven num (den * twoTo shift) : ℚ) - num / (den * twoTo shift : Nat)) *
          2 ^ shift := by
      rw [roundUnits, hshift, sub_mul]
      push_cast [cast_twoTo]
      field_simp
    rw [hscale, abs_mul, abs_of_pos hpow]
    linarith [mul_le_mul_of_nonneg_right hround hpow.le]
  by_cases hzero : shift = 0
  · rw [hzero, pow_zero] at herror
    exact .inl herror
  · -- the leading bit is `52 + shift`, and half of the last one is as small as is asked for
    have hne : num / den ≠ 0 := fun h => hzero (by simp [← hshift, h])
    have hlead : (2 : ℚ) ^ (52 + shift) ≤ num / den := by
      have hlog := Nat.log2_self_le hne
      rw [show (num / den).log2 = 52 + shift by omega] at hlog
      calc (2 : ℚ) ^ (52 + shift) ≤ ((num / den : Nat) : ℚ) := by exact_mod_cast hlog
        _ ≤ num / den := Nat.cast_div_le
    refine .inr ⟨le_trans ?_ hlead, le_trans ?_ hlead⟩
    · exact pow_le_pow_right₀ (by norm_num) (by omega)
    · calc |(roundUnits num den : ℚ) - num / den| * 2 ^ 53 ≤ 2 ^ shift / 2 * 2 ^ 53 := by gcongr
        _ = 2 ^ (52 + shift) := by ring

/-- **A decimal** in the range of the exponents is read as units near it. -/
theorem unitsOf_near (digits : Nat) (exponent : Int) :
    Near (unitsOf digits exponent) (Decimal.inUnits ⟨digits, exponent⟩) := by
  cases exponent with
  | ofNat e =>
    have hone : (1 : ℚ) = (1 : Nat) := Nat.cast_one.symm
    rw [Decimal.inUnits_ofNat, ← div_one ((digits * tenTo e * unitsPerOne : Nat) : ℚ), hone]
    exact roundUnits_near Nat.one_pos
  | negSucc e =>
    rw [Decimal.inUnits_negSucc]
    exact roundUnits_near (tenTo_pos (e + 1))

/-! ## The range -/

/-- A number is below the power of ten that has one digit more than its `digits`. -/
theorem lt_tenTo_decimalLength (digits : Nat) : digits < tenTo (decimalLength digits) := by
  have hlength : decimalLength digits = (Nat.toDigits 10 digits).length := by
    rw [decimalLength, Nat.repr_eq_ofList_toDigits, String.length_ofList]
  rw [hlength]
  exact (Nat.length_toDigits_le_iff (by decide) (List.length_pos_of_ne_nil
    Nat.toDigits_ne_nil)).1 le_rfl

/-- Below the range of the exponents there is less than half a unit. -/
theorem inUnits_le_half (h : (decimalLength digits : Int) + exponent < -400) :
    Decimal.inUnits ⟨digits, exponent⟩ ≤ 1 / 2 := by
  have hdigits : (digits : ℚ) ≤ 10 ^ decimalLength digits := by
    rw [← cast_tenTo]
    exact_mod_cast (lt_tenTo_decimalLength digits).le
  have hunits : (unitsPerOne : ℚ) ≤ 10 ^ 324 := by
    rw [← cast_tenTo]
    exact_mod_cast unitsPerOne_le
  calc Decimal.inUnits ⟨digits, exponent⟩
      ≤ 10 ^ decimalLength digits * (10 : ℚ) ^ exponent * 10 ^ 324 :=
        mul_le_mul (mul_le_mul_of_nonneg_right hdigits (by positivity)) hunits (Nat.cast_nonneg _)
          (by positivity)
    _ = (10 : ℚ) ^ ((decimalLength digits : Int) + exponent + 324) := by
        rw [zpow_add₀ (by norm_num), zpow_add₀ (by norm_num)]
        norm_num
    _ ≤ (10 : ℚ) ^ (-1 : Int) := zpow_le_zpow_right₀ (by norm_num) (by omega)
    _ ≤ 1 / 2 := by norm_num

/-- **A decimal that is read as a finite number** keeps its sign, and the number of `units` is near
    it. -/
theorem ofDecimal_near (h : ofDecimal sign digits exponent = .finite negative units) :
    negative = sign ∧ units < unitsLimit ∧ Near units (Decimal.inUnits ⟨digits, exponent⟩) := by
  have hlimit : 0 < unitsLimit := twoTo_pos _
  unfold ofDecimal at h
  dsimp only at h
  split at h
  · -- nothing, or too little to count
    rename_i hsmall
    obtain ⟨rfl, rfl⟩ := Double.finite.inj h
    have hnonneg := Decimal.inUnits_nonneg ⟨digits, exponent⟩
    have hhalf : Decimal.inUnits ⟨digits, exponent⟩ ≤ 1 / 2 := by
      rcases hsmall with rfl | hsize
      · rw [Decimal.inUnits, Decimal.value, Nat.cast_zero, zero_mul, zero_mul]
        norm_num
      · exact inUnits_le_half hsize
    refine ⟨rfl, hlimit, .inl ?_⟩
    rw [Nat.cast_zero, zero_sub, abs_neg, abs_of_nonneg hnonneg]
    exact hhalf
  · split at h
    · cases h
    · split at h
      · rename_i hunits
        obtain ⟨rfl, rfl⟩ := Double.finite.inj h
        exact ⟨rfl, hunits, unitsOf_near digits exponent⟩
      · cases h

end Double

end Rulebook.Number
