/-
  How near a floating-point number is to the decimal it is shown as.

  A number is shown with the fewest digits that are read as this number.  So the decimal is as near
  to the number as reading leaves it, and what was read from a text and is shown again,

      text         number        decimal
      0.1          near 0.1      0.1

  has been moved twice.  Grids of up to 17 digits are searched for such a decimal, and if there was
  none on any of them, the number would be cut off at the last one; it is near that one, too.

  1. `dropZeros_value`: zeros at the end do not count;
  2. `onGrid_bounds`: a number and the points of a grid;
  3. `reachesTen_leadingExponent`: the search begins no higher than the leading digit;
  4. `searchShortest_near`, `ofUnits_near`: the search, step by step, and what it finds;
  5. `Within`, `within_of_near`: the two moves together;
  6. `value_mul_tenTo`, `exists_of_places_le`: decimals with few places.
-/
import Rulebook.Proofs.Rounding

namespace Rulebook.Number

variable {units digits n : Nat} {exponent leading : Int} {x y : ℚ}

namespace Double

/-! ## Zeros at the end -/

/-- A decimal whose `digits` end in zero, with a digit less and the next power of ten. -/
theorem value_div_ten (h : digits % 10 = 0) :
    Decimal.value ⟨digits / 10, exponent + 1⟩ = Decimal.value ⟨digits, exponent⟩ := by
  have hsplit : 10 * (digits / 10) = digits := by omega
  have hcast : 10 * ((digits / 10 : Nat) : ℚ) = digits := by exact_mod_cast hsplit
  rw [Decimal.value, Decimal.value, zpow_add₀ (by norm_num), zpow_one, ← hcast]
  ring

theorem dropZeros_value (fuel : Nat) (digits : Nat) (exponent : Int) :
    Decimal.value ⟨(dropZeros fuel digits exponent).1, (dropZeros fuel digits exponent).2⟩ =
      Decimal.value ⟨digits, exponent⟩ := by
  fun_induction dropZeros fuel digits exponent with
  | case1 => rfl
  | case2 fuel digits exponent h ih => rw [ih, value_div_ten h.1]
  | case3 => rfl

/-! ## Grids -/

/-- The number of `units` lies at a point of the grid of `10^exponent` or between this one and the
    next. -/
theorem onGrid_bounds (units : Nat) (exponent : Int) :
    Decimal.inUnits ⟨(onGrid units exponent).1, exponent⟩ ≤ units ∧
      (units : ℚ) < Decimal.inUnits ⟨(onGrid units exponent).1 + 1, exponent⟩ := by
  cases exponent with
  | ofNat e =>
    have hstep : 0 < unitsPerOne * tenTo e := Nat.mul_pos unitsPerOne_pos (tenTo_pos e)
    have hlow := Nat.mul_div_le units (unitsPerOne * tenTo e)
    have hhigh := Nat.lt_mul_div_succ units hstep
    rw [Nat.mul_comm, ← Nat.mul_assoc, Nat.mul_right_comm] at hlow hhigh
    rw [Decimal.inUnits_ofNat, Decimal.inUnits_ofNat]
    exact ⟨by exact_mod_cast hlow, by exact_mod_cast hhigh⟩
  | negSucc e =>
    have hden : (0 : ℚ) < tenTo (e + 1) := by exact_mod_cast tenTo_pos (e + 1)
    have hlow := Nat.div_mul_le_self (units * tenTo (e + 1)) unitsPerOne
    have hhigh := Nat.lt_mul_div_succ (units * tenTo (e + 1)) unitsPerOne_pos
    rw [Nat.mul_comm unitsPerOne] at hhigh
    rw [Decimal.inUnits_negSucc, Decimal.inUnits_negSucc, div_le_iff₀ hden, lt_div_iff₀ hden]
    exact ⟨by exact_mod_cast hlow, by exact_mod_cast hhigh⟩

/-- By `reachesTen`, the number of `units` is at least the power of ten. -/
theorem reachesTen_iff :
    reachesTen units exponent = true ↔ Decimal.inUnits ⟨1, exponent⟩ ≤ units := by
  cases exponent with
  | ofNat e =>
    rw [Decimal.inUnits_ofNat, Nat.one_mul, Nat.cast_le, reachesTen, decide_eq_true_iff]
  | negSucc e =>
    have hden : (0 : ℚ) < tenTo (e + 1) := by exact_mod_cast tenTo_pos (e + 1)
    rw [Decimal.inUnits_negSucc, Nat.one_mul, div_le_iff₀ hden, ← Nat.cast_mul, Nat.cast_le,
      reachesTen, decide_eq_true_iff]

/-- Two digits below the guess are low enough, whatever the number of `bits` is. -/
theorem reachesTen_of_log2 :
    ∀ bits < 2098, reachesTen (twoTo bits) (((bits : Int) - 1074) * 30103 / 100000 - 2) = true := by
  have hall : (List.range 2098).all (fun bits =>
      reachesTen (twoTo bits) (((bits : Int) - 1074) * 30103 / 100000 - 2)) = true := by
    decide +kernel
  exact fun bits hbits => List.all_eq_true.1 hall bits (List.mem_range.2 hbits)

/-- **The leading exponent** is no higher than that of the leading digit of `units`. -/
theorem reachesTen_leadingExponent (hne : units ≠ 0) (hlt : units < unitsLimit) :
    reachesTen units (leadingExponent units) = true := by
  have hbits : units.log2 < 2098 := by
    by_contra hge
    have hpower : unitsLimit ≤ twoTo units.log2 := twoTo_le (Nat.not_lt.1 hge)
    exact absurd hlt (Nat.not_lt.2 (hpower.trans (Nat.log2_self_le hne)))
  have hguess : reachesTen units (((units.log2 : Int) - 1074) * 30103 / 100000 - 2) = true := by
    have hpower := reachesTen_iff.1 (reachesTen_of_log2 _ hbits)
    have hlog : (twoTo units.log2 : ℚ) ≤ units := by exact_mod_cast Nat.log2_self_le hne
    exact reachesTen_iff.2 (hpower.trans hlog)
  -- the exponent only moves to where the number is reached
  refine List.foldlRecOn (motive := fun e => reachesTen units e = true) _ _ hguess
    fun best hbest e _ => ?_
  by_cases he : reachesTen units e = true
  · rwa [if_pos he]
  · rwa [if_neg he]

/-! ## The search -/

/-- What is cut off behind 17 digits leaves the decimal `x` near. -/
theorem near_of_cut (hle : x ≤ units) (hcut : ((units : ℚ) - x) * 10 ^ 17 ≤ units) :
    Near units x := by
  unfold Near
  rw [abs_of_nonneg (sub_nonneg.2 hle)]
  by_cases hsmall : x < 2 ^ 53
  · left
    linarith
  · rw [not_lt] at hsmall
    exact .inr ⟨hsmall, by linarith⟩

theorem unitsOf_of_neighbour? (h : neighbour? units exponent = some digits) :
    unitsOf digits exponent = units := by
  unfold neighbour? at h
  dsimp only at h
  split at h
  · rw [Option.ite_none_right_eq_some] at h
    obtain ⟨hreads, hdigits⟩ := h
    obtain rfl := Option.some.inj hdigits
    exact beq_iff_eq.1 hreads
  · split at h
    · rename_i hlow hhigh
      split at h
      · obtain rfl := Option.some.inj h
        exact beq_iff_eq.1 hlow
      · obtain rfl := Option.some.inj h
        exact beq_iff_eq.1 hhigh
    · rename_i hlow _
      obtain rfl := Option.some.inj h
      exact beq_iff_eq.1 hlow
    · rename_i _ hhigh
      obtain rfl := Option.some.inj h
      exact beq_iff_eq.1 hhigh
    · cases h

/-- A decimal that is read as the number of `units`, as `neighbour?` is, is near it. -/
theorem near_of_neighbour? (h : neighbour? units exponent = some digits) :
    Near units (Decimal.inUnits ⟨digits, exponent⟩) := by
  have hround := unitsOf_near digits exponent
  rwa [unitsOf_of_neighbour? h] at hround

/-- On the last of the grids a step is one part in 10^17 of the number, or less. -/
theorem near_of_onGrid (hleading : reachesTen units leading = true) :
    Near units (Decimal.inUnits ⟨(onGrid units (leading - 17)).1, leading - 17⟩) := by
  obtain ⟨hlow, hhigh⟩ := onGrid_bounds units (leading - 17)
  have hnext : Decimal.inUnits ⟨(onGrid units (leading - 17)).1 + 1, leading - 17⟩ =
      Decimal.inUnits ⟨(onGrid units (leading - 17)).1, leading - 17⟩ +
        Decimal.inUnits ⟨1, leading - 17⟩ := by
    unfold Decimal.inUnits Decimal.value
    push_cast
    ring
  have hstep : Decimal.inUnits ⟨1, leading - 17⟩ * 10 ^ 17 = Decimal.inUnits ⟨1, leading⟩ := by
    unfold Decimal.inUnits Decimal.value
    rw [zpow_sub₀ (by norm_num)]
    generalize (unitsPerOne : ℚ) = u
    field_simp
  have hreach := reachesTen_iff.1 hleading
  refine near_of_cut hlow ?_
  linarith

/-- **The search**: what is found on one of the grids is near, and so is what is cut off at the
    last one. -/
theorem searchShortest_near (hleading : reachesTen units leading = true) (tries count : Nat)
    (hcount : tries + count = 17) :
    Near units (Decimal.inUnits
      ⟨(searchShortest units leading tries count).1,
        (searchShortest units leading tries count).2⟩) := by
  fun_induction searchShortest units leading tries count with
  | case1 count =>
    obtain rfl : count = 17 := by omega
    exact near_of_onGrid hleading
  | case2 tries count digits hdigits => exact near_of_neighbour? hdigits
  | case3 tries count _ ih => exact ih (by omega)

end Double

/-- **The decimal that a number is shown as**, that of `Decimal.ofUnits`, is near the number of
    `units`. -/
theorem Decimal.ofUnits_near (hlt : units < unitsLimit) :
    Double.Near units (Decimal.ofUnits units).inUnits := by
  by_cases hne : units = 0
  · obtain rfl := hne
    have hzero : (ofUnits 0).inUnits = 0 := by
      rw [inUnits, show (ofUnits 0).value = 0 by simp [ofUnits, Double.shortest, value], zero_mul]
    left
    rw [hzero]
    norm_num
  · have hsearch := Double.searchShortest_near (Double.reachesTen_leadingExponent hne hlt) 17 0 rfl
    have hvalue : (ofUnits units).value = value
        ⟨(Double.searchShortest units (Double.leadingExponent units) 17 0).1,
          (Double.searchShortest units (Double.leadingExponent units) 17 0).2⟩ := by
      unfold ofUnits Double.shortest
      rw [if_neg hne]
      exact Double.dropZeros_value 20 _ _
    rw [inUnits, hvalue]
    exact hsearch

/-! ## Two moves -/

/-- The number `x` is not further from `y` than the last of 15 digits of `y`, or than one unit. -/
def Double.Within (x y : ℚ) : Prop := |x - y| ≤ 1 ∨ |x - y| * 10 ^ 15 < y

/-- **Two decimals near one number**, `x` and `y`, are near each other. -/
theorem Double.within_of_near (hx : Near units x) (hy : Near units y) : Within x y := by
  have htriangle : |x - y| ≤ |(units : ℚ) - x| + |(units : ℚ) - y| := by
    rw [abs_sub_comm (units : ℚ) x]
    exact abs_sub_le x units y
  have hlow : x - units ≤ |(units : ℚ) - x| := by
    rw [abs_sub_comm]
    exact le_abs_self _
  have hhigh : (units : ℚ) - y ≤ |(units : ℚ) - y| := le_abs_self _
  rcases hx with hx | ⟨hlarge, hx⟩
  · rcases hy with hy | ⟨hlarge, hy⟩
    · left
      linarith
    · right
      linarith
  · -- the second number is not much below the first, so it is large, too
    right
    rcases hy with hy | ⟨-, hy⟩
    · linarith
    · linarith

/-! ## Places -/

namespace Decimal

/-- On a grid that is fine enough a decimal is a whole number of steps. -/
theorem value_mul_tenTo (coefficient : Nat) (h : -exponent ≤ n) :
    value ⟨coefficient, exponent⟩ * 10 ^ n = (coefficient * tenTo (exponent + n).toNat : Nat) := by
  have hsum : (((exponent + n).toNat : Nat) : Int) = exponent + n := Int.toNat_of_nonneg (by omega)
  have hpower : (10 : ℚ) ^ (exponent + n).toNat = 10 ^ exponent * 10 ^ n := by
    rw [← zpow_natCast, hsum, zpow_add₀ (by norm_num), zpow_natCast]
  push_cast [value, cast_tenTo]
  rw [hpower, mul_assoc]

/-- **A decimal with few places**, `n` at most, is a whole number of steps on the grid of so many
    places. -/
theorem exists_of_places_le {d : Decimal} (h : d.places ≤ n) : ∃ k : Nat, d.value * 10 ^ n = k := by
  by_cases hzero : d.coefficient = 0
  · exact ⟨0, by simp [value, hzero]⟩
  · have hplaces : d.places = if d.coefficient = 0 then 0 else
        (-(Double.dropZeros d.exponent.natAbs d.coefficient d.exponent).2).toNat := rfl
    rw [hplaces, if_neg hzero, Int.toNat_le] at h
    have hsteps := value_mul_tenTo (Double.dropZeros d.exponent.natAbs d.coefficient d.exponent).1 h
    rw [Double.dropZeros_value] at hsteps
    exact ⟨_, hsteps⟩

end Decimal

end Rulebook.Number
