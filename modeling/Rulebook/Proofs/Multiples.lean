/-
  Multiples of whole numbers.

      multiple:7        14, -14, "-0014"      accepted
                        15                    must be a multiple of 7

  Whether a number is a multiple is found by dividing decimals, and a quotient may have 28 digits.
  The numbers themselves may have more: what counts is how much larger than the base a number is.

      base      1         10^28 - 1       accepted
                          10^28           no answer
      base 10^50          10^78 - 10^50   accepted
                          10^78           no answer

  1. `isMultiple_whole`, `apply_multiple`: the question and the check, for whole numbers;
  2. `AsksMultiple`: the rule texts that ask for multiples of a whole number;
  3. `asksMultiple_text`: the name and the text of the base are one of them;
  4. `Stands`: the values that stand for a whole number;
  5. `multiple_divides`: fields with this rule.

  The crux is 1.  Both numbers are decimals without a fraction, so that the remainder is that of
  their magnitudes; and a magnitude is divided by another exactly if the one number divides the
  other, whatever their signs are.
-/
import Rulebook.Proofs.CheckFault
import Rulebook.Proofs.SingleCheck
import Rulebook.Proofs.WholeTexts

namespace Rulebook

open Rulebook.Text Rulebook.Number

variable {b n : Int} {label rules : String} {x : Value}

/-! ## The check -/

/-- The remainder of the magnitudes of `n` and `b` tells whether `b` divides `n`. -/
theorem Number.natAbs_mod_eq_zero : (n.natAbs % b.natAbs == 0) = decide (b ∣ n) := by
  rw [Bool.eq_iff_iff, beq_iff_eq, decide_eq_true_eq, ← Nat.dvd_iff_mod_eq_zero,
    Int.natAbs_dvd_natAbs]

/-- **Whole numbers**: the answer of `isMultiple` is divisibility, as long as the quotient fits. -/
theorem NumberCheck.isMultiple_whole (hb : 0 < b) (hbase : b.natAbs < tenTo Whole.digitLimit)
    (hn : n.natAbs < tenTo Whole.digitLimit) :
    isMultiple (.whole n) (.whole b) =
      if tenTo 28 * b.natAbs ≤ n.natAbs then .error .quotientTooLong
      else .ok (decide (b ∣ n)) := by
  have hpos : 0 < b.natAbs := by omega
  have hquotient : tenTo Decimal.precision ≤ n.natAbs / b.natAbs ↔ tenTo 28 * b.natAbs ≤ n.natAbs :=
    Nat.le_div_iff_mul_le hpos
  unfold isMultiple
  rw [Check.decimal?_whole hn, Check.decimal?_whole hbase]
  simp only [Decimal.isMultiple_ofInt, natAbs_mod_eq_zero, hquotient]
  by_cases h : tenTo 28 * b.natAbs ≤ n.natAbs
  · rw [if_pos h, if_pos h]
  · rw [if_neg h, if_neg h]

/-- What is said of a number that is no multiple of `b`. -/
def notMultiple (label : String) (b : Int) : Violation :=
  ⟨"number.multiple", labelled label ("must be a multiple of " ++ toString b)⟩

/-- The check on multiples of `b` passes, is broken, or has no outcome. -/
theorem Check.apply_multiple (hb : 0 < b) (hbase : b.natAbs < tenTo Whole.digitLimit)
    (hn : n.natAbs < tenTo Whole.digitLimit) :
    (Check.number (.multiple (.whole b))).apply label (.int n) =
      if tenTo 28 * b.natAbs ≤ n.natAbs then .error .quotientTooLong
      else if b ∣ n then .ok none
      else .ok (some (notMultiple label b)) := by
  show NumberCheck.apply label (.whole n) (.multiple (.whole b)) = _
  rw [NumberCheck.apply, NumberCheck.isMultiple_whole hb hbase hn]
  by_cases hlong : tenTo 28 * b.natAbs ≤ n.natAbs
  · rw [if_pos hlong, if_pos hlong]
  · rw [if_neg hlong, if_neg hlong]
    by_cases hdvd : b ∣ n
    · simp [hdvd]
    · simp [hdvd, NumberCheck.limitViolation, Quantity.text, Whole.text_eq_toString hbase,
        notMultiple]

/-! ## Rule texts -/

/-- The text `rules` is the one rule on multiples, and its argument stands for the number `b`. -/
def AsksMultiple (rules : String) (b : Int) : Prop :=
  ∃ raw, Token.parse (some rules) = .ok [⟨"multiple", some raw⟩] ∧
    Argument.read raw (some "multiple") = .ok (.int b)

/-- A base `b` that stands in a rule text has 100 digits at most. -/
theorem AsksMultiple.lt (h : AsksMultiple rules b) : b.natAbs < tenTo 100 := by
  obtain ⟨raw, -, hread⟩ := h
  cases Argument.read_isArgument hread with
  | int hb => exact hb

theorem AsksMultiple.build (h : AsksMultiple rules b) (hb : 0 < b) :
    Validator.build .standard (some rules) "number" =
      .ok (Validator.ofRules .number [.check (.number (.multiple (.whole b)))]) := by
  obtain ⟨raw, hparse, hread⟩ := h
  have hle : (Quantity.whole b).le (.whole 0) = false := by
    rw [Quantity.le_whole, decide_eq_false_iff_not]
    omega
  exact Validator.build_single rfl hparse (.made (Token.value_of_read hread) (.multiple rfl hle))

/-- **The name and the text of the base** `b` ask for its multiples. -/
theorem asksMultiple_text (hbase : b.natAbs < tenTo 100) :
    AsksMultiple ("multiple:" ++ toString b) b :=
  asksWith_text "multiple" (by decide) hbase

/-! ## Fields -/

/-- A value that stands for the whole number `n` of 4300 digits at most: the number, or a text of
    it. -/
inductive Stands : Value → Int → Prop
  | int {n : Int} : n.natAbs < tenTo 4300 → Stands (.int n) n
  | text {s : String} {n : Int} : Whole.Spells 4300 s.toList n → Stands (.text s) n

theorem Stands.lt (h : Stands x n) : n.natAbs < tenTo 4300 := by
  cases h with
  | int hn => exact hn
  | text hs => exact Whole.natAbs_lt_of_spells hs

/-- A number `n` and its texts are judged alike by one check `c`. -/
theorem Stands.judge (h : Stands x n) (c : Check) :
    (Validator.ofRules .number [.check c]).judge label x = c.apply label (.int n) := by
  cases h with
  | int _ => exact Validator.judge_check_int
  | text hs => exact Validator.judge_check_numeral (Whole.numberOfText_of_spells hs)

/-- **Multiples of whole numbers.** A positive base `b` can be asked for by its text if it has 100
    digits at most, and otherwise not at all; a number `n` of 4300 digits at most can be given as
    such or as its text.  A field with this one rule accepts the multiples of `b` and reports all
    other numbers exactly if `n` is less than 10^28 times `b`.  From there on it has no answer. -/
theorem multiple_divides (label : String) (hb : 0 < b) (n : Int) :
    (b.natAbs < tenTo 100 → AsksMultiple ("multiple:" ++ toString b) b) ∧
    (n.natAbs < tenTo 4300 → Stands (.int n) n ∧ Stands (.text (toString n)) n) ∧
    ∀ rules x, AsksMultiple rules b → Stands x n →
      b.natAbs < tenTo 100 ∧
      ∃ v, Validator.build .standard (some rules) "number" = .ok v ∧
        (((v.judge label x = .ok none ↔ b ∣ n) ∧
          (v.judge label x = .ok (some (notMultiple label b)) ↔ ¬ b ∣ n)) ↔
            n.natAbs < tenTo 28 * b.natAbs) ∧
        (tenTo 28 * b.natAbs ≤ n.natAbs → v.judge label x = .error .quotientTooLong) := by
  refine ⟨asksMultiple_text, fun hn => ⟨.int hn, .text (Whole.spells_toString (by decide) hn)⟩, ?_⟩
  intro rules x hasks hx
  have hbase : b.natAbs < tenTo Whole.digitLimit :=
    Nat.lt_of_lt_of_le hasks.lt (tenTo_le (by decide))
  refine ⟨hasks.lt, _, hasks.build hb, ?_⟩
  rw [hx.judge, Check.apply_multiple hb hbase hx.lt]
  by_cases hlong : tenTo 28 * b.natAbs ≤ n.natAbs
  · -- no answer, so neither of the two that there should be
    rw [if_pos hlong]
    refine ⟨iff_of_false ?_ (Nat.not_lt.2 hlong), fun _ => rfl⟩
    rintro ⟨haccepts, hreports⟩
    by_cases hdvd : b ∣ n
    · exact absurd (haccepts.2 hdvd) (by simp)
    · exact absurd (hreports.2 hdvd) (by simp)
  · rw [if_neg hlong]
    refine ⟨iff_of_true ?_ (Nat.not_le.1 hlong), fun h => absurd h hlong⟩
    by_cases hdvd : b ∣ n
    · simp [hdvd]
    · simp [hdvd]

/-- The base and the number have zeros in front, and the number is the largest multiple of the base
    that is accepted, with a minus. -/
theorem multiple_of_seven :
    ∃ v, Validator.build .standard (some "multiple:007") "number" = .ok v ∧
      v.judge "Count" (.text "-0069999999999999999999999999993") = .ok none ∧
      (7 : Int) ∣ -69999999999999999999999999993 := by
  have hasks : AsksMultiple "multiple:007" 7 := ⟨"007", by decide +kernel, rfl⟩
  have hstands :
      Stands (.text "-0069999999999999999999999999993") (-69999999999999999999999999993) := by
    refine .text ?_
    show Whole.Spells 4300 ((some '-').toList ++ "0069999999999999999999999999993".toList)
      (Whole.signed (some '-') "0069999999999999999999999999993".toList)
    exact .mk (.inr (.inr rfl)) (by decide) (by decide) (List.all_eq_true.1 (by decide))
  have hdvd : (7 : Int) ∣ -69999999999999999999999999993 := by decide
  obtain ⟨-, -, hjudge⟩ := multiple_divides "Count" (by decide : (0 : Int) < 7) _
  obtain ⟨-, v, hbuild, hexact, -⟩ := hjudge "multiple:007" _ hasks hstands
  exact ⟨v, hbuild, (hexact.2 (by decide)).1.2 hdvd, hdvd⟩

/-- One divides every number, but from 10^28 on there is no answer. -/
theorem multiple_of_one :
    Validator.build .standard (some "multiple:1") "number" =
        .ok (Validator.ofRules .number [.check (.number (.multiple (.whole 1)))]) ∧
      (Validator.ofRules .number [.check (.number (.multiple (.whole 1)))]).judge "value"
          (.int (tenTo 28)) = .error .quotientTooLong ∧
      (1 : Int) ∣ tenTo 28 := by
  have hasks : AsksMultiple "multiple:1" 1 := ⟨"1", by decide +kernel, rfl⟩
  have hshort : (tenTo 28 : Int).natAbs < tenTo Whole.digitLimit :=
    Nat.lt_of_lt_of_le (by decide : _ < tenTo 29) (tenTo_le (by decide))
  have hbase : (1 : Int).natAbs < tenTo Whole.digitLimit :=
    Nat.lt_of_lt_of_le (by decide : _ < tenTo 1) (tenTo_le (by decide))
  refine ⟨hasks.build (by decide), ?_, Int.one_dvd _⟩
  rw [Validator.judge_check_int, Check.apply_multiple (by decide) hbase hshort]
  exact if_pos (by decide)

end Rulebook
