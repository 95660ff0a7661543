/-
  Whole numbers and their texts are interchangeable.

      42      "42"      "+0042"

  On a field for numbers these three come to the same, whatever the rules are: the same outcome,
  with the same message, or the same fault.  A text is first looked up among the allowed values as
  it stands, a number as that number, and only then are the two alike.  So this is what has to be
  ruled out:

      allowed      a rule text     the text            the number
      the number   `allow:42`      converted, then     accepted as it is
                                   accepted
      the text     (none)          accepted as it is   rejected

  1. `read_ne_text_of_spells`, `member_admitted_eq_false`: no argument stands for the text of a
     number, so no such text is ever allowed;
  2. `judge_int`: a number passes as it is where it would pass as converted;
  3. `judge_text_eq_judge_int`: whole rule texts.

  The crux is 1.  An argument that is the text of a number is read as the number, or it is too long
  and refused.
-/
import Rulebook.Proofs.Unanswered
import Rulebook.Proofs.WholeTexts

namespace Rulebook

open Rulebook.Text Rulebook.Number Tokens

variable {type : BaseType} {ts : List Token} {v : Validator} {label s : String} {n : Int}

/-! ## Texts of numbers are never allowed -/

/-- No argument stands for the text `s` of a whole number, however long the text is. -/
theorem Argument.read_ne_text_of_spells {most : Nat} {raw : String} {rule : Option String}
    (hs : Whole.Spells most s.toList n) : read raw rule ≠ .ok (.text s) := by
  intro hread
  obtain ⟨rfl, hwhole, -, -⟩ := read_eq_text_iff.1 hread
  obtain ⟨sign, ds, hwrites, hne, -⟩ := Whole.writes_of_spells hs
  have hnumber : WritesNumber s.toList (Whole.numeral sign ds) := ⟨hwrites, hne⟩
  rw [← dropLineEnd_eq_self hnumber.getLast?_ne] at hnumber
  exact readWhole?_eq_none_iff.1 hwhole _ hnumber

namespace Tokens

/-- A text `s` for which no argument stands is not allowed, unless it is the empty one. -/
theorem member_admitted_of_not_read (hne : s ≠ "")
    (hread : ∀ raw rule, Argument.read raw rule ≠ .ok (.text s)) :
    Value.member (admitted ts) (.text s) = false := by
  rw [← Bool.not_eq_true, Value.member_text_iff]
  intro hmem
  obtain ⟨t, -, ht⟩ := List.mem_filterMap.1 hmem
  rw [Option.ite_none_right_eq_some, Option.some.injEq] at ht
  obtain ⟨-, ht⟩ := ht
  cases hargument : argument? t with
  | none =>
    -- without an argument it is the empty text that is allowed
    rw [hargument] at ht
    exact hne (Value.text.inj ht).symm
  | some w =>
    rw [hargument] at ht
    obtain rfl : w = .text s := ht
    obtain ⟨raw, -, hraw⟩ := read_of_argument? hargument
    exact hread raw _ hraw

/-- **No text `s` of a whole number is allowed as it stands.** -/
theorem member_admitted_eq_false {most : Nat} (hs : Whole.Spells most s.toList n) :
    Value.member (admitted ts) (.text s) = false := by
  refine member_admitted_of_not_read ?_ fun raw rule => Argument.read_ne_text_of_spells hs
  exact fun hempty => Whole.ne_nil_of_spells hs (String.toList_eq_nil_iff.2 hempty)

/-! ## Judgements -/

/-- A whole number `n` that is not forbidden is judged as what it is converted to, which is
    itself. -/
theorem judge_int (hv : Gathered .number ts v) :
    v.judge label (.int n) =
      if v.forbidden then .ok (some ⟨"any.unknown", labelled label "is not allowed"⟩)
      else v.judgeConverted label (.int n) := by
  exact judge_of_convert (by simp) id ((convert_eq_ok_iff hv).2 .whole)

/-- Neither is the text `s` of a number allowed as it stands, so it is judged as the number `n`. -/
theorem judge_text (hv : Gathered .number ts v)
    (hs : Whole.Spells Whole.digitLimit s.toList n) :
    v.judge label (.text s) =
      if v.forbidden then .ok (some ⟨"any.unknown", labelled label "is not allowed"⟩)
      else v.judgeConverted label (.int n) := by
  refine judge_of_convert (by simp) ?_
    (convert_of_numeral hv.type_eq (Whole.numberOfText_of_spells hs))
  simp [hv.allowed_eq, member_admitted_eq_false hs]

/-- **Whole numbers and their texts are interchangeable.** Where a rule text makes a validator `v`
    for numbers, a number `n` and a text `s` of it, with or without a sign and with as many zeros
    in front as there is room for in 4300 digits, are judged alike: they have the same outcome or
    the same fault, under every `label`. -/
theorem judge_text_eq_judge_int {table : TypeTable} {rules : Option String} {name : String}
    (hbuild : Validator.build table rules name = .ok v) (htype : table.find? name = some .number)
    (hs : Whole.Spells 4300 s.toList n) (label : String) :
    v.judge label (.text s) = v.judge label (.int n) := by
  obtain ⟨type, ts, rs, htype', -, hrs, rfl⟩ := build_eq_ok_iff.1 hbuild
  obtain rfl : BaseType.number = type := Option.some.inj (htype.symm.trans htype')
  have hv := gathered_of_rulesOf hrs
  rw [judge_int hv, judge_text hv hs]

/-- Seven would be allowed, and of minus ten two checks are broken.  The text has a sign and zeros
    in front, and the message is that of the number. -/
theorem judge_text_of_minus_ten :
    ∃ v, Validator.build .standard (some "allow:7||multiple:3||custom_list:7,8") "number" = .ok v ∧
      v.judge "Count" (.text "-0010") = v.judge "Count" (.int (-10)) ∧
      v.judge "Count" (.int (-10)) =
        .ok (some ⟨"number.multiple", labelled "Count" "must be a multiple of 3"⟩) := by
  have hjudge : ((Validator.build .standard (some "allow:7||multiple:3||custom_list:7,8")
      "number").bind fun v => v.judge "Count" (.int (-10))) =
        .ok (some ⟨"number.multiple", labelled "Count" "must be a multiple of 3"⟩) := by
    decide +kernel
  obtain ⟨v, hbuild, hjudge⟩ := exists_build_of_bind hjudge
  have hspells : Whole.Spells 4300 "-0010".toList (-10) := by
    show Whole.Spells 4300 ((some '-').toList ++ "0010".toList)
      (Whole.signed (some '-') "0010".toList)
    exact .mk (.inr (.inr rfl)) (by decide) (by decide) (List.all_eq_true.1 (by decide))
  exact ⟨v, hbuild, judge_text_eq_judge_int hbuild rfl hspells "Count", hjudge⟩

end Tokens

end Rulebook
