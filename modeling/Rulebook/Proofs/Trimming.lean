/-
  Trimming is stripping beforehand.

  With a `trim` in front of its rules, a field says of a text what it says without the `trim` of
  the text that has no blanks at its ends:

      the text       trim||min:3                the stripped text    min:3
      "  abc "       accepted                   "abc"                accepted
      " a "          length must be at least    "a"                  length must be at least
      "   "          is not allowed to be       ""                   is not allowed to be
                     empty                                           empty

  The blanks are taken off inside the conversion, and there is a look at the allowed values before
  it.  So a text that is allowed with its blanks on is accepted by the first field, whatever the
  second one says of it without them.

  1. `ofRules_trim_cons`: the rules behind a `trim` make what they make without it, switched to
     trimming;
  2. `judge_text_of_not_trim`: where nothing is trimmed, a text is judged as what it is converted
     to, although it is looked up before;
  3. `judge_add_trim`: one `trim` in a validator;
  4. `judge_trim_eq_judge_strip`: whole rule texts.

  The crux is 2.  What is left of a text can be an allowed value though the text is none.  The field
  that does not trim finds it by the first look, the one that trims by the second.
-/
import Rulebook.Proofs.Conjunction

namespace Rulebook

open Rulebook.Text Tokens

namespace Validator

variable {type : BaseType} {v : Validator} {label s : String} {y : Value}

/-! ## A switch among rules -/

/-- **The step**: it does not matter on which side of a rule `r` the switch `trim` is put on. -/
theorem add_trim_add (v : Validator) (r : Rule) : (v.add .trim).add r = (v.add r).add .trim := by
  cases r <;> rfl

/-- **The run**: nor on which side of any rules `rs`. -/
theorem foldl_add_trim (v : Validator) (rs : List Rule) :
    rs.foldl add (v.add .trim) = (rs.foldl add v).add .trim := by
  induction rs generalizing v with
  | nil => rfl
  | cons r rs ih => rw [List.foldl_cons, List.foldl_cons, add_trim_add, ih]

theorem ofRules_trim_cons (type : BaseType) (rs : List Rule) :
    ofRules type (.trim :: rs) = (ofRules type rs).add .trim :=
  foldl_add_trim (empty type) rs

/-! ## The conversion -/

/-- With `trim` put on, `convertText` makes of a text `s` what it makes without it of `strip s`. -/
theorem convertText_add_trim (htrim : v.trim = false) :
    (v.add .trim).convertText label (.text s) = v.convertText label (.text (strip s)) := by
  simp [convertText, add, htrim]

/-- A text that is among `v.allowed` as it is is converted, and to itself: it is not empty, or the
    empty text is the one that is allowed. -/
theorem convertText_of_member (htrim : v.trim = false)
    (hallowed : Value.member v.allowed (.text s) = true) :
    v.convertText label (.text s) = .ok (.text s) := by
  by_cases hempty : s = ""
  · obtain rfl := hempty
    simp [convertText, htrim, hallowed]
  · simp [convertText, htrim, hempty]

/-- Behind the conversion, `judgeConverted` does not look at `trim`. -/
theorem judgeConverted_add_trim :
    (v.add .trim).judgeConverted label y = v.judgeConverted label y := rfl

/-! ## The judgement -/

/-- Without `trim`, a text is judged by its conversion, whether it is among `v.allowed` as it is or
    not: if it is, it is so as converted, too. -/
theorem judge_text_of_not_trim (htype : v.type = .text) (htrim : v.trim = false) :
    v.judge label (.text s) =
      if v.forbidden then .ok (some ⟨"any.unknown", labelled label "is not allowed"⟩)
      else
        match v.convertText label (.text s) with
        | .error violation => .ok (some violation)
        | .ok converted => v.judgeConverted label converted := by
  by_cases hallowed : Value.member v.allowed (.text s) = true
  · have hconvert : v.convertText label (.text s) = .ok (.text s) :=
      convertText_of_member htrim hallowed
    rw [hconvert]
    exact judge_of_convert (by simp) id (by rw [convert_of_text htype, hconvert])
  · rw [judge_of_present (by simp), if_neg hallowed, convert_of_text htype]
    rcases v.convertText label (.text s) with violation | converted <;> rfl

/-- **One `trim` in a validator**, for a text that is not among `v.allowed` with its blanks on: it
    is judged as `strip s` is without the `trim`. -/
theorem judge_add_trim (htype : v.type = .text) (htrim : v.trim = false)
    (hallowed : Value.member v.allowed (.text s) = false) :
    (v.add .trim).judge label (.text s) = v.judge label (.text (strip s)) := by
  have htype' : (v.add .trim).type = .text := htype
  have hforbidden : (v.add .trim).forbidden = v.forbidden := rfl
  have hmember : ¬ Value.member (v.add .trim).allowed (.text s) = true := by
    rw [Bool.not_eq_true]
    exact hallowed
  rw [judge_text_of_not_trim htype htrim, judge_of_present (by simp), hforbidden, if_neg hmember,
    convert_of_text htype', convertText_add_trim htrim]
  rcases v.convertText label (.text (strip s)) with violation | converted
  · rfl
  · simp only [judgeConverted_add_trim]

end Validator

namespace Tokens

variable {name rules : String} {ts : List Token} {v : Validator}

/-- **Trimming is stripping beforehand.** Let the rule text `rules`, which has tokens (`hrules`)
    and no `trim` among them (`hplain`), make a validator `v` for texts.  Then `trim||` in front of
    it makes one, too, which is `w`.  On each text `s` that is not among the `admitted` ones,
    `w.judge` is `v.judge` on `strip s`: the same outcome, with the same message, or the same
    fault. -/
theorem judge_trim_eq_judge_strip {table : TypeTable} (htype : table.find? name = some .text)
    (hparse : Token.parse (some rules) = .ok ts)
    (hbuild : Validator.build table (some rules) name = .ok v) (hrules : rules ≠ "")
    (hplain : mentions "trim" ts = false) :
    ∃ w, Validator.build table (some ("trim" ++ "||" ++ rules)) name = .ok w ∧
      ∀ label s, .text s ∉ admitted ts →
        w.judge label (.text s) = v.judge label (.text (strip s)) := by
  obtain ⟨rs, hrs, rfl⟩ := rulesOf_of_build htype hparse hbuild
  have hv := gathered_of_rulesOf hrs
  have htrims : MakesRules .text "trim" [.trim] :=
    ⟨[⟨"trim", none⟩], by decide, rulesOf_eq_ok_iff.2 (.cons (.made rfl .trim) .nil)⟩
  have hmakes : MakesRules .text rules rs := ⟨ts, hparse, hrs⟩
  have hbuild' := (htrims.append hmakes (by decide) hrules (by decide)).build htype
  refine ⟨_, hbuild', fun label s hs => ?_⟩
  have hallowed : Value.member (Validator.ofRules .text rs).allowed (.text s) = false := by
    rwa [hv.allowed_eq, ← Bool.not_eq_true, Value.member_text_iff]
  show (Validator.ofRules .text (.trim :: rs)).judge label (.text s) = _
  rw [Validator.ofRules_trim_cons]
  exact Validator.judge_add_trim hv.type_eq (hv.trim_eq.trans hplain) hallowed

/-- The message that quotes the text quotes it without its blanks, of which `\u2003` is no ASCII
    character. -/
theorem judge_trim_of_quoted_text :
    ∃ v w, Validator.build .standard (some "min:3||regex:/^[a-c]+$/||allow:n a") "string" = .ok v ∧
      Validator.build .standard
        (some ("trim" ++ "||" ++ "min:3||regex:/^[a-c]+$/||allow:n a")) "string" = .ok w ∧
      w.judge "Name" (.text "\u2003a d\t") = v.judge "Name" (.text "a d") ∧
      v.judge "Name" (.text "a d") = .ok (some ⟨"string.pattern.base", labelled "Name"
        "with value \"a d\" fails to match the required pattern: /^[a-c]+$/"⟩) := by
  have hjudge : ((Validator.build .standard (some "min:3||regex:/^[a-c]+$/||allow:n a")
      "string").bind fun v => v.judge "Name" (.text "a d")) =
        .ok (some ⟨"string.pattern.base", labelled "Name"
          "with value \"a d\" fails to match the required pattern: /^[a-c]+$/"⟩) := by
    decide +kernel
  obtain ⟨v, hbuild, hjudge⟩ := exists_build_of_bind hjudge
  have htype : TypeTable.standard.find? "string" = some .text := rfl
  have hparse : Token.parse (some "min:3||regex:/^[a-c]+$/||allow:n a") =
      .ok [⟨"min", some "3"⟩, ⟨"regex", some "/^[a-c]+$/"⟩, ⟨"allow", some "n a"⟩] := by
    decide
  obtain ⟨w, hbuild', hall⟩ :=
    judge_trim_eq_judge_strip htype hparse hbuild (by decide) (by decide)
  have hstrip : strip "\u2003a d\t" = "a d" := by decide
  have hs : .text "\u2003a d\t" ∉
      admitted [⟨"min", some "3"⟩, ⟨"regex", some "/^[a-c]+$/"⟩, ⟨"allow", some "n a"⟩] := by
    rw [← Value.member_text_iff]
    decide +kernel
  have hsame := hall "Name" _ hs
  rw [hstrip] at hsame
  exact ⟨v, w, hbuild, hbuild', hsame, hjudge⟩

end Tokens

end Rulebook
