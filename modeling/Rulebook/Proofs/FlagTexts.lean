/-
  Texts that stand for flags.

  A field for flags looks a value up twice, first among the values that stand for true, then among
  those that stand for false:

                    truthy:ja||falsy:no      truthy:False||falsy:no
      "JA"          true                     no flag
      "No"          false                    false
      "false"       false                    true
      false         false                    false

  1. `judge_of_lower_eq`: texts that differ in case only are told apart by a `sensitive` or by an
     allowed value, and by nothing else;
  2. `not_truthy_false`: only a truthy argument that is `false` but for its case takes the flag or
     the text for true;
  3. `convert_of_true`, `convert_of_false`: a flag and its text are converted to the flag;
  4. `judge_flag_texts`: whole rule texts.

  The crux is 2.  What a `truthy` is given is read before it is put among the values, and an
  argument that is `true` or `false` is read as the flag.
-/
import Rulebook.Proofs.Interchange

namespace Rulebook

open Rulebook.Text Tokens

variable {ts : List Token} {v : Validator} {label s t : String} {x : Value}

/-! ## Case -/

/-- Where case does not count, `flagAgrees` says the same of two texts that `lower` makes equal. -/
theorem Validator.flagAgrees_of_lower_eq (hlower : lower s = lower t) :
    Validator.flagAgrees false (.text s) = Validator.flagAgrees false (.text t) := by
  funext candidate
  cases candidate <;> simp [Validator.flagAgrees, Value.same, hlower]

namespace Tokens

/-- Without an `allow` no value is `admitted`. -/
theorem admitted_eq_nil (hallow : mentions "allow" ts = false) : admitted ts = [] := by
  rw [mentions, List.any_eq_false] at hallow
  refine List.filterMap_eq_nil_iff.2 fun t ht => if_neg ?_
  simpa using hallow t ht

/-- Texts that differ in case only are judged alike without `sensitive` (`hcase`) and without
    `allow` (`hallow`): what is left are the lists of `truthy` and `falsy`, which do not tell them
    apart. -/
theorem judge_of_lower_eq (hv : Gathered .flag ts v) (hcase : mentions "sensitive" ts = false)
    (hallow : mentions "allow" ts = false) (hlower : lower s = lower t) :
    v.judge label (.text s) = v.judge label (.text t) := by
  have hsensitive : v.sensitive = false := hv.sensitive_eq.trans hcase
  have hnone (x : Value) : ¬ Value.member v.allowed x = true := by
    rw [hv.allowed_eq, admitted_eq_nil hallow]
    exact Bool.false_ne_true
  have hconvert : v.convert label (.text s) = v.convert label (.text t) := by
    rw [convert_of_flag hv.type_eq, convert_of_flag hv.type_eq, Validator.convertFlag,
      Validator.convertFlag, hsensitive, Validator.flagAgrees_of_lower_eq hlower]
  rw [judge_of_present (by simp), judge_of_present (by simp), if_neg (hnone _), if_neg (hnone _),
    hconvert]

/-! ## What is truthy -/

/-- Only the text `false` is read as the false flag. -/
theorem raw_of_read_false {raw : String} {rule : Option String}
    (h : Argument.read raw rule = .ok (.bool false)) : raw = "false" := by
  have hchain := Argument.chain_read raw rule
  rw [h] at hchain
  cases hchain with
  | no hraw => exact hraw

/-- No argument is read as one of the texts `true` and `false`, which are those of flags. -/
theorem read_ne_text_of_flag (hs : s = "true" ∨ s = "false") (raw : String) (rule : Option String) :
    Argument.read raw rule ≠ .ok (.text s) := by
  intro h
  obtain ⟨rfl, -, hflag, -⟩ := Argument.read_eq_text_iff.1 h
  obtain ⟨htrue, hfalse⟩ := Argument.readFlag?_eq_none_iff.1 hflag
  exact hs.elim htrue hfalse

/-- A flag or a text that is false, and no other value. -/
def IsFalse (x : Value) : Prop := x = .bool false ∨ x = .text "false"

/-- **A value that `IsFalse` does not stand for true**, whether `sensitive` or not, if no truthy
    argument is `false` but for its case (`htruthy`). -/
theorem not_truthy_false {sensitive : Bool} (hx : IsFalse x)
    (htruthy : ∀ raw, ⟨"truthy", some raw⟩ ∈ ts → lower raw ≠ "false") :
    (truths ts).any (Validator.flagAgrees sensitive x) = false := by
  have hlower : lower "false" = "false" := by decide
  rw [List.any_eq_false]
  intro candidate hcandidate
  rcases List.mem_append.1 hcandidate with hfirst | hgiven
  · -- the two that are always there
    simp only [List.mem_cons, List.not_mem_nil, or_false] at hfirst
    have htrue : lower "true" = "true" := by decide
    rcases hfirst with rfl | rfl <;> rcases hx with rfl | rfl <;>
      simp [Validator.flagAgrees, hlower, htrue]
  · obtain ⟨raw, hraw, hread⟩ := read_of_mem_given hgiven
    have hne : raw ≠ "false" := by
      rintro rfl
      exact htruthy _ hraw hlower
    cases candidate with
    | bool b =>
      cases b with
      | false => exact absurd (raw_of_read_false hread) hne
      | true => rcases hx with rfl | rfl <;> simp [Validator.flagAgrees]
    | text body =>
      obtain ⟨rfl, -⟩ := Argument.read_eq_text_iff.1 hread
      have hcases := htruthy _ hraw
      rcases hx with rfl | rfl <;>
        simp [Validator.flagAgrees, hlower, hne.symm, hcases.symm]
    | _ => rcases hx with rfl | rfl <;> simp [Validator.flagAgrees, Value.same]

/-! ## The texts of the flags -/

/-- The flag `true` and its text are converted to `true`: they are among `truths` always. -/
theorem convert_of_true (hv : Gathered .flag ts v) (hx : x = .bool true ∨ x = .text "true") :
    v.convert label x = .ok (.ok (.bool true)) := by
  refine (convert_eq_ok_iff hv).2 (.true ?_)
  rcases hx with rfl | rfl <;> simp [truths, Validator.flagAgrees]

theorem convert_of_false (hv : Gathered .flag ts v) (hx : IsFalse x)
    (htruthy : ∀ raw, ⟨"truthy", some raw⟩ ∈ ts → lower raw ≠ "false") :
    v.convert label x = .ok (.ok (.bool false)) := by
  refine (convert_eq_ok_iff hv).2 (.false (not_truthy_false hx htruthy) ?_)
  rcases hx with rfl | rfl <;> simp [falsehoods, Validator.flagAgrees]

/-- The text `s` of a flag `b` is judged as `b` if it is converted to `b` (`htext`), as `b` is to
    itself (`hflag`): a text of a flag is never `admitted`. -/
theorem judge_text_eq_judge_flag {b : Bool} (hv : Gathered .flag ts v)
    (hs : s = "true" ∨ s = "false") (htext : v.convert label (.text s) = .ok (.ok (.bool b)))
    (hflag : v.convert label (.bool b) = .ok (.ok (.bool b))) :
    v.judge label (.text s) = v.judge label (.bool b) := by
  have hne : s ≠ "" := by rcases hs with rfl | rfl <;> decide
  have hnot : Value.member v.allowed (.text s) = false := by
    rw [hv.allowed_eq]
    exact member_admitted_of_not_read hne (read_ne_text_of_flag hs)
  rw [judge_of_convert (by simp) (by simp [hnot]) htext, judge_of_convert (by simp) id hflag]

/-- **Texts that stand for flags.** Let the tokens `ts` of a rule text make a validator `v` for
    flags.  If they mention neither `sensitive` nor `allow`, texts with the same `lower` are judged
    alike.  If none of the `truthy` arguments is `false` but for its case, the texts `true` and
    `false` are judged as the flags, whatever else the rules are. -/
theorem judge_flag_texts {table : TypeTable} {rules : Option String} {name : String}
    (htype : table.find? name = some .flag) (hparse : Token.parse rules = .ok ts)
    (hbuild : Validator.build table rules name = .ok v) :
    (mentions "sensitive" ts = false → mentions "allow" ts = false →
      ∀ label s t, lower s = lower t → v.judge label (.text s) = v.judge label (.text t)) ∧
    ((∀ raw, ⟨"truthy", some raw⟩ ∈ ts → lower raw ≠ "false") →
      ∀ label, v.judge label (.text "true") = v.judge label (.bool true) ∧
        v.judge label (.text "false") = v.judge label (.bool false)) := by
  obtain ⟨rs, hrs, rfl⟩ := rulesOf_of_build htype hparse hbuild
  have hv := gathered_of_rulesOf hrs
  refine ⟨fun hcase hallow label s t => judge_of_lower_eq hv hcase hallow, fun htruthy label => ?_⟩
  constructor
  · exact judge_text_eq_judge_flag hv (.inl rfl) (convert_of_true hv (.inr rfl))
      (convert_of_true hv (.inl rfl))
  · exact judge_text_eq_judge_flag hv (.inr rfl) (convert_of_false hv (.inr rfl) htruthy)
      (convert_of_false hv (.inl rfl) htruthy)

/-- Both cases of `ja` stand for true, and the one `valid` value is false. -/
theorem judge_flag_texts_of_truthy :
    ∃ v, Validator.build .standard (some "truthy:Ja||truthy:1||falsy:no||valid:false") "boolean" =
        .ok v ∧
      v.judge "Consent" (.text "JA") = v.judge "Consent" (.text "jA") ∧
      v.judge "Consent" (.text "true") = v.judge "Consent" (.bool true) ∧
      v.judge "Consent" (.text "false") = v.judge "Consent" (.bool false) ∧
      v.judge "Consent" (.text "JA") =
        .ok (some ⟨"any.only", labelled "Consent" "must be [False]"⟩) := by
  have hjudge : ((Validator.build .standard (some "truthy:Ja||truthy:1||falsy:no||valid:false")
      "boolean").bind fun v => v.judge "Consent" (.text "JA")) =
        .ok (some ⟨"any.only", labelled "Consent" "must be [False]"⟩) := by
    decide +kernel
  obtain ⟨v, hbuild, hjudge⟩ := exists_build_of_bind hjudge
  have hparse : Token.parse (some "truthy:Ja||truthy:1||falsy:no||valid:false") =
      .ok [⟨"truthy", some "Ja"⟩, ⟨"truthy", some "1"⟩, ⟨"falsy", some "no"⟩,
        ⟨"valid", some "false"⟩] := by
    decide
  obtain ⟨hcases, hflags⟩ := judge_flag_texts rfl hparse hbuild
  have htruthy : ∀ raw, (⟨"truthy", some raw⟩ : Token) ∈
      [⟨"truthy", some "Ja"⟩, ⟨"truthy", some "1"⟩, ⟨"falsy", some "no"⟩,
        ⟨"valid", some "false"⟩] → lower raw ≠ "false" := by
    intro raw hraw
    have hor : raw = "Ja" ∨ raw = "1" := by simpa using hraw
    rcases hor with rfl | rfl <;> decide
  have hsame := hcases (by decide) (by decide) "Consent" "JA" "jA" (by decide)
  exact ⟨v, hbuild, hsame, (hflags htruthy "Consent").1, (hflags htruthy "Consent").2, hjudge⟩

end Tokens

end Rulebook
