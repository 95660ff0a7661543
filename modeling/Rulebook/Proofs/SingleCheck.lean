/-
  Fields whose rule text is one check.

  Of the stages of a verdict two are left: the value is converted, and the check is made.

      absent  ·  forbidden  ·  allowed  ·  CONVERTED  ·  allowed  ·  valid  ·  invalid  ·  CHECKED

  1. `build_single`, `build_form`: the validator of a text that is one token;
  2. `judge_check`: what it says of a value;
  3. `judge_form_eq_none_iff`, `judge_form_eq_violation`: texts, for the forms that they can be
     asked to have;
  4. `judge_check_int`, `judge_check_numeral`, `judge_check_unread`: whole numbers, texts that are
     read as one, and texts that are too long for that;
  5. `apply_of_accepts`: texts that are read as a floating-point number.
-/
import Rulebook.Proofs.Verdict

namespace Rulebook

open Rulebook.Text Rulebook.Number

namespace Validator

variable {type : BaseType} {c : Check} {f : TextForm} {label s : String} {x y : Value} {n : Int}

/-! ## The validator -/

/-- The validator of a rule text that is the one token `t`, which means the rule `r`. -/
theorem build_single {table : TypeTable} {rules name : String} {t : Token} {r : Rule}
    (htype : table.find? name = some type) (hts : Token.parse (some rules) = .ok [t])
    (hmeans : Token.Means type t r) :
    build table (some rules) name = .ok (ofRules type [r]) :=
  Tokens.build_eq_ok_iff.2
    ⟨type, [t], [r], htype, hts, Tokens.rulesOf_eq_ok_iff.2 (.cons hmeans .nil), rfl⟩

/-- The name of a form `f` is a rule text by itself. -/
theorem build_form (f : TextForm) :
    build .standard (some f.name) "string" = .ok (ofRules .text [.ofText (.form f)]) := by
  have hts : Token.parse (some f.name) = .ok [⟨f.name, none⟩] := by
    cases f <;> decide +kernel
  exact build_single rfl hts (.made rfl (.form f))

theorem ofRules_check (type : BaseType) (c : Check) :
    ofRules type [.check c] = { empty type with checks := [c] } := by
  simp [ofRules, add, addCheck, empty]

theorem type_ofRules_check : (ofRules type [.check c]).type = type := by
  rw [ofRules_check]
  rfl

/-! ## The judgement -/

/-- The outcome of a list of one check `c` is that of the check. -/
theorem runChecks_singleton : runChecks label y [c] = c.apply label y := by
  by_cases hc : c.apply label y = .ok none
  · rw [runChecks_cons_of_pass [] hc, hc, runChecks]
  · exact runChecks_cons_of_stop [] hc

theorem judgeConverted_check :
    (ofRules type [.check c]).judgeConverted label y = c.apply label y := by
  rw [ofRules_check, ← runChecks_singleton]
  rfl

/-- A value `x` that is there is converted, and then the check `c` is made. -/
theorem judge_check (hx : x ≠ .null) :
    (ofRules type [.check c]).judge label x =
      match (ofRules type [.check c]).convert label x with
      | .error e => .error e
      | .ok (.error violation) => .ok (some violation)
      | .ok (.ok y) => c.apply label y := by
  have hforbidden : (ofRules type [.check c]).forbidden = false := by rw [ofRules_check]; rfl
  have hallowed : (ofRules type [.check c]).allowed = [] := by rw [ofRules_check]; rfl
  rw [Tokens.judge_of_present hx, hforbidden, hallowed]
  rcases (ofRules type [.check c]).convert label x with e | violation | y
  · rfl
  · rfl
  · exact judgeConverted_check

/-! ## Texts -/

/-- A text `s` with something in it is its own conversion. -/
theorem judge_check_text (hs : s ≠ "") :
    (ofRules .text [.check c]).judge label (.text s) = c.apply label (.text s) := by
  have hconvert : (ofRules .text [.check c]).convert label (.text s) = .ok (.ok (.text s)) := by
    rw [ofRules_check]
    simp [convert, convertText, empty, hs]
  rw [judge_check (by simp), hconvert]

/-- An empty text is a violation before the check `c` is made. -/
theorem judge_check_empty :
    (ofRules .text [.check c]).judge label (.text "") =
      .ok (some ⟨"string.empty", labelled label "is not allowed to be empty"⟩) := by
  rw [judge_check (by simp), ofRules_check]
  rfl

theorem judge_form (hs : s ≠ "") :
    (ofRules .text [.ofText (.form f)]).judge label (.text s) =
      match f.holds s.toList with
      | .ok true => .ok none
      | .ok false => .ok (some ⟨"string." ++ f.name, labelled label f.demand⟩)
      | .error e => .error e :=
  judge_check_text hs

theorem judge_form_eq_none_iff (hs : s ≠ "") :
    (ofRules .text [.ofText (.form f)]).judge label (.text s) = .ok none ↔
      f.holds s.toList = .ok true := by
  rw [judge_form hs]
  rcases f.holds s.toList with e | _ | _ <;> simp

/-- Where there is an answer, a text `s` that is not accepted is reported under the name of the
    form `f`. -/
theorem judge_form_eq_violation (hs : s ≠ "") (hanswer : ∃ b, f.holds s.toList = .ok b)
    (hnot : (ofRules .text [.ofText (.form f)]).judge label (.text s) ≠ .ok none) :
    (ofRules .text [.ofText (.form f)]).judge label (.text s) =
      .ok (some ⟨"string." ++ f.name, labelled label f.demand⟩) := by
  obtain ⟨b, hb⟩ := hanswer
  rw [ne_eq, judge_form_eq_none_iff hs, hb] at hnot
  rw [judge_form hs, hb]
  cases b with
  | true => exact absurd rfl hnot
  | false => rfl

/-! ## Whole numbers -/

theorem judge_check_int :
    (ofRules .number [.check c]).judge label (.int n) = c.apply label (.int n) := by
  have hconvert : (ofRules .number [.check c]).convert label (.int n) = .ok (.ok (.int n)) := by
    rw [ofRules_check]
    rfl
  rw [judge_check (by simp), hconvert]

/-- A text `s` that is read as the number `n` is judged as that number. -/
theorem judge_check_numeral (hs : numberOfText s = .ok (some (.int n))) :
    (ofRules .number [.check c]).judge label (.text s) = c.apply label (.int n) := by
  rw [judge_check (by simp), Tokens.convert_of_numeral type_ofRules_check hs]
  rfl

/-- A text `s` that is not read has no answer. -/
theorem judge_check_unread {e : Fault} (hs : numberOfText s = .error e) :
    (ofRules .number [.check c]).judge label (.text s) = .error e := by
  have hconvert : (ofRules .number [.check c]).convert label (.text s) = .error e := by
    simp [convert, type_ofRules_check, hs]
  rw [judge_check (by simp), hconvert]

/-! ## Floating-point numbers -/

/-- A text `s` that is read as the floating-point number `d` is accepted as that one, which is
    finite. -/
theorem apply_of_accepts {d : Double} (hs : numberOfText s = .ok (some (.float d)))
    (haccepts : (ofRules .number [.check c]).judge label (.text s) = .ok none) :
    ∃ negative units, d = .finite negative units ∧
      c.apply label (.float (.finite negative units)) = .ok none := by
  rw [judge_check (by simp), Tokens.convert_of_numeral type_ofRules_check hs] at haccepts
  cases d with
  | finite negative units => exact ⟨negative, units, rfl, haccepts⟩
  | infinite negative => simp [convertNumber] at haccepts
  | nan => simp [convertNumber] at haccepts

end Validator

end Rulebook
