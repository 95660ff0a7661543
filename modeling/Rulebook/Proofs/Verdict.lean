/-
  The verdict on a value, stage by stage.

  A value is judged against the tokens of a rule text in eight stages, each of which looks at the
  tokens as a whole:

      absent · forbidden · allowed as it is · converted · allowed as converted
        · among the valid ones · among the invalid ones · checked

  1. `Converts`: what a type makes of a value;
  2. `Settles`: the stages behind the conversion;
  3. `Verdict`: all stages;
  4. `judge_eq_ok_iff_verdict`: a validator that comes out of a rule text gives a value an answer
     exactly if that answer is the verdict on it.

  Each stage of the judgement has one lemma that ties it to its relation; they meet in the last
  theorem.
-/
import Rulebook.Proofs.Reading

namespace Rulebook

open Rulebook.Text Rulebook.Number Tokens

namespace Tokens

/-! ## The stages -/

/-- The text `s`, without the blanks at its ends if some token of `ts` asks for that by `trim`. -/
def stripped (ts : List Token) (s : String) : String := if mentions "trim" ts then strip s else s

/-- The values that stand for true: the flag, its word, and those `given` under `truthy`. -/
def truths (ts : List Token) : List Value := [.bool true, .text "true"] ++ given "truthy" ts

/-- The values that stand for false: the flag, its word, and those `given` under `falsy`. -/
def falsehoods (ts : List Token) : List Value := [.bool false, .text "false"] ++ given "falsy" ts

/-- What a type makes of a value: a value of the type, or the violation of the type. -/
inductive Converts (ts : List Token) (label : String) :
    BaseType → Value → Except Violation Value → Prop
  | text {s : String} :
    (stripped ts s = "" → Value.member (admitted ts) (.text "") = true) →
      Converts ts label .text (.text s) (.ok (.text (stripped ts s)))
  | empty {s : String} :
    stripped ts s = "" → Value.member (admitted ts) (.text "") = false →
      Converts ts label .text (.text s)
        (.error ⟨"string.empty", labelled label "is not allowed to be empty"⟩)
  | noText {x : Value} :
    (∀ s, x ≠ .text s) →
      Converts ts label .text x (.error ⟨"string.base", labelled label "must be a string"⟩)
  | whole {n : Int} : Converts ts label .number (.int n) (.ok (.int n))
  | finite {negative : Bool} {units : Nat} :
    Converts ts label .number (.float (.finite negative units))
      (.ok (.float (.finite negative units)))
  | infinite {negative : Bool} :
    Converts ts label .number (.float (.infinite negative))
      (.error ⟨"number.infinity", labelled label "cannot be infinity"⟩)
  | nan :
    Converts ts label .number (.float .nan)
      (.error ⟨"number.base", labelled label "must be a number"⟩)
  | wholeText {s : String} {n : Numeral} {k : Int} :
    Numeral.readChars? (stripChars s.toList) = some n → n.isWhole = true →
    Whole.ofDigits (Numeral.isMinus n.sign) n.whole = .ok k →
      Converts ts label .number (.text s) (.ok (.int k))
  | finiteText {s : String} {n : Numeral} {negative : Bool} {units : Nat} :
    Numeral.readChars? (stripChars s.toList) = some n → n.isWhole = false →
    n.toDouble = .finite negative units →
      Converts ts label .number (.text s) (.ok (.float (.finite negative units)))
  | infiniteText {s : String} {n : Numeral} {negative : Bool} :
    Numeral.readChars? (stripChars s.toList) = some n → n.isWhole = false →
    n.toDouble = .infinite negative →
      Converts ts label .number (.text s)
        (.error ⟨"number.infinity", labelled label "cannot be infinity"⟩)
  | noNumeral {s : String} :
    Numeral.readChars? (stripChars s.toList) = none →
      Converts ts label .number (.text s)
        (.error ⟨"number.base", labelled label "must be a number"⟩)
  | noNumber {x : Value} :
    (∀ s, x ≠ .text s) → Check.quantity? x = none →
      Converts ts label .number x (.error ⟨"number.base", labelled label "must be a number"⟩)
  | true {x : Value} :
    (truths ts).any (Validator.flagAgrees (mentions "sensitive" ts) x) = true →
      Converts ts label .flag x (.ok (.bool true))
  | false {x : Value} :
    (truths ts).any (Validator.flagAgrees (mentions "sensitive" ts) x) = false →
    (falsehoods ts).any (Validator.flagAgrees (mentions "sensitive" ts) x) = true →
      Converts ts label .flag x (.ok (.bool false))
  | noFlag {x : Value} :
    (truths ts).any (Validator.flagAgrees (mentions "sensitive" ts) x) = false →
    (falsehoods ts).any (Validator.flagAgrees (mentions "sensitive" ts) x) = false →
      Converts ts label .flag x (.error ⟨"boolean.base", labelled label "must be a boolean"⟩)
  | any {x : Value} : Converts ts label .any x (.ok x)

/-- The value `y` reaches the stage of the checks: it is not allowed outright, no list of valid
    values is given, and it is no invalid one. -/
structure ReachesChecks (ts : List Token) (y : Value) : Prop where
  not_allowed : Value.member (admitted ts) y = false
  no_valid : given "valid" ts = []
  not_invalid : Value.member (given "invalid" ts) y = false

/-- What is said before the list of the valid values that `ts` gives. -/
def demandOfValid (ts : List Token) : String :=
  if (given "valid" ts).length = 1 then "must be [" else "must be one of ["

/-- What becomes of the value `y` when it has the type: it passes, or one of the lists or checks
    stops it. -/
inductive Settles (type : BaseType) (ts : List Token) (label : String) (y : Value) :
    Option Violation → Prop
  | allowed : Value.member (admitted ts) y = true → Settles type ts label y none
  | valid :
    Value.member (admitted ts) y = false → given "valid" ts ≠ [] →
    Value.member (given "valid" ts) y = true → Settles type ts label y none
  | only {names : String} :
    Value.member (admitted ts) y = false → given "valid" ts ≠ [] →
    Value.member (given "valid" ts) y = false → Value.listed (given "valid" ts) = .ok names →
      Settles type ts label y
        (some ⟨"any.only", labelled label (demandOfValid ts ++ names ++ "]")⟩)
  | invalid :
    Value.member (admitted ts) y = false → given "valid" ts = [] →
    Value.member (given "invalid" ts) y = true →
      Settles type ts label y
        (some ⟨"any.invalid", labelled label "contains an invalid value"⟩)
  | fails {before behind : List Check} {c : Check} {violation : Violation} :
    ReachesChecks ts y → checksOf type ts = before ++ c :: behind →
    (∀ d ∈ before, d.apply label y = .ok none) → c.apply label y = .ok (some violation) →
      Settles type ts label y (some violation)
  | passes :
    ReachesChecks ts y → (∀ c ∈ checksOf type ts, c.apply label y = .ok none) →
      Settles type ts label y none

/-- The value `x` is there, not forbidden, and not allowed as it is: it has to be converted. -/
structure ReachesConversion (ts : List Token) (x : Value) : Prop where
  present : x ≠ .null
  not_forbidden : mentions "forbidden" ts = false
  not_allowed : Value.member (admitted ts) x = false

/-- **The verdict on a value**: the first violation that the tokens `ts` find on a field of `type`,
    if they find one.  There is a constructor for each stage at which it can be settled. -/
inductive Verdict (type : BaseType) (ts : List Token) (label : String) :
    Value → Option Violation → Prop
  | missing :
    demanded ts = true →
      Verdict type ts label .null (some ⟨"any.required", labelled label "is required"⟩)
  | absent : demanded ts = false → Verdict type ts label .null none
  | forbidden {x : Value} :
    x ≠ .null → mentions "forbidden" ts = true →
      Verdict type ts label x (some ⟨"any.unknown", labelled label "is not allowed"⟩)
  | allowed {x : Value} :
    x ≠ .null → mentions "forbidden" ts = false → Value.member (admitted ts) x = true →
      Verdict type ts label x none
  | unconverted {x : Value} {violation : Violation} :
    ReachesConversion ts x → Converts ts label type x (.error violation) →
      Verdict type ts label x (some violation)
  | converted {x y : Value} {o : Option Violation} :
    ReachesConversion ts x → Converts ts label type x (.ok y) → Settles type ts label y o →
      Verdict type ts label x o

end Tokens

/-! ## The checks -/

namespace Validator

/-- A check `c` that is passed leaves it to the checks `cs` behind it. -/
theorem runChecks_cons_of_pass {label : String} {y : Value} {c : Check} (cs : List Check)
    (hc : c.apply label y = .ok none) :
    runChecks label y (c :: cs) = runChecks label y cs := by
  rw [runChecks, hc]

/-- A check `c` that is not passed settles it, whatever the checks `cs` behind it are. -/
theorem runChecks_cons_of_stop {label : String} {y : Value} {c : Check} (cs : List Check)
    (hc : c.apply label y ≠ .ok none) :
    runChecks label y (c :: cs) = c.apply label y := by
  rw [runChecks]
  split
  · rename_i hn
    exact absurd hn hc
  · rfl

theorem runChecks_eq_ok_none_iff {label : String} {y : Value} {cs : List Check} :
    runChecks label y cs = .ok none ↔ ∀ c ∈ cs, c.apply label y = .ok none := by
  induction cs with
  | nil => simp [runChecks]
  | cons c cs ih =>
    rw [List.forall_mem_cons, ← ih]
    by_cases hc : c.apply label y = .ok none
    · rw [runChecks_cons_of_pass cs hc]
      simp [hc]
    · rw [runChecks_cons_of_stop cs hc]
      simp [hc]

/-- An outcome `r` other than passing is that of the first check of `cs` that is not passed. -/
theorem runChecks_eq_iff {label : String} {y : Value} {cs : List Check}
    {r : Except Fault (Option Violation)} (hr : r ≠ .ok none) :
    runChecks label y cs = r ↔
      ∃ before c behind, cs = before ++ c :: behind ∧
        (∀ d ∈ before, d.apply label y = .ok none) ∧ c.apply label y = r := by
  induction cs with
  | nil =>
    constructor
    · intro h
      exact absurd h.symm hr
    · rintro ⟨before, c, behind, h, -⟩
      simp at h
  | cons c cs ih =>
    rw [exists_first_cons_iff, ← ih]
    by_cases hc : c.apply label y = .ok none
    · -- a check that is passed cannot be the one with the outcome
      have hnot : c.apply label y ≠ r := fun he => hr (he.symm.trans hc)
      rw [runChecks_cons_of_pass cs hc]
      exact ⟨fun h => .inr ⟨hc, h⟩, fun h => (h.resolve_left hnot).2⟩
    · rw [runChecks_cons_of_stop cs hc]
      exact ⟨.inl, fun h => h.resolve_right fun hpass => hc hpass.1⟩

end Validator

namespace Tokens

variable {type : BaseType} {ts : List Token} {v : Validator} {label : String} {x y : Value}

/-! ## Conversion -/

theorem convertText_eq_iff {r : Except Violation Value} (hv : Gathered type ts v) :
    v.convertText label x = r ↔ Converts ts label .text x r := by
  have htrim (s : String) : (if v.trim then strip s else s) = stripped ts s := by
    rw [hv.trim_eq]
    rfl
  constructor
  · rintro rfl
    cases x with
    | text s =>
      simp only [Validator.convertText, htrim, hv.allowed_eq]
      -- only a text that is empty once its blanks are off depends on what is admitted
      by_cases he : stripped ts s = ""
      · by_cases hm : Value.member (admitted ts) (.text "") = true
        · simp only [he, hm, Bool.not_true, Bool.and_false, Bool.false_eq_true, if_false]
          exact he ▸ .text fun _ => hm
        · rw [Bool.not_eq_true] at hm
          simpa [he, hm] using Converts.empty he hm
      · have hne : (stripped ts s).isEmpty = false := by
          rw [← Bool.not_eq_true, String.isEmpty_iff]
          exact he
        simp only [hne, Bool.false_and, Bool.false_eq_true, if_false]
        exact .text fun h => absurd h he
    | _ => exact .noText (by simp)
  · intro h
    cases h with
    | text he =>
      rename_i s
      simp only [Validator.convertText, htrim, hv.allowed_eq]
      by_cases hs : stripped ts s = ""
      · simp [hs, he hs]
      · simp [hs]
    | empty he hm => simp [Validator.convertText, htrim, hv.allowed_eq, he, hm]
    | noText hx =>
      cases x with
      | text s => exact absurd rfl (hx s)
      | _ => rfl

theorem convertFlag_eq_iff {r : Except Violation Value} (hv : Gathered type ts v) :
    v.convertFlag label x = r ↔ Converts ts label .flag x r := by
  have htruthy : v.truthy = truths ts := hv.truthy_eq
  have hfalsy : v.falsy = falsehoods ts := hv.falsy_eq
  unfold Validator.convertFlag
  rw [htruthy, hfalsy, hv.sensitive_eq]
  constructor
  · rintro rfl
    split
    · exact .true ‹_›
    · rename_i ht
      rw [Bool.not_eq_true] at ht
      split
      · exact .false ht ‹_›
      · rename_i hf
        exact .noFlag ht (by rwa [Bool.not_eq_true] at hf)
  · intro h
    cases h with
    | true ht => rw [if_pos ht]
    | false ht hf => rw [if_neg (by simp [ht]), if_pos hf]
    | noFlag ht hf => rw [if_neg (by simp [ht]), if_neg (by simp [hf])]

/-- A numeral never stands for `nan`. -/
theorem toDouble_ne_nan (n : Numeral) : n.toDouble ≠ .nan := by
  intro h
  simp only [Numeral.toDouble, Double.ofDecimal] at h
  split at h
  · cases h
  · split at h
    · cases h
    · split at h <;> cases h

theorem convert_number_eq_ok_iff {r : Except Violation Value} (hv : Gathered .number ts v) :
    v.convert label x = .ok r ↔ Converts ts label .number x r := by
  unfold Validator.convert
  rw [hv.type_eq]
  constructor
  · intro h
    cases x with
    | text s =>
      dsimp only at h
      unfold Validator.numberOfText at h
      cases hn : Numeral.readChars? (stripChars s.toList) with
      | none =>
        rw [hn] at h
        obtain rfl := Except.ok.inj h
        exact .noNumeral hn
      | some n =>
        rw [hn] at h
        dsimp only at h
        -- digits alone make a whole number, which may be too long; all others make a double
        by_cases hw : n.isWhole = true
        · rw [if_pos hw] at h
          cases hk : Whole.ofDigits (Numeral.isMinus n.sign) n.whole with
          | error e => simp [hk] at h
          | ok k =>
            rw [hk] at h
            obtain rfl := Except.ok.inj h
            exact .wholeText hn hw hk
        · rw [if_neg hw] at h
          rw [Bool.not_eq_true] at hw
          cases hd : n.toDouble with
          | finite negative units =>
            rw [hd] at h
            obtain rfl := Except.ok.inj h
            exact .finiteText hn hw hd
          | infinite negative =>
            rw [hd] at h
            obtain rfl := Except.ok.inj h
            exact .infiniteText hn hw hd
          | nan => exact absurd hd (toDouble_ne_nan n)
    | int n =>
      obtain rfl := Except.ok.inj h
      exact .whole
    | float d =>
      obtain rfl := Except.ok.inj h
      cases d with
      | finite negative units => exact .finite
      | infinite negative => exact .infinite
      | nan => exact .nan
    | _ =>
      obtain rfl := Except.ok.inj h
      exact .noNumber (by simp) rfl
  · intro h
    cases h with
    | whole => rfl
    | finite => rfl
    | infinite => rfl
    | nan => rfl
    | wholeText hn hw hk => simp [Validator.numberOfText, hn, hw, hk, Validator.convertNumber]
    | finiteText hn hw hd => simp [Validator.numberOfText, hn, hw, hd, Validator.convertNumber]
    | infiniteText hn hw hd => simp [Validator.numberOfText, hn, hw, hd, Validator.convertNumber]
    | noNumeral hn => simp [Validator.numberOfText, hn, Validator.convertNumber]
    | noNumber hx hq =>
      cases x with
      | text s => exact absurd rfl (hx s)
      | int n => simp [Check.quantity?] at hq
      | float d => simp [Check.quantity?] at hq
      | _ => rfl

theorem convert_of_text (htype : v.type = .text) :
    v.convert label x = .ok (v.convertText label x) := by
  unfold Validator.convert
  rw [htype]

/-- A text `s` that writes the number `w` is converted as that number. -/
theorem convert_of_numeral {s : String} {w : Value} (htype : v.type = .number)
    (hs : Validator.numberOfText s = .ok (some w)) :
    v.convert label (.text s) = .ok (Validator.convertNumber label w) := by
  unfold Validator.convert
  simp only [htype, hs]

theorem convert_of_flag (htype : v.type = .flag) :
    v.convert label x = .ok (v.convertFlag label x) := by
  unfold Validator.convert
  rw [htype]

/-- **Conversion**, for all types: the outcome of `convert` is what the type makes of `x` by
    `Converts`. -/
theorem convert_eq_ok_iff {r : Except Violation Value} (hv : Gathered type ts v) :
    v.convert label x = .ok r ↔ Converts ts label type x r := by
  cases type with
  | text => rw [convert_of_text hv.type_eq, Except.ok.injEq, convertText_eq_iff hv]
  | number => exact convert_number_eq_ok_iff hv
  | flag => rw [convert_of_flag hv.type_eq, Except.ok.injEq, convertFlag_eq_iff hv]
  | any =>
    unfold Validator.convert
    rw [hv.type_eq]
    constructor
    · intro h
      obtain rfl := Except.ok.inj h
      exact .any
    · intro h
      cases h
      rfl

/-! ## The stages behind the conversion -/

theorem notValid_eq_ok_iff (label : String) {o : Option Violation} (hv : Gathered type ts v) :
    v.notValid label = .ok o ↔
      ∃ names, Value.listed (given "valid" ts) = .ok names ∧
        o = some ⟨"any.only", labelled label (demandOfValid ts ++ names ++ "]")⟩ := by
  unfold Validator.notValid
  rw [hv.valid_eq]
  cases hl : Value.listed (given "valid" ts) with
  | error e => simp
  | ok names =>
    constructor
    · intro h
      exact ⟨names, rfl, (Except.ok.inj h).symm⟩
    · rintro ⟨_, h, rfl⟩
      obtain rfl := Except.ok.inj h
      rfl

theorem judgeConverted_eq_ok_iff {o : Option Violation} (hv : Gathered type ts v) :
    v.judgeConverted label y = .ok o ↔ Settles type ts label y o := by
  unfold Validator.judgeConverted
  rw [hv.allowed_eq, hv.valid_eq, hv.invalid_eq, hv.checks_eq]
  have hempty : (!(given "valid" ts).isEmpty) = true ↔ given "valid" ts ≠ [] := by
    rw [Bool.not_eq_true', List.isEmpty_eq_false_iff]
  constructor
  · -- each stage is entered with what the ones before it have left open
    intro h
    split at h
    · rename_i ha
      obtain rfl := Except.ok.inj h
      exact .allowed ha
    · rename_i ha
      rw [Bool.not_eq_true] at ha
      split at h
      · rename_i hg
        rw [hempty] at hg
        split at h
        · rename_i hm
          obtain rfl := Except.ok.inj h
          exact .valid ha hg hm
        · rename_i hm
          rw [Bool.not_eq_true] at hm
          obtain ⟨names, hnames, rfl⟩ := (notValid_eq_ok_iff label hv).1 h
          exact .only ha hg hm hnames
      · rename_i hg
        rw [hempty, not_not] at hg
        split at h
        · rename_i hi
          obtain rfl := Except.ok.inj h
          exact .invalid ha hg hi
        · rename_i hi
          rw [Bool.not_eq_true] at hi
          cases o with
          | none => exact .passes ⟨ha, hg, hi⟩ (Validator.runChecks_eq_ok_none_iff.1 h)
          | some violation =>
            obtain ⟨before, c, behind, hcs, hbefore, hc⟩ :=
              (Validator.runChecks_eq_iff (by simp)).1 h
            exact .fails ⟨ha, hg, hi⟩ hcs hbefore hc
  · intro h
    cases h with
    | allowed ha => rw [if_pos ha]
    | valid ha hg hm => rw [if_neg (by simp [ha]), if_pos (hempty.2 hg), if_pos hm]
    | only ha hg hm hnames =>
      rw [if_neg (by simp [ha]), if_pos (hempty.2 hg), if_neg (by simp [hm])]
      exact (notValid_eq_ok_iff label hv).2 ⟨_, hnames, rfl⟩
    | invalid ha hg hi => rw [if_neg (by simp [ha]), if_neg (by simp [hg]), if_pos hi]
    | fails hy hcs hbefore hc =>
      rw [if_neg (by simp [hy.not_allowed]), if_neg (by simp [hy.no_valid]),
        if_neg (by simp [hy.not_invalid])]
      exact (Validator.runChecks_eq_iff (by simp)).2 ⟨_, _, _, hcs, hbefore, hc⟩
    | passes hy hpass =>
      rw [if_neg (by simp [hy.not_allowed]), if_neg (by simp [hy.no_valid]),
        if_neg (by simp [hy.not_invalid])]
      exact Validator.runChecks_eq_ok_none_iff.2 hpass

/-! ## The judgement -/

/-- What `judge` does with a value `x` that is there. -/
theorem judge_of_present (hx : x ≠ .null) :
    v.judge label x =
      if v.forbidden then .ok (some ⟨"any.unknown", labelled label "is not allowed"⟩)
      else if Value.member v.allowed x then .ok none
      else
        match v.convert label x with
        | .error e => .error e
        | .ok (.error violation) => .ok (some violation)
        | .ok (.ok converted) => v.judgeConverted label converted := by
  cases x with
  | null => exact absurd rfl hx
  | _ => rfl

/-- A value `x` that is there and not forbidden is accepted if it is allowed as it is, or if it can
    be converted and passes then. -/
theorem accepts_of_present_iff (hx : x ≠ .null) (hforbidden : v.forbidden = false) :
    v.judge label x = .ok none ↔ Value.member v.allowed x = true ∨
      ∃ y, v.convert label x = .ok (.ok y) ∧ v.judgeConverted label y = .ok none := by
  rw [judge_of_present hx, hforbidden]
  cases Value.member v.allowed x with
  | true => simp
  | false => rcases v.convert label x with e | violation | y <;> simp

/-- A value `x` that is converted to `y` is judged as `y`, provided that `y` is allowed where `x`
    is. -/
theorem judge_of_convert (hx : x ≠ .null)
    (hallowed : Value.member v.allowed x = true → Value.member v.allowed y = true)
    (hconvert : v.convert label x = .ok (.ok y)) :
    v.judge label x =
      if v.forbidden then .ok (some ⟨"any.unknown", labelled label "is not allowed"⟩)
      else v.judgeConverted label y := by
  rw [judge_of_present hx, hconvert]
  by_cases hmember : Value.member v.allowed x = true
  · -- what is allowed before the conversion is allowed behind it
    rw [if_pos hmember, Validator.judgeConverted, if_pos (hallowed hmember)]
  · rw [if_neg hmember]

/-- A value `x` that has to be converted is judged by what becomes of it. -/
theorem judge_of_reachesConversion (hv : Gathered type ts v) (hx : ReachesConversion ts x) :
    v.judge label x =
      match v.convert label x with
      | .error e => .error e
      | .ok (.error violation) => .ok (some violation)
      | .ok (.ok converted) => v.judgeConverted label converted := by
  rw [judge_of_present hx.present, hv.forbidden_eq, hv.allowed_eq,
    if_neg (by simp [hx.not_forbidden]), if_neg (by simp [hx.not_allowed])]

theorem judge_of_gathered {o : Option Violation} (hv : Gathered type ts v) :
    v.judge label x = .ok o ↔ Verdict type ts label x o := by
  constructor
  · -- the stages in their order, each for what the ones before it leave over
    intro h
    by_cases hx : x = .null
    · obtain rfl := hx
      unfold Validator.judge at h
      rw [hv.required_eq] at h
      dsimp only at h
      split at h
      · rename_i hd
        obtain rfl := Except.ok.inj h
        exact .missing hd
      · rename_i hd
        obtain rfl := Except.ok.inj h
        exact .absent (by rwa [Bool.not_eq_true] at hd)
    · by_cases hf : mentions "forbidden" ts = true
      · rw [judge_of_present hx, hv.forbidden_eq, if_pos hf] at h
        obtain rfl := Except.ok.inj h
        exact .forbidden hx hf
      · rw [Bool.not_eq_true] at hf
        by_cases ha : Value.member (admitted ts) x = true
        · rw [judge_of_present hx, hv.forbidden_eq, if_neg (by simp [hf]), hv.allowed_eq,
            if_pos ha] at h
          obtain rfl := Except.ok.inj h
          exact .allowed hx hf ha
        · rw [Bool.not_eq_true] at ha
          have hreach : ReachesConversion ts x := ⟨hx, hf, ha⟩
          rw [judge_of_reachesConversion hv hreach] at h
          split at h
          · cases h
          · rename_i violation hc
            obtain rfl := Except.ok.inj h
            exact .unconverted hreach ((convert_eq_ok_iff hv).1 hc)
          · rename_i y hc
            exact .converted hreach ((convert_eq_ok_iff hv).1 hc)
              ((judgeConverted_eq_ok_iff hv).1 h)
  · intro h
    cases h with
    | missing hd =>
      unfold Validator.judge
      rw [hv.required_eq, hd]
      rfl
    | absent hd =>
      unfold Validator.judge
      rw [hv.required_eq, hd]
      rfl
    | forbidden hx hf => rw [judge_of_present hx, hv.forbidden_eq, if_pos hf]
    | allowed hx hf ha =>
      rw [judge_of_present hx, hv.forbidden_eq, if_neg (by simp [hf]), hv.allowed_eq, if_pos ha]
    | unconverted hreach hc =>
      rw [judge_of_reachesConversion hv hreach, (convert_eq_ok_iff hv).2 hc]
    | converted hreach hc hs =>
      rw [judge_of_reachesConversion hv hreach, (convert_eq_ok_iff hv).2 hc]
      exact (judgeConverted_eq_ok_iff hv).2 hs

/-- **A validator gives the verdict.** Whenever `build` makes a validator `v` of `rules`, the
    tokens `ts` of the text decide every answer it gives: `judge` comes to the outcome `o` exactly
    if `o` is the `Verdict`, whatever the `label` and the value `x` are. -/
theorem judge_eq_ok_iff_verdict {table : TypeTable} {rules : Option String} {name : String}
    {v : Validator} (h : Validator.build table rules name = .ok v) :
    ∃ type ts, table.find? name = some type ∧ Token.parse rules = .ok ts ∧
      ∀ (label : String) (x : Value) (o : Option Violation),
        v.judge label x = .ok o ↔ Verdict type ts label x o := by
  obtain ⟨type, ts, rs, htype, hts, hrs, rfl⟩ := build_eq_ok_iff.1 h
  exact ⟨type, ts, htype, hts, fun _ _ _ => judge_of_gathered (gathered_of_rulesOf hrs)⟩

/-- The later of two limits counts, and the blanks are taken off before the length is. -/
theorem verdict_of_later_limit :
    ∃ v type ts, Validator.build .standard (some "min:3||trim||min:5") "string" = .ok v ∧
      v.judge "Name" (.text " abcd ") =
        .ok (some ⟨"string.min", labelled "Name" "length must be at least 5 characters long"⟩) ∧
      Verdict type ts "Name" (.text " abcd ")
        (some ⟨"string.min", labelled "Name" "length must be at least 5 characters long"⟩) := by
  have hbuild : Validator.build .standard (some "min:3||trim||min:5") "string" =
      .ok (Validator.ofRules .text [.ofText (.atLeast 3), .trim, .ofText (.atLeast 5)]) :=
    build_eq_ok_iff.2
      ⟨.text, [⟨"min", some "3"⟩, ⟨"trim", none⟩, ⟨"min", some "5"⟩], _, rfl, by decide, rfl, rfl⟩
  have hjudge :
      (Validator.ofRules .text [.ofText (.atLeast 3), .trim, .ofText (.atLeast 5)]).judge "Name"
        (.text " abcd ") =
      .ok (some ⟨"string.min", labelled "Name" "length must be at least 5 characters long"⟩) := by
    decide +kernel
  obtain ⟨type, ts, -, -, hverdict⟩ := judge_eq_ok_iff_verdict hbuild
  exact ⟨_, type, ts, hbuild, hjudge, (hverdict _ _ _).1 hjudge⟩

end Tokens

end Rulebook
