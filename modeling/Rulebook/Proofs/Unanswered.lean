/-
  The values that are not answered.

  For some values of a rule text that makes a validator there is no outcome at all: a numeral of
  more than 4300 digits where a number is asked for, or a value that overtaxes a check.

  1. `Unread`, `convert_isError_iff`: the values that are not converted;
  2. `Unanswered`, `judge_isError_iff`: the values without an answer, by the stages of a verdict;
  3. `isError_iff_unanswered`: the same for a validator that comes out of a rule text, and for a
     field that has it;
  4. `judge_error_ofValue`: no judgement fails for anything but the value.

  The stages are those of a verdict, so an answer is missing exactly where one of them is stuck.
-/
import Rulebook.Outcome
import Rulebook.Proofs.CheckFault
import Rulebook.Proofs.InStep
import Rulebook.Proofs.Verdict

namespace Rulebook

open Rulebook.Text Rulebook.Number Tokens

namespace Tokens

variable {type : BaseType} {ts : List Token} {rs : List Rule} {v : Validator} {label : String}
  {x y : Value}

/-! ## What is read off tokens that mean something -/

theorem given_isArgument {name : String} {w : Value} (h : w ∈ given name ts) : w.IsArgument := by
  obtain ⟨raw, -, hread⟩ := read_of_mem_given h
  exact Argument.read_isArgument hread

theorem mem_of_mem_standing {c : Check} {cs : List Check} (h : c ∈ standing cs) : c ∈ cs := by
  induction cs with
  | nil => exact h
  | cons d cs ih =>
    rw [standing] at h
    split at h
    · exact List.mem_cons_of_mem _ (ih h)
    · rcases List.mem_cons.1 h with rfl | h
      · exact List.mem_cons_self ..
      · exact List.mem_cons_of_mem _ (ih h)

theorem checksOf_written (hm : List.Forall₂ (Token.Means type) ts rs) {c : Check}
    (hc : c ∈ checksOf type ts) : c.Written := by
  obtain ⟨t, ht, hcheck⟩ := List.mem_filterMap.1 (mem_of_mem_standing hc)
  obtain ⟨r, -, hr⟩ := exists_right_of_mem hm ht
  have hwritten := hr.written
  rw [checkOf?_of_means hr] at hcheck
  cases r with
  | check d =>
    obtain rfl := Option.some.inj hcheck
    exact hwritten
  | _ => cases hcheck

/-! ## Values without an answer -/

/-- A text that cannot be read: a sign and more than 4300 digits, for a number. -/
inductive Unread : BaseType → Value → Prop
  | numeral {s : String} {n : Numeral} :
    Numeral.readChars? (stripChars s.toList) = some n → n.isWhole = true →
    Whole.digitLimit < n.whole.length → Unread .number (.text s)

/-- A value `x` without an answer: it has to be converted, and is `Unread`, or the first check that
    it does not pass is `Overtaxed` by it. -/
inductive Unanswered (type : BaseType) (ts : List Token) (label : String) (x : Value) : Prop
  | unread : ReachesConversion ts x → Unread type x → Unanswered type ts label x
  | overtaxing {y : Value} {before behind : List Check} {c : Check} :
    ReachesConversion ts x → Converts ts label type x (.ok y) → ReachesChecks ts y →
    checksOf type ts = before ++ c :: behind → (∀ d ∈ before, d.apply label y = .ok none) →
    c.Overtaxed y → Unanswered type ts label x

theorem numberOfText_isError_iff {s : String} :
    (∃ e, Validator.numberOfText s = .error e) ↔ Unread .number (.text s) := by
  unfold Validator.numberOfText
  cases hn : Numeral.readChars? (stripChars s.toList) with
  | none =>
    constructor
    · rintro ⟨e, he⟩
      cases he
    · rintro ⟨hn', -, -⟩
      cases hn.symm.trans hn'
  | some n =>
    by_cases hw : n.isWhole = true
    · have hread : (∃ e, Whole.ofDigits (Numeral.isMinus n.sign) n.whole = .error e) ↔
          Unread .number (.text s) := by
        rw [Whole.ofDigits_isError_iff]
        constructor
        · intro hlong
          exact .numeral hn hw hlong
        · intro h
          cases h with
          | numeral hn' _ hlong =>
            obtain rfl := Option.some.inj (hn.symm.trans hn')
            exact hlong
      rw [← hread]
      simp only [hw, if_true]
      cases Whole.ofDigits (Numeral.isMinus n.sign) n.whole <;> simp
    · simp only [hw]
      constructor
      · rintro ⟨e, he⟩
        cases he
      · intro h
        cases h with
        | numeral hn' hw' _ =>
          obtain rfl := Option.some.inj (hn.symm.trans hn')
          exact absurd hw' hw

theorem convert_isError_iff (label : String) (hv : Gathered type ts v) :
    (∃ e, v.convert label x = .error e) ↔ Unread type x := by
  unfold Validator.convert
  rw [hv.type_eq]
  cases type with
  | number =>
    cases x with
    | text s =>
      rw [← numberOfText_isError_iff]
      dsimp only
      cases Validator.numberOfText s with
      | error e => simp
      | ok o => cases o <;> simp
    | _ =>
      constructor
      · rintro ⟨e, he⟩
        cases he
      · intro h
        cases h
  | _ =>
    constructor
    · rintro ⟨e, he⟩
      cases he
    · intro h
      cases h

/-- The checks `cs` come to no outcome for `y` if one that is reached does not. -/
theorem runChecks_isError_iff (label : String) {cs : List Check} (hwritten : ∀ c ∈ cs, c.Written) :
    (∃ e, Validator.runChecks label y cs = .error e) ↔
      ∃ before c behind, cs = before ++ c :: behind ∧
        (∀ d ∈ before, d.apply label y = .ok none) ∧ c.Overtaxed y := by
  constructor
  · rintro ⟨e, he⟩
    obtain ⟨before, c, behind, rfl, hbefore, hc⟩ := (Validator.runChecks_eq_iff (by simp)).1 he
    have hw := hwritten c (by simp)
    exact ⟨before, c, behind, rfl, hbefore, (Check.apply_isError_iff label hw).1 ⟨e, hc⟩⟩
  · rintro ⟨before, c, behind, rfl, hbefore, hc⟩
    have hw := hwritten c (by simp)
    obtain ⟨e, he⟩ := (Check.apply_isError_iff label hw).2 hc
    exact ⟨e, (Validator.runChecks_eq_iff (by simp)).2 ⟨before, c, behind, rfl, hbefore, he⟩⟩

theorem judgeConverted_isError_iff (hv : Gathered type ts v)
    (hm : List.Forall₂ (Token.Means type) ts rs) :
    (∃ e, v.judgeConverted label y = .error e) ↔
      ReachesChecks ts y ∧ ∃ before c behind, checksOf type ts = before ++ c :: behind ∧
        (∀ d ∈ before, d.apply label y = .ok none) ∧ c.Overtaxed y := by
  rw [← runChecks_isError_iff label fun c hc => checksOf_written hm hc]
  unfold Validator.judgeConverted
  rw [hv.allowed_eq, hv.valid_eq, hv.invalid_eq, hv.checks_eq]
  constructor
  · -- of the stages only the checks are left to fail
    rintro ⟨e, he⟩
    split at he
    · cases he
    · rename_i ha
      rw [Bool.not_eq_true] at ha
      split at he
      · -- the list of the valid values can be written
        split at he
        · cases he
        · have harg : ∀ w ∈ given "valid" ts, w.IsArgument := fun w hw => given_isArgument hw
          obtain ⟨names, hnames⟩ := Value.listed_isOk harg
          have hok := (notValid_eq_ok_iff label hv).2 ⟨names, hnames, rfl⟩
          cases hok.symm.trans he
      · rename_i hg
        split at he
        · cases he
        · rename_i hi
          rw [Bool.not_eq_true] at hi
          exact ⟨⟨ha, by simpa using hg, hi⟩, e, he⟩
  · rintro ⟨hy, hrun⟩
    rwa [if_neg (by simp [hy.not_allowed]), if_neg (by simp [hy.no_valid]),
      if_neg (by simp [hy.not_invalid])]

theorem judge_isError_iff (hv : Gathered type ts v) (hm : List.Forall₂ (Token.Means type) ts rs) :
    (∃ e, v.judge label x = .error e) ↔ Unanswered type ts label x := by
  constructor
  · rintro ⟨e, he⟩
    by_cases hreach : ReachesConversion ts x
    · rw [judge_of_reachesConversion hv hreach] at he
      split at he
      · rename_i hc
        exact .unread hreach ((convert_isError_iff label hv).1 ⟨_, hc⟩)
      · cases he
      · rename_i y hc
        obtain ⟨hy, before, c, behind, hcs, hbefore, hover⟩ :=
          (judgeConverted_isError_iff hv hm).1 ⟨e, he⟩
        exact .overtaxing hreach ((convert_eq_ok_iff hv).1 hc) hy hcs hbefore hover
    · -- a value that is not converted has a verdict
      have hverdict : ∃ o, Verdict type ts label x o := by
        by_cases hx : x = .null
        · obtain rfl := hx
          cases hd : demanded ts with
          | true => exact ⟨_, .missing hd⟩
          | false => exact ⟨_, .absent hd⟩
        · cases hf : mentions "forbidden" ts with
          | true => exact ⟨_, .forbidden hx hf⟩
          | false =>
            cases ha : Value.member (admitted ts) x with
            | true => exact ⟨_, .allowed hx hf ha⟩
            | false => exact absurd ⟨hx, hf, ha⟩ hreach
      obtain ⟨o, ho⟩ := hverdict
      cases ((judge_of_gathered hv).2 ho).symm.trans he
  · intro h
    cases h with
    | unread hreach hread =>
      obtain ⟨e, he⟩ := (convert_isError_iff label hv).2 hread
      exact ⟨e, by rw [judge_of_reachesConversion hv hreach, he]⟩
    | overtaxing hreach hc hy hcs hbefore hover =>
      rw [judge_of_reachesConversion hv hreach, (convert_eq_ok_iff hv).2 hc]
      exact (judgeConverted_isError_iff hv hm).2 ⟨hy, _, _, _, hcs, hbefore, hover⟩

end Tokens

/-! ## Fields -/

namespace Field

theorem outcome_isError_iff {f : Field} {v : Validator} {x : Value} :
    (∃ e, f.outcome v x = .error e) ↔ ∃ e, v.judge f.displayName x = .error e := by
  unfold outcome
  cases v.judge f.displayName x with
  | error e => simp
  | ok o => cases o <;> simp

/-- The field `f` is judged by the validator `v` of its rules; without rules, everything passes. -/
theorem judge_of_build {table : TypeTable} {f : Field} {rules : Option String} {name : String}
    {v : Validator} {x : Value} (h : Validator.build table rules name = .ok v)
    (htype : f.type = name) (hrules : f.rules = rules) :
    f.judge table x = if f.hasRules then f.outcome v x else .ok none := by
  obtain rfl := htype
  obtain rfl := hrules
  unfold judge validator?
  rw [h]
  by_cases hr : f.hasRules = true
  · simp [hr]
  · simp [hr]

end Field

namespace Tokens

/-- **The values without an answer.** Once `build` makes a validator `v` of `rules`, the only
    values `x` that `judge` fails on are the ones that are `Unanswered` by the tokens `ts` of the
    text: those that overtax what the tokens ask for.  And so does any field `f` that has these
    rules, as long as they are not empty. -/
theorem isError_iff_unanswered {table : TypeTable} {rules : Option String} {name : String}
    {v : Validator} (h : Validator.build table rules name = .ok v) :
    ∃ type ts, table.find? name = some type ∧ Token.parse rules = .ok ts ∧
      (∀ (label : String) (x : Value),
        (∃ e, v.judge label x = .error e) ↔ Unanswered type ts label x) ∧
      ∀ (f : Field), f.type = name → f.rules = rules → ∀ x : Value,
        (∃ e, f.judge table x = .error e) ↔
          f.hasRules = true ∧ Unanswered type ts f.displayName x := by
  obtain ⟨type, ts, rs, htype, hts, hrs, rfl⟩ := build_eq_ok_iff.1 h
  have hjudge (label : String) (x : Value) :
      (∃ e, (Validator.ofRules type rs).judge label x = .error e) ↔
        Unanswered type ts label x :=
    judge_isError_iff (gathered_of_rulesOf hrs) (rulesOf_eq_ok_iff.1 hrs)
  refine ⟨type, ts, htype, hts, hjudge, ?_⟩
  intro f hftype hfrules x
  rw [Field.judge_of_build h hftype hfrules]
  by_cases hr : f.hasRules = true
  · rw [if_pos hr, Field.outcome_isError_iff, hjudge]
    simp [hr]
  · rw [if_neg hr]
    simp [hr]

theorem build_uri : Validator.build .standard (some "uri") "string" =
    .ok (Validator.ofRules .text [.ofText (.form .uri)]) :=
  build_eq_ok_iff.2 ⟨.text, [⟨"uri", none⟩], _, rfl, by decide, rfl, rfl⟩

/-- One bracket without the other is no answer but a fault, for the validator of `uri` and for a
    field with that rule. -/
theorem judge_lone_bracket :
    Validator.build .standard (some "uri") "string" =
        .ok (Validator.ofRules .text [.ofText (.form .uri)]) ∧
      (Validator.ofRules .text [.ofText (.form .uri)]).judge "k" (.text "http://[") =
        .error (.badUri .brackets) ∧
      (⟨"k", "string", "", some "uri"⟩ : Field).judge .standard (.text "http://[") =
        .error (.badUri .brackets) := by
  refine ⟨build_uri, by decide +kernel, ?_⟩
  rw [Field.judge_of_build build_uri rfl rfl]
  decide +kernel

/-- The text with one bracket is `Unanswered`. -/
theorem unanswered_lone_bracket :
    ∃ type ts, Token.parse (some "uri") = .ok ts ∧
      Unanswered type ts "k" (.text "http://[") := by
  have hfault : ∃ e, (Validator.ofRules .text [.ofText (.form .uri)]).judge "k"
      (.text "http://[") = .error e := ⟨.badUri .brackets, by decide +kernel⟩
  obtain ⟨type, ts, -, hts, hjudge, -⟩ := isError_iff_unanswered build_uri
  exact ⟨type, ts, hts, (hjudge "k" (.text "http://[")).1 hfault⟩

end Tokens

/-! ## Which faults there are -/

namespace Validator

theorem runChecks_error_ofValue {label : String} {y : Value} {cs : List Check} {e : Fault}
    (h : runChecks label y cs = .error e) : e.OfValue := by
  obtain ⟨before, c, behind, -, -, hc⟩ := (runChecks_eq_iff (by simp)).1 h
  exact Check.apply_error_ofValue hc

theorem judgeConverted_error_ofValue {v : Validator} {label : String} {y : Value} {e : Fault}
    (h : v.judgeConverted label y = .error e) : e.OfValue := by
  unfold judgeConverted at h
  split at h
  · cases h
  · split at h
    · split at h
      · cases h
      · unfold notValid at h
        split at h
        · exact Fault.ofValue_of_digits h
        · cases h
    · split at h
      · cases h
      · exact runChecks_error_ofValue h

theorem convert_error_ofValue {v : Validator} {label : String} {x : Value} {e : Fault}
    (h : v.convert label x = .error e) : e.OfValue := by
  have numeral {s : String} (hs : numberOfText s = .error e) : e.OfValue := by
    unfold numberOfText at hs
    split at hs
    · cases hs
    · split at hs
      · split at hs
        · cases hs
        · exact Fault.ofValue_of_digits hs
      · cases hs
  unfold convert at h
  split at h
  · cases h
  · cases h
  · cases h
  · split at h
    · split at h
      · cases h
      · cases h
      · rename_i hs
        obtain rfl := Except.error.inj h
        exact numeral hs
    · cases h

/-- **A judgement fails only for what the value is**, whatever the validator `v` is: the fault `e`
    is one of `Fault.OfValue`. -/
theorem judge_error_ofValue {v : Validator} {label : String} {x : Value} {e : Fault}
    (h : v.judge label x = .error e) : e.OfValue := by
  by_cases hx : x = .null
  · obtain rfl := hx
    unfold judge at h
    dsimp only at h
    split at h <;> cases h
  · rw [judge_of_present hx] at h
    split at h
    · cases h
    · split at h
      · cases h
      · split at h
        · rename_i hconvert
          obtain rfl := Except.error.inj h
          exact convert_error_ofValue hconvert
        · cases h
        · exact judgeConverted_error_ofValue h

end Validator

end Rulebook
