/-
  What is accepted does not depend on the order of the rules.

  Rules are folded into a validator one after the other, and yet their order hardly matters.  It
  does where a later rule takes an earlier one back:

      required, optional     the last of all of them counts
      min:3, min:5           of a check that does not accumulate, the last one counts

  Where these are kept in order, the same values are accepted, and a value that is rejected before
  any check is made is rejected for the same reason.  Only which of several broken checks is
  reported can change.

  1. `Reordered`: the same tokens in an order that keeps this;
  2. `mentions_eq`, `given_perm`, `admitted_perm`: what is read off tokens wherever they stand;
  3. `mem_standing_iff`, `Reordered.mem_checksOf`: the checks that are left;
  4. `rulesOf_isOk_iff`: tokens make rules one by one;
  5. `Reordered.accepts`, `Reordered.rejects`: verdicts, stage by stage;
  6. `verdict_of_reordered`: the validators that come out of two rule texts.

  The crux is 3.  A check that does not accumulate is left if it is the last one of its name, and
  that is a question about the tokens of this name alone.
-/
import Mathlib.Data.List.Perm.Basic
import Rulebook.Proofs.Unanswered

namespace Rulebook

open Rulebook.Text Rulebook.Number Tokens

/-! ## The kinds of violations -/

/-- The kinds of the violations that are found before a check is made. -/
def kindsBeforeChecks : List String :=
  ["any.required", "any.unknown", "string.base", "string.empty", "number.base", "number.infinity",
    "boolean.base", "any.only", "any.invalid"]

/-- The kind of the violations that a check finds. -/
def Check.kind : Check → String
  | text (.pattern _) => "string.pattern.base"
  | text c => "string." ++ c.name
  | number c => "number." ++ c.name
  | value _ => ValueCheck.kind

theorem Check.kind_not_mem (c : Check) : c.kind ∉ kindsBeforeChecks := by
  cases c with
  | text c =>
    cases c with
    | form f => cases f <;> decide
    | _ => simp [kind, TextCheck.name, kindsBeforeChecks]
  | number c =>
    cases c with
    | compare c _ => cases c <;> simp [kind, NumberCheck.name, Comparison.name, kindsBeforeChecks]
    | _ => simp [kind, NumberCheck.name, kindsBeforeChecks]
  | value _ => simp [kind, ValueCheck.kind, kindsBeforeChecks]

theorem TextCheck.kind_of_lengthViolation {kind label demand : String} {limit : Int}
    {violation : Violation} (h : lengthViolation kind label demand limit = .ok (some violation)) :
    violation.kind = kind := by
  unfold lengthViolation at h
  split at h <;> cases h
  rfl

theorem NumberCheck.kind_of_limitViolation {kind label demand rest : String} {limit : Quantity}
    {violation : Violation}
    (h : limitViolation kind label demand limit rest = .ok (some violation)) :
    violation.kind = kind := by
  unfold limitViolation at h
  split at h <;> cases h
  rfl

theorem TextCheck.kind_of_apply {c : TextCheck} {label s : String} {violation : Violation}
    (h : c.apply label s = .ok (some violation)) : violation.kind = (Check.text c).kind := by
  cases c with
  | atLeast limit =>
    simp only [apply] at h
    split at h
    · exact kind_of_lengthViolation h
    · cases h
  | atMost limit =>
    simp only [apply] at h
    split at h
    · exact kind_of_lengthViolation h
    · cases h
  | exactly limit =>
    simp only [apply] at h
    split at h
    · cases h
    · exact kind_of_lengthViolation h
  | pattern p =>
    simp only [apply] at h
    split at h <;> cases h
    rfl
  | form f =>
    simp only [apply] at h
    split at h <;> cases h
    rfl

theorem NumberCheck.kind_of_apply {c : NumberCheck} {label : String} {q : Quantity}
    {violation : Violation} (h : c.apply label q = .ok (some violation)) :
    violation.kind = (Check.number c).kind := by
  cases c with
  | compare c limit =>
    simp only [apply] at h
    split at h
    · cases h
    · exact kind_of_limitViolation h
  | multiple base =>
    simp only [apply] at h
    split at h
    · cases h
    · cases h
    · exact kind_of_limitViolation h
  | precision places =>
    simp only [apply] at h
    split at h
    · cases h
    · cases h
    · split at h
      · exact kind_of_limitViolation h
      · cases h
  | _ =>
    simp only [apply] at h
    split at h <;> cases h
    rfl

/-- **Every violation that a check finds is of the check's kind**: the `violation` that `c` comes
    to is of `c.kind`. -/
theorem Check.kind_of_apply {c : Check} {label : String} {y : Value} {violation : Violation}
    (h : c.apply label y = .ok (some violation)) : violation.kind = c.kind := by
  cases c with
  | text c =>
    simp only [apply] at h
    split at h
    · exact TextCheck.kind_of_apply h
    · cases h
  | number c =>
    simp only [apply] at h
    split at h
    · exact NumberCheck.kind_of_apply h
    · cases h
  | value c =>
    cases c with
    | members allowed =>
      simp only [apply, ValueCheck.apply] at h
      split at h <;> cases h
      rfl
    | address version =>
      simp only [apply, ValueCheck.apply] at h
      split at h <;> cases h
      rfl

namespace Tokens

variable {type : BaseType} {ts ts' : List Token} {v : Validator} {label : String} {x y : Value}
  {c : Check} {cs : List Check}

/-! ## The same tokens in another order -/

/-- Of the checks that tokens of this `name` ask for only the last one counts. -/
def CountsOnce (type : BaseType) (name : String) : Prop :=
  ∃ argument c, checkOf? type ⟨name, argument⟩ = some c ∧ c.accumulates = false

/-- The lists `ts` and `ts'` have the same tokens, in an order that keeps those on whether a value
    has to be there, and those of each name of which only the last one counts. -/
structure Reordered (type : BaseType) (ts ts' : List Token) : Prop where
  perm : ts.Perm ts'
  presence :
    ts.filter (fun t => t.name == "required" || t.name == "optional") =
      ts'.filter fun t => t.name == "required" || t.name == "optional"
  single : ∀ name, CountsOnce type name →
    ts.filter (·.name == name) = ts'.filter (·.name == name)

theorem Reordered.symm (h : Reordered type ts ts') : Reordered type ts' ts where
  perm := h.perm.symm
  presence := h.presence.symm
  single := fun name hname => (h.single name hname).symm

/-! ## What is read off tokens wherever they stand -/

theorem mentions_eq (h : ts.Perm ts') (name : String) : mentions name ts = mentions name ts' :=
  h.any_eq

theorem given_perm (h : ts.Perm ts') (name : String) : (given name ts).Perm (given name ts') :=
  h.filterMap _

theorem admitted_perm (h : ts.Perm ts') : (admitted ts).Perm (admitted ts') := h.filterMap _

theorem member_admitted (h : ts.Perm ts') (x : Value) :
    Value.member (admitted ts) x = Value.member (admitted ts') x :=
  (admitted_perm h).any_eq

theorem member_given (h : ts.Perm ts') (name : String) (x : Value) :
    Value.member (given name ts) x = Value.member (given name ts') x :=
  (given_perm h name).any_eq

theorem given_eq_nil_iff (h : ts.Perm ts') (name : String) :
    given name ts = [] ↔ given name ts' = [] := by
  rw [← List.length_eq_zero_iff, ← List.length_eq_zero_iff, (given_perm h name).length_eq]

theorem stripped_eq (h : ts.Perm ts') (s : String) : stripped ts s = stripped ts' s := by
  rw [stripped, stripped, mentions_eq h]

theorem truths_any (h : ts.Perm ts') (p : Value → Bool) : (truths ts).any p = (truths ts').any p :=
  ((given_perm h "truthy").append_left _).any_eq

theorem falsehoods_any (h : ts.Perm ts') (p : Value → Bool) :
    (falsehoods ts).any p = (falsehoods ts').any p :=
  ((given_perm h "falsy").append_left _).any_eq

theorem Reordered.demanded_eq (h : Reordered type ts ts') : demanded ts = demanded ts' := by
  rw [demanded, demanded, h.presence]

/-! ## The checks that are left -/

/-- The name of the check that tokens of a `name` ask for: patterns are asked for by two names. -/
def checkName (name : String) : String := if name = "regex" then "pattern" else name

theorem name_of_valueCheckOf? {name : String} {argument : Option String} {c : ValueCheck}
    (h : valueCheckOf? name argument = some c) : (Check.value c).name = checkName name := by
  unfold valueCheckOf? at h
  split at h <;> cases h <;> rfl

theorem name_of_textCheckOf? {name : String} {argument : Option Value} {c : TextCheck}
    (h : textCheckOf? name argument = some c) : (Check.text c).name = checkName name := by
  unfold textCheckOf? at h
  split at h
  -- both names of patterns, which may not be readable
  case h_4 | h_5 =>
    obtain ⟨p, -, rfl⟩ := Option.map_eq_some_iff.1 h
    rfl
  all_goals cases h <;> rfl

theorem name_of_numberCheckOf? {name : String} {argument : Option Value} {c : NumberCheck}
    (h : numberCheckOf? name argument = some c) : (Check.number c).name = checkName name := by
  unfold numberCheckOf? at h
  split at h
  -- the names whose argument may not be a number
  case h_1 | h_2 | h_3 | h_4 | h_8 =>
    obtain ⟨q, -, rfl⟩ := Option.map_eq_some_iff.1 h
    rfl
  all_goals cases h <;> rfl

theorem name_of_checkOf? {t : Token} (h : checkOf? type t = some c) :
    c.name = checkName t.name := by
  unfold checkOf? at h
  cases hvalue : valueCheckOf? t.name t.argument with
  | some d =>
    rw [hvalue] at h
    cases h
    exact name_of_valueCheckOf? hvalue
  | none =>
    rw [hvalue] at h
    cases type with
    | text =>
      obtain ⟨d, hd, rfl⟩ := Option.map_eq_some_iff.1 h
      exact name_of_textCheckOf? hd
    | number =>
      obtain ⟨d, hd, rfl⟩ := Option.map_eq_some_iff.1 h
      exact name_of_numberCheckOf? hd
    | flag => cases h
    | any => cases h

/-- A check `c` that does not accumulate is asked for by its own name alone. -/
theorem checkName_eq_iff {t : Token} (h : checkOf? type t = some c)
    (hacc : c.accumulates = false) (name : String) : checkName name = c.name ↔ name = c.name := by
  have hc : c.name ≠ "pattern" := by
    intro hc
    rw [accumulates_eq, hc] at hacc
    cases hacc
  have hregex : c.name ≠ "regex" := by
    rw [name_of_checkOf? h, checkName]
    split
    · decide
    · assumption
  unfold checkName
  split
  · rename_i hname
    rw [hname]
    exact ⟨fun he => absurd he.symm hc, fun he => absurd he.symm hregex⟩
  · rfl

/-- The checks of a name that does not accumulate, that of `c`, are those of the tokens of this
    name. -/
theorem filter_checks {t : Token} (h : checkOf? type t = some c) (hacc : c.accumulates = false)
    (ts : List Token) :
    (ts.filterMap (checkOf? type)).filter (·.name == c.name) =
      (ts.filter (·.name == c.name)).filterMap (checkOf? type) := by
  rw [List.filter_filterMap, List.filterMap_filter]
  refine List.filterMap_congr fun t' _ => ?_
  cases ht' : checkOf? type t' with
  | none => simp
  | some d =>
    have hsame : (d.name == c.name) = (t'.name == c.name) := by
      rw [Bool.eq_iff_iff, beq_iff_eq, beq_iff_eq, name_of_checkOf? ht']
      exact checkName_eq_iff h hacc t'.name
    simp [Option.filter, hsame]

theorem mem_standing_of_accumulates (hacc : c.accumulates = true) :
    c ∈ standing cs ↔ c ∈ cs := by
  induction cs with
  | nil => rfl
  | cons d cs ih =>
    rw [standing]
    split
    · rename_i hdrop
      have hne : c ≠ d := by
        rintro rfl
        simp [hacc] at hdrop
      rw [ih, List.mem_cons, or_iff_right hne]
    · rw [List.mem_cons, List.mem_cons, ih]

/-- Of the checks of a name that does not accumulate, that of `c`, the last one is left. -/
theorem filter_standing (hacc : c.accumulates = false) :
    (standing cs).filter (·.name == c.name) =
      (cs.filter (·.name == c.name)).getLast?.toList := by
  induction cs with
  | nil => rfl
  | cons d cs ih =>
    by_cases hname : d.name = c.name
    · have hd : d.accumulates = false := by rw [accumulates_of_name hname, hacc]
      rw [List.filter_cons_of_pos (by simpa using hname), standing, hd, hname]
      cases hlater : cs.filter (·.name == c.name) with
      | nil =>
        have hnone : cs.any (·.name == c.name) = false := by
          rw [List.any_eq_false]
          exact List.filter_eq_nil_iff.1 hlater
        rw [hlater] at ih
        simp [hnone, hname, ih]
      | cons e later =>
        have hsome : cs.any (·.name == c.name) = true := by
          obtain ⟨hmem, he⟩ := List.mem_filter.1 (hlater ▸ List.mem_cons_self (a := e))
          exact List.any_eq_true.2 ⟨e, hmem, he⟩
        rw [hlater] at ih
        simp [hsome, ih, List.getLast?_cons_cons]
    · rw [List.filter_cons_of_neg (by simpa using hname), ← ih, standing]
      split
      · rfl
      · rw [List.filter_cons_of_neg (by simpa using hname)]

/-- **The checks that are left** by `standing`: those that accumulate, and the last one of each
    other name. -/
theorem mem_standing_iff :
    c ∈ standing cs ↔
      if c.accumulates then c ∈ cs else (cs.filter (·.name == c.name)).getLast? = some c := by
  split
  · exact mem_standing_of_accumulates ‹_›
  · rename_i hacc
    rw [Bool.not_eq_true] at hacc
    have hfilter : c ∈ standing cs ↔ c ∈ (standing cs).filter (·.name == c.name) := by
      simp [List.mem_filter]
    rw [hfilter, filter_standing hacc, Option.mem_toList]

/-- The same checks are left, though not in the same order. -/
theorem Reordered.mem_checksOf (h : Reordered type ts ts') (hc : c ∈ checksOf type ts) :
    c ∈ checksOf type ts' := by
  obtain ⟨t, ht, hcheck⟩ := List.mem_filterMap.1 (mem_of_mem_standing hc)
  rw [checksOf, mem_standing_iff] at hc ⊢
  split at hc
  · rename_i hacc
    rw [if_pos hacc]
    exact (h.perm.filterMap _).mem_iff.1 hc
  · rename_i hacc
    rw [if_neg hacc]
    rw [Bool.not_eq_true] at hacc
    have hname : t.name = c.name :=
      (checkName_eq_iff hcheck hacc t.name).1 (name_of_checkOf? hcheck).symm
    have honce : CountsOnce type c.name := ⟨t.argument, c, hname ▸ hcheck, hacc⟩
    rwa [filter_checks hcheck hacc, h.single _ honce, ← filter_checks hcheck hacc] at hc

/-! ## Rules -/

/-- The tokens `ts` make rules if each of them does. -/
theorem rulesOf_isOk_iff :
    (∃ rs, Validator.rulesOf type ts = .ok rs) ↔ ∀ t ∈ ts, ∃ r, Token.Means type t r := by
  simp only [rulesOf_eq_ok_iff]
  exact exists_forall₂_iff

theorem rulesOf_isOk_of_perm (h : ts.Perm ts')
    (hrs : ∃ rs, Validator.rulesOf type ts = .ok rs) :
    ∃ rs, Validator.rulesOf type ts' = .ok rs := by
  rw [rulesOf_isOk_iff] at hrs ⊢
  intro t ht
  exact hrs t (h.mem_iff.2 ht)

/-! ## Verdicts -/

theorem ReachesConversion.of_perm (h : ts.Perm ts') (hx : ReachesConversion ts x) :
    ReachesConversion ts' x where
  present := hx.present
  not_forbidden := mentions_eq h _ ▸ hx.not_forbidden
  not_allowed := member_admitted h _ ▸ hx.not_allowed

theorem ReachesChecks.of_perm (h : ts.Perm ts') (hy : ReachesChecks ts y) :
    ReachesChecks ts' y where
  not_allowed := member_admitted h _ ▸ hy.not_allowed
  no_valid := (given_eq_nil_iff h _).1 hy.no_valid
  not_invalid := member_given h _ _ ▸ hy.not_invalid

/-- What a type makes of the value `x` does not depend on the order of the tokens. -/
theorem Converts.of_perm (h : ts.Perm ts') {r : Except Violation Value}
    (hx : Converts ts label type x r) : Converts ts' label type x r := by
  cases hx with
  | text hempty =>
    rw [stripped_eq h, member_admitted h] at hempty
    rw [stripped_eq h]
    exact .text hempty
  | empty hempty hmem =>
    rw [stripped_eq h] at hempty
    rw [member_admitted h] at hmem
    exact .empty hempty hmem
  | noText hx => exact .noText hx
  | whole => exact .whole
  | finite => exact .finite
  | infinite => exact .infinite
  | nan => exact .nan
  | wholeText hread hwhole hk => exact .wholeText hread hwhole hk
  | finiteText hread hwhole hd => exact .finiteText hread hwhole hd
  | infiniteText hread hwhole hd => exact .infiniteText hread hwhole hd
  | noNumeral hread => exact .noNumeral hread
  | noNumber hx hq => exact .noNumber hx hq
  | true ht =>
    rw [mentions_eq h, truths_any h] at ht
    exact .true ht
  | false ht hf =>
    rw [mentions_eq h, truths_any h] at ht
    rw [mentions_eq h, falsehoods_any h] at hf
    exact .false ht hf
  | noFlag ht hf =>
    rw [mentions_eq h, truths_any h] at ht
    rw [mentions_eq h, falsehoods_any h] at hf
    exact .noFlag ht hf
  | any => exact .any

/-- What is accepted by `ts` is accepted by the reordered `ts'`. -/
theorem Reordered.accepts (h : Reordered type ts ts') (hx : Verdict type ts label x none) :
    Verdict type ts' label x none := by
  cases hx with
  | absent hd => exact .absent (h.demanded_eq ▸ hd)
  | allowed hx hf ha =>
    exact .allowed hx (mentions_eq h.perm _ ▸ hf) (member_admitted h.perm _ ▸ ha)
  | converted hreach hconvert hsettles =>
    refine .converted (hreach.of_perm h.perm) (hconvert.of_perm h.perm) ?_
    cases hsettles with
    | allowed ha => exact .allowed (member_admitted h.perm _ ▸ ha)
    | valid ha hg hm =>
      exact .valid (member_admitted h.perm _ ▸ ha) (mt (given_eq_nil_iff h.perm _).2 hg)
        (member_given h.perm _ _ ▸ hm)
    | passes hy hpass =>
      exact .passes (hy.of_perm h.perm) fun c hc => hpass c (h.symm.mem_checksOf hc)

/-- What is rejected before the checks by `ts` is rejected by the reordered `ts'`, and for the same
    reason.  The messages can differ: they list the valid values in their order. -/
theorem Reordered.rejects (h : Reordered type ts ts') {violation : Violation}
    (hx : Verdict type ts label x (some violation)) (hkind : violation.kind ∈ kindsBeforeChecks) :
    ∃ message, Verdict type ts' label x (some ⟨violation.kind, message⟩) := by
  cases hx with
  | missing hd => exact ⟨_, .missing (h.demanded_eq ▸ hd)⟩
  | forbidden hx hf => exact ⟨_, .forbidden hx (mentions_eq h.perm _ ▸ hf)⟩
  | unconverted hreach hconvert =>
    exact ⟨_, .unconverted (hreach.of_perm h.perm) (hconvert.of_perm h.perm)⟩
  | converted hreach hconvert hsettles =>
    have hsame : ∀ {message}, Settles type ts' label _ (some ⟨violation.kind, message⟩) →
        ∃ message, Verdict type ts' label x (some ⟨violation.kind, message⟩) := fun hs =>
      ⟨_, .converted (hreach.of_perm h.perm) (hconvert.of_perm h.perm) hs⟩
    cases hsettles with
    | only ha hg hm hnames =>
      have harg : ∀ w ∈ given "valid" ts', w.IsArgument := fun w hw => given_isArgument hw
      obtain ⟨names', hnames'⟩ := Value.listed_isOk harg
      exact hsame (.only (member_admitted h.perm _ ▸ ha) (mt (given_eq_nil_iff h.perm _).2 hg)
        (member_given h.perm _ _ ▸ hm) hnames')
    | invalid ha hg hi =>
      exact hsame (.invalid (member_admitted h.perm _ ▸ ha) ((given_eq_nil_iff h.perm _).1 hg)
        (member_given h.perm _ _ ▸ hi))
    | fails _ _ _ hc =>
      rw [Check.kind_of_apply hc] at hkind
      exact absurd hkind (Check.kind_not_mem _)

/-! ## Before the checks -/

/-- The value `x` gets as far as the checks: it is converted, and not settled before them. -/
def GetsToChecks (type : BaseType) (ts : List Token) (label : String) (x : Value) : Prop :=
  ReachesConversion ts x ∧ ∃ y, Converts ts label type x (.ok y) ∧ ReachesChecks ts y

theorem kind_of_converts {violation : Violation}
    (h : Converts ts label type x (.error violation)) : violation.kind ∈ kindsBeforeChecks := by
  cases h <;> simp [kindsBeforeChecks]

/-- The kind of a `violation` tells whether the checks were reached. -/
theorem kind_mem_iff (hv : Gathered type ts v) {violation : Violation}
    (hx : Verdict type ts label x (some violation)) :
    violation.kind ∈ kindsBeforeChecks ↔ ¬ GetsToChecks type ts label x := by
  -- a value becomes one thing only
  have hunique : ∀ {r r' : Except Violation Value},
      Converts ts label type x r → Converts ts label type x r' → r = r' := by
    intro r r' hr hr'
    exact Except.ok.inj (((convert_eq_ok_iff hv).2 hr).symm.trans ((convert_eq_ok_iff hv).2 hr'))
  cases hx with
  | missing hd =>
    refine iff_of_true (by simp [kindsBeforeChecks]) ?_
    rintro ⟨hreach, -⟩
    exact hreach.present rfl
  | forbidden hx hf =>
    refine iff_of_true (by simp [kindsBeforeChecks]) ?_
    rintro ⟨hreach, -⟩
    rw [hreach.not_forbidden] at hf
    cases hf
  | unconverted hreach hconvert =>
    refine iff_of_true (kind_of_converts hconvert) ?_
    rintro ⟨-, y, hy, -⟩
    cases hunique hconvert hy
  | converted hreach hconvert hsettles =>
    cases hsettles with
    | only ha hg hm hnames =>
      refine iff_of_true (by simp [kindsBeforeChecks]) ?_
      rintro ⟨-, y, -, hchecks⟩
      exact hg hchecks.no_valid
    | invalid ha hg hi =>
      refine iff_of_true (by simp [kindsBeforeChecks]) ?_
      rintro ⟨-, y, hy, hchecks⟩
      obtain rfl := Except.ok.inj (hunique hconvert hy)
      rw [hchecks.not_invalid] at hi
      cases hi
    | fails hchecks hcs hbefore hc =>
      refine iff_of_false ?_ (not_not.2 ⟨hreach, _, hconvert, hchecks⟩)
      rw [Check.kind_of_apply hc]
      exact Check.kind_not_mem _

/-! ## Two rule texts -/

/-- **What is accepted does not depend on the order of the rules.** Of two rule texts with tokens
    `ts` and `ts'` that are `Reordered`, the same in orders that keep what a later token takes
    back, both make a validator or neither does.  The two validators `v` and `v'` accept the same
    values, and what one of them rejects before the checks, the other rejects with the same
    `kind`. -/
theorem verdict_of_reordered {table : TypeTable} {name : String} {rules rules' : Option String}
    (htype : table.find? name = some type) (hts : Token.parse rules = .ok ts)
    (hts' : Token.parse rules' = .ok ts') (h : Reordered type ts ts') :
    ((∃ v, Validator.build table rules name = .ok v) ↔
      ∃ v', Validator.build table rules' name = .ok v') ∧
    ∀ v v', Validator.build table rules name = .ok v → Validator.build table rules' name = .ok v' →
      ∀ label x,
        (v.judge label x = .ok none ↔ v'.judge label x = .ok none) ∧
        (∀ kind ∈ kindsBeforeChecks,
          (∃ message, v.judge label x = .ok (some ⟨kind, message⟩)) ↔
            ∃ message, v'.judge label x = .ok (some ⟨kind, message⟩)) ∧
        ∀ violation, v.judge label x = .ok (some violation) →
          (violation.kind ∈ kindsBeforeChecks ↔ ¬ GetsToChecks type ts label x) := by
  have hbuild {texts : Option String} {us : List Token} (hus : Token.parse texts = .ok us)
      (v : Validator) : Validator.build table texts name = .ok v ↔
        ∃ rs, Validator.rulesOf type us = .ok rs ∧ v = Validator.ofRules type rs := by
    rw [build_eq_ok_iff, htype, hus]
    simp
  constructor
  · simp only [hbuild hts, hbuild hts']
    constructor
    · rintro ⟨v, rs, hrs, -⟩
      obtain ⟨rs', hrs'⟩ := rulesOf_isOk_of_perm h.perm ⟨rs, hrs⟩
      exact ⟨_, rs', hrs', rfl⟩
    · rintro ⟨v', rs', hrs', -⟩
      obtain ⟨rs, hrs⟩ := rulesOf_isOk_of_perm h.perm.symm ⟨rs', hrs'⟩
      exact ⟨_, rs, hrs, rfl⟩
  · intro v v' hv hv' label x
    obtain ⟨rs, hrs, rfl⟩ := (hbuild hts v).1 hv
    obtain ⟨rs', hrs', rfl⟩ := (hbuild hts' v').1 hv'
    have hgathered := gathered_of_rulesOf hrs
    have hgathered' := gathered_of_rulesOf hrs'
    simp only [judge_of_gathered hgathered, judge_of_gathered hgathered']
    refine ⟨⟨h.accepts, h.symm.accepts⟩, ?_, fun violation hx => kind_mem_iff hgathered hx⟩
    intro kind hkind
    constructor
    · rintro ⟨message, hx⟩
      exact h.rejects hx hkind
    · rintro ⟨message, hx⟩
      exact h.symm.rejects hx hkind

/-- The limits keep their order, and all else is free: the same texts are accepted, but of the two
    checks that `ab` does not pass one text makes the pattern's first, the other the limit's. -/
theorem verdict_of_moved_pattern :
    ∃ v v', Validator.build .standard (some "min:3||regex:/x/||trim||min:5") "string" = .ok v ∧
      Validator.build .standard (some "trim||min:3||min:5||regex:/x/") "string" = .ok v' ∧
      (∀ x, v.judge "Name" x = .ok none ↔ v'.judge "Name" x = .ok none) ∧
      (v.judge "Name" (.text "ab")).map (Option.map (·.kind)) = .ok (some "string.pattern.base") ∧
      (v'.judge "Name" (.text "ab")).map (Option.map (·.kind)) = .ok (some "string.min") := by
  have hts : Token.parse (some "min:3||regex:/x/||trim||min:5") =
      .ok [⟨"min", some "3"⟩, ⟨"regex", some "/x/"⟩, ⟨"trim", none⟩, ⟨"min", some "5"⟩] := by
    decide +kernel
  have hts' : Token.parse (some "trim||min:3||min:5||regex:/x/") =
      .ok [⟨"trim", none⟩, ⟨"min", some "3"⟩, ⟨"min", some "5"⟩, ⟨"regex", some "/x/"⟩] := by
    decide +kernel
  have horder : Reordered .text
      [⟨"min", some "3"⟩, ⟨"regex", some "/x/"⟩, ⟨"trim", none⟩, ⟨"min", some "5"⟩]
      [⟨"trim", none⟩, ⟨"min", some "3"⟩, ⟨"min", some "5"⟩, ⟨"regex", some "/x/"⟩] := by
    refine ⟨by decide, by decide, ?_⟩
    intro name _
    by_cases hmin : name = "min"
    · subst hmin
      decide
    · by_cases hregex : name = "regex"
      · subst hregex
        decide
      · by_cases htrim : name = "trim"
        · subst htrim
          decide
        · simp [Ne.symm hmin, Ne.symm hregex, Ne.symm htrim]
  have htype : TypeTable.standard.find? "string" = some .text := rfl
  obtain ⟨-, hsame⟩ := verdict_of_reordered htype hts hts' horder
  have hpattern : ((Validator.build .standard (some "min:3||regex:/x/||trim||min:5") "string").bind
      fun v => (v.judge "Name" (.text "ab")).map (Option.map (·.kind))) =
        .ok (some "string.pattern.base") := by
    decide +kernel
  have hlimit : ((Validator.build .standard (some "trim||min:3||min:5||regex:/x/") "string").bind
      fun v => (v.judge "Name" (.text "ab")).map (Option.map (·.kind))) =
        .ok (some "string.min") := by
    decide +kernel
  obtain ⟨v, hv, hkind⟩ := exists_build_of_bind hpattern
  obtain ⟨v', hv', hkind'⟩ := exists_build_of_bind hlimit
  exact ⟨v, v', hv, hv', fun x => (hsame v v' hv hv' "Name" x).1, hkind, hkind'⟩

end Tokens

end Rulebook
