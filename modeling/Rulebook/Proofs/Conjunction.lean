/-
  Rules that reject compose by conjunction.

  Some rules can only take values away: that a value has to be there, that it must not be, that it
  is none of some values, and all checks.  Two rule texts made of these, put one behind the other,
  accept what both of them accept:

      a                     b            a||b
      required||min:3       max:5        accepted by both
      regex:/x/             regex:/y/    accepted by both, for patterns accumulate
      min:3                 min:5        accepted by b, for the first limit is replaced

  The last line is the one case that has to be left out: a check of which the last one counts must
  not be asked for by both.

  1. `Rule.Rejects`: the rules that only take values away;
  2. `Untouched`: what these leave as it is, step by step, and so what conversion sees;
  3. `Combines`: the demands of two validators in one, kept by one more rule, and so by all;
  4. `Untouched.accepts_iff`, `Combines.accepts_iff`: what is accepted;
  5. `accepts_conjunction`: two rule texts.

  The crux is 3: a check that is put at the end behind the checks of both texts drops none of the
  first one's.
-/
import Rulebook.Proofs.RuleText
import Rulebook.Proofs.Verdict

namespace Rulebook

open Rulebook.Text Tokens

/-- A rule that takes values away and never lets one pass that did not. -/
def Rule.Rejects : Rule → Prop
  | .required | .forbidden | .invalid _ | .check _ => True
  | _ => False

namespace Validator

variable {type : BaseType} {v v' w : Validator} {r : Rule} {rs rs' : List Rule} {c d : Check}
  {label : String} {x y : Value}

/-! ## What rejecting rules leave as it is -/

/-- The parts of the state of `v` that rejecting rules do not touch are those of the bare `type`. -/
structure Untouched (type : BaseType) (v : Validator) : Prop where
  type_eq : v.type = type
  allowed_eq : v.allowed = []
  valid_eq : v.valid = []
  trim_eq : v.trim = false
  truthy_eq : v.truthy = (empty type).truthy
  falsy_eq : v.falsy = (empty type).falsy
  sensitive_eq : v.sensitive = false

theorem untouched_empty (type : BaseType) : Untouched type (empty type) :=
  ⟨rfl, rfl, rfl, rfl, rfl, rfl, rfl⟩

/-- **The step**, for one rule `r` that `Rejects`. -/
theorem Untouched.add (hv : Untouched type v) (hr : r.Rejects) : Untouched type (v.add r) := by
  obtain ⟨htype, hallowed, hvalid, htrim, htruthy, hfalsy, hsensitive⟩ := hv
  cases r with
  | required | forbidden | invalid _ | check _ =>
    exact ⟨htype, hallowed, hvalid, htrim, htruthy, hfalsy, hsensitive⟩
  | _ => cases hr

/-- **The run**, for all rules `rs` of a text. -/
theorem untouched_ofRules (hrs : ∀ r ∈ rs, r.Rejects) : Untouched type (ofRules type rs) := by
  have run : ∀ v, Untouched type v → Untouched type (rs.foldl Validator.add v) := by
    induction rs with
    | nil => exact fun v hv => hv
    | cons r rs ih =>
      obtain ⟨hr, hrest⟩ := List.forall_mem_cons.1 hrs
      exact fun v hv => ih hrest (v.add r) (hv.add hr)
  exact run _ (untouched_empty type)

/-- A value `x` is converted as by the `empty` validator. -/
theorem Untouched.convert_eq (hv : Untouched type v) :
    v.convert label x = (empty type).convert label x := by
  have htype : v.type = (empty type).type := hv.type_eq
  have htext : v.convertText label x = (empty type).convertText label x := by
    unfold convertText
    rw [hv.trim_eq, hv.allowed_eq]
    rfl
  have hflag : v.convertFlag label x = (empty type).convertFlag label x := by
    unfold convertFlag
    rw [hv.truthy_eq, hv.falsy_eq, hv.sensitive_eq]
    rfl
  unfold convert
  rw [htype, htext, hflag]

/-- Nothing is allowed and no list of valid values is given, so what `v` accepts is converted, is
    no invalid value, and passes all checks. -/
theorem Untouched.accepts_iff (hv : Untouched type v) :
    v.judge label x = .ok none ↔
      (x = .null ∧ v.required = false) ∨
      (x ≠ .null ∧ v.forbidden = false ∧ ∃ y, (empty type).convert label x = .ok (.ok y) ∧
        Value.member v.invalid y = false ∧ ∀ c ∈ v.checks, c.apply label y = .ok none) := by
  have hconverted (y : Value) : v.judgeConverted label y = .ok none ↔
      Value.member v.invalid y = false ∧ ∀ c ∈ v.checks, c.apply label y = .ok none := by
    unfold judgeConverted
    rw [hv.allowed_eq, hv.valid_eq, ← runChecks_eq_ok_none_iff]
    cases Value.member v.invalid y <;> simp [Value.member]
  by_cases hx : x = .null
  · obtain rfl := hx
    unfold judge
    cases v.required <;> simp
  · by_cases hforbidden : v.forbidden = true
    · rw [judge_of_present hx, if_pos hforbidden]
      simp [hx, hforbidden]
    · rw [Bool.not_eq_true] at hforbidden
      rw [accepts_of_present_iff hx hforbidden, hv.allowed_eq, hv.convert_eq]
      simp [Value.member, hx, hforbidden, hconverted]

/-! ## The demands of two validators -/

/-- The demands of `w` are those of `v`, and behind them those of `v'`. -/
structure Combines (v v' w : Validator) : Prop where
  required_eq : w.required = (v.required || v'.required)
  forbidden_eq : w.forbidden = (v.forbidden || v'.forbidden)
  invalid_eq : w.invalid = v.invalid ++ v'.invalid
  checks_eq : w.checks = v.checks ++ v'.checks

/-- The `empty` validator demands nothing. -/
theorem combines_empty (type : BaseType) (v : Validator) : Combines v (empty type) v := by
  constructor <;> simp [empty]

/-- A check `c` put at the end drops none of the checks `cs` in front that it does not replace. -/
theorem addCheck_append {cs ds : List Check}
    (hapart : ∀ d ∈ cs, d.name = c.name → c.accumulates = true) :
    addCheck (cs ++ ds) c = cs ++ addCheck ds c := by
  unfold addCheck
  by_cases hc : c.accumulates = true
  · simp [hc]
  · have hkept : cs.filter (·.name != c.name) = cs := by
      rw [List.filter_eq_self]
      intro d hd
      rw [bne_iff_ne]
      exact fun hname => hc (hapart d hd hname)
    simp [hc, hkept]

/-- **The step**: the rule `r` more in `v'` and in `w`. -/
theorem Combines.add (h : Combines v v' w) (hr : r.Rejects)
    (hapart : ∀ c, r = .check c → ∀ d ∈ v.checks, d.name = c.name → c.accumulates = true) :
    Combines v (v'.add r) (w.add r) := by
  obtain ⟨hrequired, hforbidden, hinvalid, hchecks⟩ := h
  cases r with
  | required => exact ⟨by simp [Validator.add], hforbidden, hinvalid, hchecks⟩
  | forbidden => exact ⟨hrequired, by simp [Validator.add], hinvalid, hchecks⟩
  | invalid x =>
    exact ⟨hrequired, hforbidden, by simp [Validator.add, hinvalid], hchecks⟩
  | check c =>
    refine ⟨hrequired, hforbidden, hinvalid, ?_⟩
    show addCheck w.checks c = v.checks ++ addCheck v'.checks c
    rw [hchecks, addCheck_append (hapart c rfl)]
  | _ => cases hr

/-- The checks of the validator of `rs` are among its rules. -/
theorem mem_checks_ofRules (hd : d ∈ (ofRules type rs).checks) : .check d ∈ rs := by
  have step : ∀ {v : Validator} {r : Rule}, d ∈ (v.add r).checks → d ∈ v.checks ∨ r = .check d := by
    intro v r h
    cases r with
    | check c =>
      rcases List.mem_append.1 h with hmem | hmem
      · left
        split at hmem
        · exact hmem
        · exact List.mem_of_mem_filter hmem
      · obtain rfl := List.mem_singleton.1 hmem
        exact .inr rfl
    | _ => exact .inl h
  have run : ∀ v, d ∈ (rs.foldl Validator.add v).checks → d ∈ v.checks ∨ .check d ∈ rs := by
    clear hd
    induction rs with
    | nil => exact fun v h => .inl h
    | cons r rs ih =>
      intro v h
      rcases ih (v.add r) h with hmem | hmem
      · rcases step hmem with hmem | rfl
        · exact .inl hmem
        · exact .inr List.mem_cons_self
      · exact .inr (List.mem_cons_of_mem _ hmem)
  rcases run _ hd with hmem | hmem
  · cases hmem
  · exact hmem

/-- **The run**: the rules `rs'` of one text behind the rules `rs` of another. -/
theorem combines_ofRules (hrs' : ∀ r ∈ rs', r.Rejects)
    (hapart : ∀ c d, .check c ∈ rs → .check d ∈ rs' → c.name = d.name → d.accumulates = true) :
    Combines (ofRules type rs) (ofRules type rs') (ofRules type (rs ++ rs')) := by
  have run : ∀ v' w, Combines (ofRules type rs) v' w →
      Combines (ofRules type rs) (rs'.foldl Validator.add v') (rs'.foldl Validator.add w) := by
    induction rs' with
    | nil => exact fun v' w h => h
    | cons r rs' ih =>
      obtain ⟨hr, hrest⟩ := List.forall_mem_cons.1 hrs'
      intro v' w h
      refine ih hrest ?_ _ _ (h.add hr ?_)
      · exact fun c d hc hd => hapart c d hc (List.mem_cons_of_mem _ hd)
      · rintro c rfl d hd hname
        exact hapart d c (mem_checks_ofRules hd) List.mem_cons_self hname
  rw [ofRules_append]
  exact run _ _ (combines_empty type _)

/-- **What is accepted** by `w`, which has the demands of both, is what `v` and `v'` both accept. -/
theorem Combines.accepts_iff (h : Combines v v' w) (hv : Untouched type v)
    (hv' : Untouched type v') (hw : Untouched type w) :
    w.judge label x = .ok none ↔ v.judge label x = .ok none ∧ v'.judge label x = .ok none := by
  have hinvalid (y : Value) : Value.member w.invalid y = false ↔
      Value.member v.invalid y = false ∧ Value.member v'.invalid y = false := by
    rw [h.invalid_eq, Value.member, List.any_append, Bool.or_eq_false_iff]
    rfl
  rw [hv.accepts_iff, hv'.accepts_iff, hw.accepts_iff, h.required_eq, h.forbidden_eq, h.checks_eq]
  by_cases hx : x = .null
  · simp [hx]
  · -- the value is converted to the same on all three sides
    rcases (empty type).convert label x with e | violation | y
    · simp [hx]
    · simp [hx]
    · simp only [hx, false_and, false_or, ne_eq, not_false_eq_true, true_and, Except.ok.injEq,
        exists_eq_left', hinvalid, Bool.or_eq_false_iff, List.forall_mem_append]
      tauto

end Validator

namespace Tokens

variable {type : BaseType} {name a b : String} {rs rs' : List Rule}

/-- The text `rules` makes the rules `rs` for the `type`. -/
def MakesRules (type : BaseType) (rules : String) (rs : List Rule) : Prop :=
  ∃ ts, Token.parse (some rules) = .ok ts ∧ Validator.rulesOf type ts = .ok rs

theorem MakesRules.build {table : TypeTable} (h : MakesRules type a rs)
    (htype : table.find? name = some type) :
    Validator.build table (some a) name = .ok (Validator.ofRules type rs) := by
  obtain ⟨ts, hts, hrs⟩ := h
  exact build_eq_ok_iff.2 ⟨type, ts, rs, htype, hts, hrs, rfl⟩

/-- The texts `a` and `b` with the separator between them make the rules of both. -/
theorem MakesRules.append (h : MakesRules type a rs) (h' : MakesRules type b rs') (ha : a ≠ "")
    (hb : b ≠ "") (hbar : a.toList.getLast? ≠ some '|') :
    MakesRules type (a ++ "||" ++ b) (rs ++ rs') := by
  obtain ⟨ts, hts, hrs⟩ := h
  obtain ⟨ts', hts', hrs'⟩ := h'
  refine ⟨ts ++ ts', Token.parse_append ha hb hbar hts hts', ?_⟩
  rw [rulesOf_eq_ok_iff] at hrs hrs' ⊢
  exact List.rel_append hrs hrs'

/-- **Rejecting rules compose by conjunction.** Two rule texts `a` and `b` that make rules `rs` and
    `rs'` which all `Rejects`, and ask for no check of which the last one counts under the same
    name, make validators `v` and `v'`, and the two put together make a validator `w`.  It accepts
    a value `x` exactly if both of the others do, also where one of the three has no answer. -/
theorem accepts_conjunction {table : TypeTable} (htype : table.find? name = some type)
    (hmakes : MakesRules type a rs) (hmakes' : MakesRules type b rs') (ha : a ≠ "") (hb : b ≠ "")
    (hbar : a.toList.getLast? ≠ some '|') (hrs : ∀ r ∈ rs, r.Rejects)
    (hrs' : ∀ r ∈ rs', r.Rejects)
    (hapart : ∀ c d, .check c ∈ rs → .check d ∈ rs' → c.name = d.name → d.accumulates = true) :
    ∃ v v' w, Validator.build table (some a) name = .ok v ∧
      Validator.build table (some b) name = .ok v' ∧
      Validator.build table (some (a ++ "||" ++ b)) name = .ok w ∧
      ∀ label x, w.judge label x = .ok none ↔
        v.judge label x = .ok none ∧ v'.judge label x = .ok none := by
  have hall : ∀ r ∈ rs ++ rs', r.Rejects := List.forall_mem_append.2 ⟨hrs, hrs'⟩
  refine ⟨_, _, _, hmakes.build htype, hmakes'.build htype,
    (hmakes.append hmakes' ha hb hbar).build htype, fun label x => ?_⟩
  exact (Validator.combines_ofRules hrs' hapart).accepts_iff (Validator.untouched_ofRules hrs)
    (Validator.untouched_ofRules hrs') (Validator.untouched_ofRules hall)

/-- Both texts have a list, and both lists count: of the two elements that the first one lets pass,
    the second leaves one. -/
theorem accepts_conjunction_of_lists :
    ∃ v v' w,
      Validator.build .standard (some "required||min:3||custom_list:abc,abcd") "string" = .ok v ∧
      Validator.build .standard (some "max:4||custom_list:abc,xyz||invalid:xyz") "string" = .ok v' ∧
      Validator.build .standard
        (some ("required||min:3||custom_list:abc,abcd" ++ "||" ++
          "max:4||custom_list:abc,xyz||invalid:xyz")) "string" = .ok w ∧
      w.judge "Name" (.text "abc") = .ok none ∧
      ∀ label x, w.judge label x = .ok none ↔
        v.judge label x = .ok none ∧ v'.judge label x = .ok none := by
  have hmakes : MakesRules .text "required||min:3||custom_list:abc,abcd"
      [.required, .ofText (.atLeast 3), .check (.value (.members ["abc", "abcd"]))] :=
    ⟨[⟨"required", none⟩, ⟨"min", some "3"⟩, ⟨"custom_list", some "abc,abcd"⟩], by decide, rfl⟩
  have hmakes' : MakesRules .text "max:4||custom_list:abc,xyz||invalid:xyz"
      [.ofText (.atMost 4), .check (.value (.members ["abc", "xyz"])), .invalid (.text "xyz")] :=
    ⟨[⟨"max", some "4"⟩, ⟨"custom_list", some "abc,xyz"⟩, ⟨"invalid", some "xyz"⟩], by decide, rfl⟩
  have htype : TypeTable.standard.find? "string" = some .text := rfl
  obtain ⟨v, v', w, hv, hv', hw, hiff⟩ := accepts_conjunction htype hmakes hmakes' (by decide)
    (by decide) (by decide)
    (by simp [Rule.Rejects, Rule.ofText]) (by simp [Rule.Rejects, Rule.ofText]) (by
      -- the name that both have in common is that of the lists
      intro c d hc hd hname
      simp only [Rule.ofText, List.mem_cons, List.not_mem_nil, Rule.check.injEq, reduceCtorEq,
        false_or, or_false] at hc hd
      rcases hc with rfl | rfl <;> rcases hd with rfl | rfl <;>
        first | rfl | exact absurd hname (by decide))
  have hjudge : ((Validator.build .standard
      (some ("required||min:3||custom_list:abc,abcd" ++ "||" ++
        "max:4||custom_list:abc,xyz||invalid:xyz")) "string").bind
          fun w => w.judge "Name" (.text "abc")) = .ok none := by
    decide +kernel
  rw [hw] at hjudge
  exact ⟨v, v', w, hv, hv', hw, hjudge, hiff⟩

end Tokens

end Rulebook
