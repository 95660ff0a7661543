/-
  The tables of rules, read from the side of the rules.

  `Rule.make` looks a name up in the table of its type and judges the argument by the row's
  signature.  Here is what comes out of that, with no table left to search:

  1. `Row.apply`, one lemma for each family of rows: which arguments a row takes, and which rule
     it makes of them;
  2. `Rule.Made`: the rules by name and argument, one constructor for each row;
  3. `Rule.make_eq_ok_iff`: the tables make exactly these;
  4. `Token.Means`, `Token.rule_eq_ok_iff`: the same for tokens, where four names read their
     argument as it stands.
-/
import Rulebook.Validator.Basic

namespace Rulebook

open Rulebook.Text Rulebook.Number

namespace Rule

/-! ## One lemma for each family of rows -/

theorem plain_apply_ok {name : String} {rule r : Rule} {a : Option Value} :
    (plain name rule).apply a = .ok r ↔ a = none ∧ r = rule := by
  cases a with
  | none => simp [plain, Row.apply, eq_comm]
  | some v => simp [plain, Row.apply]

/-- A row that asks for an argument of some `kinds` makes nothing without one, and nothing of one
    that is of none of them. -/
theorem apply_required_ok {row : Row} {kinds : List ArgumentKind} {a : Option Value} {r : Rule}
    (hs : row.signature = .required kinds) :
    row.apply a = .ok r ↔
      ∃ v, a = some v ∧ kinds.any (·.holds v) = true ∧ row.make (some v) = .ok r := by
  unfold Row.apply
  rw [hs]
  constructor
  · intro h
    cases a with
    | none => simp at h
    | some v =>
      by_cases hk : kinds.any (·.holds v) = true
      · exact ⟨v, rfl, hk, by simpa only [if_pos hk] using h⟩
      · simp only [if_neg hk, reduceCtorEq] at h
  · rintro ⟨v, rfl, hk, h⟩
    simpa only [if_pos hk] using h

theorem withValue_apply_ok {name : String} {kinds : List ArgumentKind} {rule : Value → Rule}
    {a : Option Value} {r : Rule} :
    (withValue name kinds rule).apply a = .ok r ↔
      ∃ v, a = some v ∧ kinds.any (·.holds v) = true ∧ r = rule v := by
  rw [apply_required_ok rfl]
  simp only [withValue, Option.getD_some, Except.ok.injEq, @eq_comm _ r]

theorem withLimit_apply_ok {name : String} {rule : Int → Rule} {a : Option Value} {r : Rule} :
    (withLimit name rule).apply a = .ok r ↔ ∃ n, a = some (.int n) ∧ 0 ≤ n ∧ r = rule n := by
  rw [apply_required_ok rfl]
  constructor
  · rintro ⟨v, rfl, hk, hr⟩
    cases v with
    | int n =>
      by_cases hn : n < 0
      · simp [withLimit, hn] at hr
      · simp only [withLimit, if_neg hn, Except.ok.injEq] at hr
        exact ⟨n, rfl, by omega, hr.symm⟩
    | _ => simp [ArgumentKind.holds] at hk
  · rintro ⟨n, rfl, hn, rfl⟩
    have hlt : ¬ n < 0 := by omega
    exact ⟨.int n, rfl, by simp [ArgumentKind.holds], by simp [withLimit, hlt]⟩

/-- The values of the kinds `numbers` are those with a `quantity?`. -/
theorem quantity?_isSome {v : Value} :
    numbers.any (·.holds v) = true ↔ ∃ q, Check.quantity? v = some q := by
  cases v <;> simp [numbers, ArgumentKind.holds, Check.quantity?]

theorem withNumber_apply_ok {name : String} {make : Quantity → Except Fault Rule}
    {a : Option Value} {r : Rule} :
    (withNumber name make).apply a = .ok r ↔
      ∃ v q, a = some v ∧ Check.quantity? v = some q ∧ make q = .ok r := by
  rw [apply_required_ok rfl]
  constructor
  · rintro ⟨v, rfl, hk, hr⟩
    obtain ⟨q, hq⟩ := quantity?_isSome.1 hk
    exact ⟨v, q, rfl, hq, by simpa [withNumber, hq] using hr⟩
  · rintro ⟨v, q, rfl, hq, hr⟩
    exact ⟨v, rfl, quantity?_isSome.2 ⟨q, hq⟩, by simpa [withNumber, hq] using hr⟩

theorem withPattern_apply_ok {name : String} {a : Option Value} {r : Rule} :
    (withPattern name).apply a = .ok r ↔
      (∃ p, a = some (.pattern p) ∧ r = ofText (.pattern p)) ∨
      (∃ body p, a = some (.text body) ∧ Pattern.compile body = .ok p ∧
        r = ofText (.pattern p)) := by
  rw [apply_required_ok rfl]
  constructor
  · rintro ⟨v, rfl, hk, hr⟩
    cases v with
    | pattern p => exact Or.inl ⟨p, rfl, by simpa [withPattern, eq_comm] using hr⟩
    | text body =>
      cases hp : Pattern.compile body with
      | ok p => exact Or.inr ⟨body, p, rfl, hp, by simpa [withPattern, hp, eq_comm] using hr⟩
      | error e => simp [withPattern, hp] at hr
    | _ => simp [patterns, ArgumentKind.holds] at hk
  · rintro (⟨p, rfl, rfl⟩ | ⟨body, p, rfl, hp, rfl⟩)
    · exact ⟨_, rfl, by simp [patterns, ArgumentKind.holds], rfl⟩
    · exact ⟨_, rfl, by simp [patterns, ArgumentKind.holds], by simp [withPattern, hp]⟩

/-- The row of `allow`, the only one whose argument may be left out. -/
def allowRow : Row := ⟨"allow", .optional scalars, fun v => .ok (allow (v.getD (.text "")))⟩

theorem allowRow_apply_ok {a : Option Value} {r : Rule} :
    allowRow.apply a = .ok r ↔
      (∃ v, a = some v ∧ scalars.any (·.holds v) = true ∧ r = allow v) ∨
      (a = none ∧ r = allow (.text "")) := by
  cases a with
  | none => simp [allowRow, Row.apply, @eq_comm _ r]
  | some v =>
    by_cases hk : scalars.any (·.holds v) = true
    · simp only [allowRow, Row.apply, hk, if_true, Option.getD_some, Except.ok.injEq,
        Option.some.injEq, exists_eq_left', true_and, reduceCtorEq, false_and, or_false,
        @eq_comm _ r]
    · simp only [allowRow, Row.apply, hk, if_false, reduceCtorEq, Option.some.injEq,
        exists_eq_left', false_and, or_false]

/-! ## The rules by name and argument -/

/-- The rules that a type has: for each the name, the value of the argument if it takes one, and
    what has to hold of that value. -/
inductive Made : BaseType → String → Option Value → Rule → Prop
  | required {type : BaseType} : Made type "required" none required
  | optional {type : BaseType} : Made type "optional" none optional
  | forbidden {type : BaseType} : Made type "forbidden" none forbidden
  | valid {type : BaseType} {v : Value} :
    scalars.any (·.holds v) = true → Made type "valid" (some v) (valid v)
  | allow {type : BaseType} {v : Value} :
    scalars.any (·.holds v) = true → Made type "allow" (some v) (allow v)
  | allowEmpty {type : BaseType} : Made type "allow" none (allow (.text ""))
  | invalid {type : BaseType} {v : Value} :
    scalars.any (·.holds v) = true → Made type "invalid" (some v) (invalid v)
  | atLeast {n : Int} : 0 ≤ n → Made .text "min" (some (.int n)) (ofText (.atLeast n))
  | atMost {n : Int} : 0 ≤ n → Made .text "max" (some (.int n)) (ofText (.atMost n))
  | exactly {n : Int} : 0 ≤ n → Made .text "length" (some (.int n)) (ofText (.exactly n))
  | pattern {name : String} {p : Pattern} :
    name = "regex" ∨ name = "pattern" →
      Made .text name (some (.pattern p)) (ofText (.pattern p))
  | patternText {name body : String} {p : Pattern} :
    name = "regex" ∨ name = "pattern" → Pattern.compile body = .ok p →
      Made .text name (some (.text body)) (ofText (.pattern p))
  | form (f : TextForm) : Made .text f.name none (ofText (.form f))
  | trim : Made .text "trim" none trim
  | compare (c : Comparison) {v : Value} {q : Quantity} :
    Check.quantity? v = some q → Made .number c.name (some v) (ofNumber (.compare c q))
  | integer : Made .number "integer" none (ofNumber .integer)
  | positive : Made .number "positive" none (ofNumber .positive)
  | negative : Made .number "negative" none (ofNumber .negative)
  | multiple {v : Value} {q : Quantity} :
    Check.quantity? v = some q → q.le (.whole 0) = false →
      Made .number "multiple" (some v) (ofNumber (.multiple q))
  | precision {n : Int} :
    0 ≤ n → Made .number "precision" (some (.int n)) (ofNumber (.precision n))
  | port : Made .number "port" none (ofNumber .port)
  | truthy {v : Value} :
    [ArgumentKind.text, .int].any (·.holds v) = true → Made .flag "truthy" (some v) (truthy v)
  | falsy {v : Value} :
    [ArgumentKind.text, .int].any (·.holds v) = true → Made .flag "falsy" (some v) (falsy v)
  | sensitive : Made .flag "sensitive" none sensitive

theorem made_of_sharedRows {type : BaseType} {row : Row} {a : Option Value} {r : Rule}
    (hrow : row ∈ sharedRows) (h : row.apply a = .ok r) : Made type row.name a r := by
  simp only [sharedRows, List.mem_cons, List.not_mem_nil, or_false] at hrow
  rcases hrow with rfl | rfl | rfl | rfl | rfl | rfl
  · obtain ⟨rfl, rfl⟩ := plain_apply_ok.1 h
    exact .required
  · obtain ⟨rfl, rfl⟩ := plain_apply_ok.1 h
    exact .optional
  · obtain ⟨rfl, rfl⟩ := plain_apply_ok.1 h
    exact .forbidden
  · obtain ⟨v, rfl, hv, rfl⟩ := withValue_apply_ok.1 h
    exact .valid hv
  · obtain ⟨v, rfl, hv, rfl⟩ | ⟨rfl, rfl⟩ := allowRow_apply_ok.1 h
    · exact .allow hv
    · exact .allowEmpty
  · obtain ⟨v, rfl, hv, rfl⟩ := withValue_apply_ok.1 h
    exact .invalid hv

theorem made_of_textRows {row : Row} {a : Option Value} {r : Rule}
    (hrow : row ∈ textRows) (h : row.apply a = .ok r) : Made .text row.name a r := by
  have formed (f : TextForm) (hf : (withForm f).apply a = .ok r) :
      Made .text (withForm f).name a r := by
    obtain ⟨rfl, rfl⟩ := plain_apply_ok.1 hf
    exact .form f
  have patterned (name : String) (hname : name = "regex" ∨ name = "pattern")
      (hp : (withPattern name).apply a = .ok r) : Made .text (withPattern name).name a r := by
    obtain ⟨p, rfl, rfl⟩ | ⟨body, p, rfl, hb, rfl⟩ := withPattern_apply_ok.1 hp
    · exact .pattern hname
    · exact .patternText hname hb
  simp only [textRows, List.mem_cons, List.not_mem_nil, or_false] at hrow
  rcases hrow with rfl | rfl | rfl | rfl | rfl | rfl | rfl | rfl | rfl | rfl | rfl | rfl | rfl | rfl
  · obtain ⟨n, rfl, hn, rfl⟩ := withLimit_apply_ok.1 h
    exact .atLeast hn
  · obtain ⟨n, rfl, hn, rfl⟩ := withLimit_apply_ok.1 h
    exact .atMost hn
  · obtain ⟨n, rfl, hn, rfl⟩ := withLimit_apply_ok.1 h
    exact .exactly hn
  · exact patterned _ (Or.inl rfl) h
  · exact patterned _ (Or.inr rfl) h
  · exact formed _ h
  · exact formed _ h
  · exact formed _ h
  · exact formed _ h
  · exact formed _ h
  · exact formed _ h
  · exact formed _ h
  · exact formed _ h
  · obtain ⟨rfl, rfl⟩ := plain_apply_ok.1 h
    exact .trim

theorem made_of_numberRows {row : Row} {a : Option Value} {r : Rule}
    (hrow : row ∈ numberRows) (h : row.apply a = .ok r) : Made .number row.name a r := by
  have compared (c : Comparison) (hc : (withComparison c).apply a = .ok r) :
      Made .number (withComparison c).name a r := by
    obtain ⟨v, q, rfl, hq, hr⟩ := withNumber_apply_ok.1 hc
    obtain rfl : ofNumber (.compare c q) = r := by simpa using hr
    exact .compare c hq
  simp only [numberRows, List.mem_cons, List.not_mem_nil, or_false] at hrow
  rcases hrow with rfl | rfl | rfl | rfl | rfl | rfl | rfl | rfl | rfl | rfl
  · exact compared _ h
  · exact compared _ h
  · exact compared _ h
  · exact compared _ h
  · obtain ⟨rfl, rfl⟩ := plain_apply_ok.1 h
    exact .integer
  · obtain ⟨rfl, rfl⟩ := plain_apply_ok.1 h
    exact .positive
  · obtain ⟨rfl, rfl⟩ := plain_apply_ok.1 h
    exact .negative
  · obtain ⟨v, q, rfl, hq, hr⟩ := withNumber_apply_ok.1 h
    by_cases hle : q.le (.whole 0) = true
    · simp [hle] at hr
    · simp only [if_neg hle, Except.ok.injEq] at hr
      obtain rfl := hr
      exact .multiple hq (by simpa using hle)
  · obtain ⟨n, rfl, hn, rfl⟩ := withLimit_apply_ok.1 h
    exact .precision hn
  · obtain ⟨rfl, rfl⟩ := plain_apply_ok.1 h
    exact .port

theorem made_of_flagRows {row : Row} {a : Option Value} {r : Rule}
    (hrow : row ∈ flagRows) (h : row.apply a = .ok r) : Made .flag row.name a r := by
  simp only [flagRows, List.mem_cons, List.not_mem_nil, or_false] at hrow
  rcases hrow with rfl | rfl | rfl
  · obtain ⟨v, rfl, hv, rfl⟩ := withValue_apply_ok.1 h
    exact .truthy hv
  · obtain ⟨v, rfl, hv, rfl⟩ := withValue_apply_ok.1 h
    exact .falsy hv
  · obtain ⟨rfl, rfl⟩ := plain_apply_ok.1 h
    exact .sensitive

/-- Whatever a `row` of the `type` makes of `a` is one of the rules of that type. -/
theorem made_of_rows {type : BaseType} {row : Row} {a : Option Value} {r : Rule}
    (hrow : row ∈ rows type) (h : row.apply a = .ok r) : Made type row.name a r := by
  cases type with
  | text => exact (List.mem_append.1 hrow).elim (made_of_sharedRows · h) (made_of_textRows · h)
  | number => exact (List.mem_append.1 hrow).elim (made_of_sharedRows · h) (made_of_numberRows · h)
  | flag => exact (List.mem_append.1 hrow).elim (made_of_sharedRows · h) (made_of_flagRows · h)
  | any => exact made_of_sharedRows hrow h

/-- **The tables make exactly the rules of `Made`**, for every type, name and argument. -/
theorem make_eq_ok_iff {type : BaseType} {name : String} {a : Option Value} {r : Rule} :
    make type name a = .ok r ↔ Made type name a r := by
  constructor
  · intro h
    unfold make at h
    cases hrow : (rows type).find? (·.name == name) with
    | none => simp [hrow] at h
    | some row =>
      have hname : row.name = name := by simpa using List.find?_some hrow
      rw [hrow] at h
      exact hname ▸ made_of_rows (List.mem_of_find?_eq_some hrow) h
  · -- each name is found in the table of its type; those of all types in every table
    intro h
    cases h with
    | required => cases type <;> rfl
    | optional => cases type <;> rfl
    | forbidden => cases type <;> rfl
    | valid hv => cases type <;> exact withValue_apply_ok.2 ⟨_, rfl, hv, rfl⟩
    | allow hv => cases type <;> exact allowRow_apply_ok.2 (Or.inl ⟨_, rfl, hv, rfl⟩)
    | allowEmpty => cases type <;> rfl
    | invalid hv => cases type <;> exact withValue_apply_ok.2 ⟨_, rfl, hv, rfl⟩
    | atLeast hn => exact withLimit_apply_ok.2 ⟨_, rfl, hn, rfl⟩
    | atMost hn => exact withLimit_apply_ok.2 ⟨_, rfl, hn, rfl⟩
    | exactly hn => exact withLimit_apply_ok.2 ⟨_, rfl, hn, rfl⟩
    | pattern hname =>
      rcases hname with rfl | rfl <;> exact withPattern_apply_ok.2 (Or.inl ⟨_, rfl, rfl⟩)
    | patternText hname hp =>
      rcases hname with rfl | rfl <;>
        exact withPattern_apply_ok.2 (Or.inr ⟨_, _, rfl, hp, rfl⟩)
    | form f => cases f <;> rfl
    | trim => rfl
    | compare c hq => cases c <;> exact withNumber_apply_ok.2 ⟨_, _, rfl, hq, rfl⟩
    | integer => rfl
    | positive => rfl
    | negative => rfl
    | multiple hq hpos => exact withNumber_apply_ok.2 ⟨_, _, rfl, hq, by simp [hpos]⟩
    | precision hn => exact withLimit_apply_ok.2 ⟨_, rfl, hn, rfl⟩
    | port => rfl
    | truthy hv => exact withValue_apply_ok.2 ⟨_, rfl, hv, rfl⟩
    | falsy hv => exact withValue_apply_ok.2 ⟨_, rfl, hv, rfl⟩
    | sensitive => rfl

/-- The names that mean the same for every type are not in the tables: what is `Made` is not
    theirs. -/
theorem Made.makeCustom?_eq_none {type : BaseType} {name : String} {a : Option Value} {r : Rule}
    (h : Made type name a r) (argument : Option String) : makeCustom? name argument = none := by
  cases h with
  | pattern hname => rcases hname with rfl | rfl <;> rfl
  | patternText hname _ => rcases hname with rfl | rfl <;> rfl
  | form f => cases f <;> rfl
  | compare c _ => cases c <;> rfl
  | _ => rfl

end Rule

/-! ## Tokens -/

namespace Token

/-- What a token means for a `type`.  A list and the addresses read the text of the argument, all
    other rules its value. -/
inductive Means (type : BaseType) : Token → Rule → Prop
  | members {raw : String} :
    raw ≠ "" → Means type ⟨"custom_list", some raw⟩
      (.check (.value (.members (ValueCheck.parts raw))))
  | four : Means type ⟨"ipv4", none⟩ (.check (.value (.address (some 4))))
  | six : Means type ⟨"ipv6", none⟩ (.check (.value (.address (some 6))))
  | either : Means type ⟨"ip", none⟩ (.check (.value (.address none)))
  | made {t : Token} {v : Option Value} {r : Rule} :
    t.value = .ok v → Rule.Made type t.name v r → Means type t r

/-- An argument `raw` that can be read gives its token the value `v`. -/
theorem value_of_read {name raw : String} {v : Value} (h : Argument.read raw (some name) = .ok v) :
    Token.value ⟨name, some raw⟩ = .ok (some v) := by
  simp only [Token.value, h]

theorem means_of_makeCustom? {type : BaseType} {t : Token} {r : Rule}
    (h : Rule.makeCustom? t.name t.argument = some (.ok r)) : Means type t r := by
  obtain ⟨name, argument⟩ := t
  have address (version : Option Nat) (ha : Rule.makeAddress version argument = .ok r) :
      argument = none ∧ r = .check (.value (.address version)) := by
    cases argument with
    | none => exact ⟨rfl, by simpa [Rule.makeAddress, eq_comm] using ha⟩
    | some _ => simp [Rule.makeAddress] at ha
  unfold Rule.makeCustom? at h
  dsimp only at h
  -- the four names in the order in which they are tried
  split at h
  · rename_i hname
    subst hname
    cases argument with
    | none => simp [Rule.makeMembers] at h
    | some raw =>
      by_cases hraw : raw = ""
      · simp [Rule.makeMembers, hraw] at h
      · simp only [Rule.makeMembers, String.isEmpty_iff, hraw, if_false, Option.some.injEq,
          Except.ok.injEq] at h
        exact h ▸ .members hraw
  · split at h
    · rename_i hname
      obtain ⟨rfl, rfl⟩ := address _ (Option.some.inj h)
      exact hname ▸ .four
    · split at h
      · rename_i hname
        obtain ⟨rfl, rfl⟩ := address _ (Option.some.inj h)
        exact hname ▸ .six
      · split at h
        · rename_i hname
          obtain ⟨rfl, rfl⟩ := address _ (Option.some.inj h)
          exact hname ▸ .either
        · simp at h

/-- **The rule of a token is what the token `Means`.** -/
theorem rule_eq_ok_iff {type : BaseType} {t : Token} {r : Rule} :
    t.rule type = .ok r ↔ Means type t r := by
  constructor
  · intro h
    unfold Token.rule at h
    cases hc : Rule.makeCustom? t.name t.argument with
    | some made =>
      simp only [hc] at h
      exact means_of_makeCustom? (h ▸ hc)
    | none =>
      simp only [hc] at h
      cases hv : t.value with
      | error e => simp [hv] at h
      | ok v =>
        simp only [hv] at h
        exact .made hv (Rule.make_eq_ok_iff.1 h)
  · intro h
    cases h with
    | members hraw => simp [Token.rule, Rule.makeCustom?, Rule.makeMembers, hraw]
    | four => rfl
    | six => rfl
    | either => rfl
    | made hv hm =>
      unfold Token.rule
      rw [hm.makeCustom?_eq_none, hv]
      exact Rule.make_eq_ok_iff.2 hm

end Token

end Rulebook
