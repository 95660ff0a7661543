/-
  A list of tokens, read as a whole.

  A validator is made by folding rules into a state.  The same state can be read off the tokens,
  each part of it at a glance and wherever its tokens stand:

  1. `mentions`, `given`, `admitted`, `demanded`: switches, lists of values, and whether a value
     has to be there;
  2. `checkOf?`: the check that a token asks for, by name and argument;
  3. `standing`: the checks that are left when of each name that does not accumulate only the last
     one counts;
  4. `Gathered`: a validator holds what the tokens say.  One more token keeps this
     (`Gathered.add`), so it holds of the validator of every list of tokens
     (`gathered_of_rulesOf`).
-/
import Mathlib.Data.List.Forall2
import Rulebook.Proofs.RuleTable

namespace Rulebook

open Rulebook.Text Rulebook.Number

namespace Tokens

/-! ## Switches and values -/

/-- The value of the argument of `t`, if there is one and it can be read. -/
def argument? (t : Token) : Option Value := t.value.toOption.join

/-- Some token of `ts` has the `name`. -/
def mentions (name : String) (ts : List Token) : Bool := ts.any (·.name == name)

/-- The values that `ts` gives under `name`, in order. -/
def given (name : String) (ts : List Token) : List Value :=
  ts.filterMap fun t => if t.name = name then argument? t else none

/-- The values that `ts` lets pass by `allow`, whatever the other rules say; without an argument,
    the empty text. -/
def admitted (ts : List Token) : List Value :=
  ts.filterMap fun t =>
    if t.name = "allow" then some ((argument? t).getD (.text "")) else none

/-- The last token of `ts` on whether a value has to be there, `required` or `optional`, says that
    it has to. -/
def demanded (ts : List Token) : Bool :=
  ((ts.filter fun t => t.name == "required" || t.name == "optional").getLast?).any
    (·.name == "required")

/-! ## Checks -/

/-- A pattern, or the one that a text stands for, if it compiles. -/
def patternOf? : Value → Option Pattern
  | .pattern p => some p
  | .text body => (Pattern.compile body).toOption
  | _ => none

/-- The check on texts that `name` and `argument` ask for, if they ask for one. -/
def textCheckOf? (name : String) (argument : Option Value) : Option TextCheck :=
  match name, argument with
  | "min", some (.int n) => some (.atLeast n)
  | "max", some (.int n) => some (.atMost n)
  | "length", some (.int n) => some (.exactly n)
  | "regex", some v => (patternOf? v).map .pattern
  | "pattern", some v => (patternOf? v).map .pattern
  | "alphanum", none => some (.form .alphanum)
  | "token", none => some (.form .token)
  | "email", none => some (.form .email)
  | "uri", none => some (.form .uri)
  | "hostname", none => some (.form .hostname)
  | "hex", none => some (.form .hex)
  | "lowercase", none => some (.form .lowercase)
  | "uppercase", none => some (.form .uppercase)
  | _, _ => none

/-- The check on numbers that `name` and `argument` ask for, if they ask for one. -/
def numberCheckOf? (name : String) (argument : Option Value) : Option NumberCheck :=
  match name, argument with
  | "min", some v => (Check.quantity? v).map (.compare .min)
  | "max", some v => (Check.quantity? v).map (.compare .max)
  | "greater", some v => (Check.quantity? v).map (.compare .greater)
  | "less", some v => (Check.quantity? v).map (.compare .less)
  | "integer", none => some .integer
  | "positive", none => some .positive
  | "negative", none => some .negative
  | "multiple", some v => (Check.quantity? v).map .multiple
  | "precision", some (.int n) => some (.precision n)
  | "port", none => some .port
  | _, _ => none

/-- The check on the text form of any value that `name` and the text of the `argument` ask for. -/
def valueCheckOf? (name : String) (argument : Option String) : Option ValueCheck :=
  match name, argument with
  | "custom_list", some raw => some (.members (ValueCheck.parts raw))
  | "ipv4", none => some (.address (some 4))
  | "ipv6", none => some (.address (some 6))
  | "ip", none => some (.address none)
  | _, _ => none

/-- The check that the token `t` asks for on a field of `type`, if it asks for one. -/
def checkOf? (type : BaseType) (t : Token) : Option Check :=
  match valueCheckOf? t.name t.argument with
  | some c => some (.value c)
  | none =>
    match type with
    | .text => (textCheckOf? t.name (argument? t)).map .text
    | .number => (numberCheckOf? t.name (argument? t)).map .number
    | _ => none

/-- The checks of a list that count: those that accumulate, and of the others the last one of each
    name. -/
def standing : List Check → List Check
  | [] => []
  | c :: cs =>
    if !c.accumulates && cs.any (·.name == c.name) then standing cs else c :: standing cs

/-- The checks that `ts` asks for, in the order in which they are made: those of `checkOf?` that
    are `standing`. -/
def checksOf (type : BaseType) (ts : List Token) : List Check :=
  standing (ts.filterMap (checkOf? type))

/-! ## The last one counts -/

/-- The name of the check `c` decides whether it accumulates. -/
theorem accumulates_eq (c : Check) :
    c.accumulates = ["pattern", "custom_list", "ipv4", "ipv6", "ip"].contains c.name := by
  cases c with
  | text c =>
    cases c with
    | form f => cases f <;> rfl
    | _ => rfl
  | number c =>
    cases c with
    | compare c _ => cases c <;> rfl
    | _ => rfl
  | value c =>
    cases c with
    | members _ => rfl
    | address version =>
      have hname : (ValueCheck.address version).name ∈ ["ipv4", "ipv6", "ip"] := by
        unfold ValueCheck.name
        split <;> simp_all
      simp only [List.mem_cons, List.not_mem_nil, or_false] at hname
      show true = List.contains _ (ValueCheck.address version).name
      rcases hname with h | h | h <;> rw [h] <;> rfl

theorem accumulates_of_name {c d : Check} (h : c.name = d.name) :
    c.accumulates = d.accumulates := by
  rw [accumulates_eq, accumulates_eq, h]

/-- Adding the check `c` leaves the check `d` at the front alone, unless `c` replaces it. -/
theorem addCheck_cons {c d : Check} (cs : List Check) (h : c.accumulates = true ∨ c.name ≠ d.name) :
    Validator.addCheck (d :: cs) c = d :: Validator.addCheck cs c := by
  unfold Validator.addCheck
  by_cases hc : c.accumulates = true
  · simp [hc]
  · have hn : c.name ≠ d.name := h.resolve_left hc
    simp [hc, Ne.symm hn]

/-- **Putting a check at the end of a validator is putting its token at the end**: `standing` turns
    `++ [c]` into `addCheck`. -/
theorem standing_snoc (cs : List Check) (c : Check) :
    standing (cs ++ [c]) = Validator.addCheck (standing cs) c := by
  induction cs with
  | nil => simp [standing, Validator.addCheck]
  | cons d ds ih =>
    simp only [List.cons_append, standing, List.any_append, List.any_cons, List.any_nil,
      Bool.or_false, ih]
    by_cases hd : d.accumulates = true
    · -- `d` stays on both sides; if `c` replaced it, it would accumulate too
      have hkeep : c.accumulates = true ∨ c.name ≠ d.name := by
        by_cases hn : c.name = d.name
        · exact Or.inl (by rw [accumulates_of_name hn, hd])
        · exact Or.inr hn
      simp [hd, addCheck_cons _ hkeep]
    · by_cases hlater : ds.any (·.name == d.name) = true
      · simp [hd, hlater]
      · by_cases hn : c.name = d.name
        · have hc : c.accumulates = false := by rw [accumulates_of_name hn]; simpa using hd
          simp [hd, hlater, hn, hc, Validator.addCheck]
        · simp [hd, hlater, hn, addCheck_cons _ (Or.inr hn)]

/-! ## One token more -/

theorem mentions_snoc (name : String) (ts : List Token) (t : Token) :
    mentions name (ts ++ [t]) = (mentions name ts || t.name == name) := by
  simp [mentions]

theorem given_snoc (name : String) (ts : List Token) (t : Token) :
    given name (ts ++ [t]) =
      given name ts ++ (if t.name = name then (argument? t).toList else []) := by
  unfold given
  rw [List.filterMap_append]
  by_cases h : t.name = name
  · cases ha : argument? t <;> simp [h, ha]
  · simp [h]

theorem admitted_snoc (ts : List Token) (t : Token) :
    admitted (ts ++ [t]) =
      admitted ts ++ (if t.name = "allow" then [(argument? t).getD (.text "")] else []) := by
  unfold admitted
  rw [List.filterMap_append]
  by_cases h : t.name = "allow" <;> simp [h]

theorem demanded_snoc (ts : List Token) (t : Token) :
    demanded (ts ++ [t]) =
      if t.name = "required" then true
      else if t.name = "optional" then false
      else demanded ts := by
  unfold demanded
  rw [List.filter_append]
  by_cases hr : t.name = "required"
  · simp [hr]
  · by_cases ho : t.name = "optional"
    · simp [ho]
    · simp [hr, ho]

theorem checksOf_snoc (type : BaseType) (ts : List Token) (t : Token) :
    checksOf type (ts ++ [t]) =
      match checkOf? type t with
      | some c => Validator.addCheck (checksOf type ts) c
      | none => checksOf type ts := by
  unfold checksOf
  rw [List.filterMap_append]
  cases h : checkOf? type t with
  | none => simp [h]
  | some c => simp [h, standing_snoc]

/-! ## From the meaning of a token to what is read off it -/

theorem argument?_of_value {t : Token} {v : Option Value} (h : t.value = .ok v) :
    argument? t = v := by
  unfold argument?
  rw [h]
  rfl

/-- The value `w` of the argument of `t` is read from the text of that argument. -/
theorem read_of_argument? {t : Token} {w : Value} (h : argument? t = some w) :
    ∃ raw, t.argument = some raw ∧ Argument.read raw (some t.name) = .ok w := by
  unfold argument? Token.value at h
  cases hargument : t.argument with
  | none => simp [hargument, Except.toOption] at h
  | some raw =>
    refine ⟨raw, rfl, ?_⟩
    cases hread : Argument.read raw (some t.name) with
    | error e => simp [hargument, hread, Except.toOption] at h
    | ok w' => simpa [hargument, hread, Except.toOption] using h

/-- A value `x` given under `name` is the value of an argument of a token of that name. -/
theorem read_of_mem_given {name : String} {ts : List Token} {x : Value} (h : x ∈ given name ts) :
    ∃ raw, ⟨name, some raw⟩ ∈ ts ∧ Argument.read raw (some name) = .ok x := by
  obtain ⟨⟨name', argument⟩, hmem, ht⟩ := List.mem_filterMap.1 h
  rw [Option.ite_none_right_eq_some] at ht
  obtain ⟨rfl, hvalue⟩ := ht
  obtain ⟨raw, rfl, hread⟩ := read_of_argument? hvalue
  exact ⟨raw, hmem, hread⟩

/-- The names of the rules that are no checks. -/
def switchNames : List String :=
  ["required", "optional", "forbidden", "valid", "allow", "invalid", "trim", "truthy", "falsy",
    "sensitive"]

/-- What the token `t` says when it asks for a rule: the name, and the argument where it matters. -/
def Says (t : Token) : Rule → Prop
  | .required => t.name = "required"
  | .optional => t.name = "optional"
  | .forbidden => t.name = "forbidden"
  | .valid v => t.name = "valid" ∧ argument? t = some v
  | .allow v => t.name = "allow" ∧ (argument? t).getD (.text "") = v
  | .invalid v => t.name = "invalid" ∧ argument? t = some v
  | .trim => t.name = "trim"
  | .truthy v => t.name = "truthy" ∧ argument? t = some v
  | .falsy v => t.name = "falsy" ∧ argument? t = some v
  | .sensitive => t.name = "sensitive"
  | .check _ => t.name ∉ switchNames

theorem says_of_means {type : BaseType} {t : Token} {r : Rule} (h : Token.Means type t r) :
    Says t r := by
  cases h with
  | made hval hm =>
    have harg := argument?_of_value hval
    generalize hname : t.name = name at hm
    cases hm with
    | form f =>
      show t.name ∉ switchNames
      rw [hname]
      cases f <;> simp [switchNames, TextForm.name]
    | compare c _ =>
      show t.name ∉ switchNames
      rw [hname]
      cases c <;> simp [switchNames, Comparison.name]
    | pattern hn =>
      show t.name ∉ switchNames
      rw [hname]
      rcases hn with rfl | rfl <;> simp [switchNames]
    | patternText hn _ =>
      show t.name ∉ switchNames
      rw [hname]
      rcases hn with rfl | rfl <;> simp [switchNames]
    | _ => simp [Says, Rule.ofText, Rule.ofNumber, switchNames, hname, harg]
  | _ => simp [Says, switchNames]

/-- The check that a rule puts on, if it puts on one. -/
def checkIn? : Rule → Option Check
  | .check c => some c
  | _ => none

/-- No rule of the tables, that is none that is `Made`, is a check on the text form of a value. -/
theorem valueCheckOf?_of_made {type : BaseType} {name : String} {a : Option Value} {r : Rule}
    (h : Rule.Made type name a r) (argument : Option String) :
    valueCheckOf? name argument = none := by
  cases h with
  | pattern hname => rcases hname with rfl | rfl <;> rfl
  | patternText hname _ => rcases hname with rfl | rfl <;> rfl
  | form f => cases f <;> rfl
  | compare c _ => cases c <;> rfl
  | _ => rfl

/-- The check read off the token `t` is the one that its rule `r` puts on. -/
theorem checkOf?_of_means {type : BaseType} {t : Token} {r : Rule} (h : Token.Means type t r) :
    checkOf? type t = checkIn? r := by
  cases h with
  | made hval hm =>
    unfold checkOf?
    rw [valueCheckOf?_of_made hm, argument?_of_value hval]
    generalize t.name = name at hm
    cases hm with
    | required => cases type <;> rfl
    | optional => cases type <;> rfl
    | forbidden => cases type <;> rfl
    | valid => cases type <;> rfl
    | allow => cases type <;> rfl
    | allowEmpty => cases type <;> rfl
    | invalid => cases type <;> rfl
    | pattern hname => rcases hname with rfl | rfl <;> rfl
    | patternText hname hp =>
      have hread := congrArg (fun p => (p.toOption.map TextCheck.pattern).map Check.text) hp
      rcases hname with rfl | rfl <;> exact hread
    | form f => cases f <;> rfl
    | compare c hq =>
      -- the check is made of the number that the argument is
      have hread := congrArg (fun q => (q.map (NumberCheck.compare c)).map Check.number) hq
      cases c <;> exact hread
    | multiple hq =>
      have hread := congrArg (fun q => (q.map NumberCheck.multiple).map Check.number) hq
      exact hread
    | _ => rfl
  | _ => rfl

/-! ## The first that stops -/

/-- The first of a list at which something `stops` is its head, or the head `passes` and it is the
    first of the rest. -/
theorem exists_first_cons_iff {α : Type} {passes stops : α → Prop} {a : α} {as : List α} :
    (∃ before b behind, a :: as = before ++ b :: behind ∧ (∀ c ∈ before, passes c) ∧ stops b) ↔
      stops a ∨
        passes a ∧ ∃ before b behind, as = before ++ b :: behind ∧
          (∀ c ∈ before, passes c) ∧ stops b := by
  constructor
  · rintro ⟨before, b, behind, hsplit, hbefore, hb⟩
    cases before with
    | nil =>
      obtain ⟨rfl, rfl⟩ := List.cons.inj hsplit
      exact .inl hb
    | cons c before =>
      obtain ⟨rfl, rfl⟩ := List.cons.inj hsplit
      obtain ⟨hc, hrest⟩ := List.forall_mem_cons.1 hbefore
      exact .inr ⟨hc, before, b, behind, rfl, hrest, hb⟩
  · rintro (ha | ⟨ha, before, b, behind, rfl, hbefore, hb⟩)
    · exact ⟨[], a, as, rfl, by simp, ha⟩
    · exact ⟨a :: before, b, behind, rfl, List.forall_mem_cons.2 ⟨ha, hbefore⟩, hb⟩

/-! ## A validator holds what the tokens say -/

/-- The state of the validator `v` is what is read off the tokens `ts`, field by field. -/
structure Gathered (type : BaseType) (ts : List Token) (v : Validator) : Prop where
  type_eq : v.type = type
  required_eq : v.required = demanded ts
  forbidden_eq : v.forbidden = mentions "forbidden" ts
  allowed_eq : v.allowed = admitted ts
  valid_eq : v.valid = given "valid" ts
  invalid_eq : v.invalid = given "invalid" ts
  checks_eq : v.checks = checksOf type ts
  trim_eq : v.trim = mentions "trim" ts
  truthy_eq : v.truthy = [.bool true, .text "true"] ++ given "truthy" ts
  falsy_eq : v.falsy = [.bool false, .text "false"] ++ given "falsy" ts
  sensitive_eq : v.sensitive = mentions "sensitive" ts

/-- The `empty` validator holds what no tokens say. -/
theorem gathered_empty (type : BaseType) : Gathered type [] (Validator.empty type) where
  type_eq := rfl
  required_eq := rfl
  forbidden_eq := rfl
  allowed_eq := rfl
  valid_eq := rfl
  invalid_eq := rfl
  checks_eq := rfl
  trim_eq := rfl
  truthy_eq := rfl
  falsy_eq := rfl
  sensitive_eq := rfl

/-- **The step.** A rule `r` more in the validator is the token `t` that means it more in the
    list. -/
theorem Gathered.add {type : BaseType} {ts : List Token} {v : Validator} {t : Token} {r : Rule}
    (hv : Gathered type ts v) (h : Token.Means type t r) :
    Gathered type (ts ++ [t]) (v.add r) := by
  have hsays := says_of_means h
  have hcheck := checkOf?_of_means h
  cases r with
  | check c =>
    -- a token that asks for a check has none of the names that are read off
    have hname : ∀ n ∈ switchNames, t.name ≠ n := fun n hn he => hsays (he ▸ hn)
    simp only [switchNames, List.mem_cons, forall_eq_or_imp, List.not_mem_nil, false_implies,
      implies_true] at hname
    constructor <;>
      simp [Validator.add, mentions_snoc, given_snoc, admitted_snoc, demanded_snoc, checksOf_snoc,
        hcheck, checkIn?, hname, hv.type_eq, hv.required_eq, hv.forbidden_eq, hv.allowed_eq,
        hv.valid_eq, hv.invalid_eq, hv.checks_eq, hv.trim_eq, hv.truthy_eq, hv.falsy_eq,
        hv.sensitive_eq]
  | _ =>
    simp only [Says] at hsays
    constructor <;>
      simp [Validator.add, mentions_snoc, given_snoc, admitted_snoc, demanded_snoc, checksOf_snoc,
        hcheck, checkIn?, hsays, hv.type_eq, hv.required_eq, hv.forbidden_eq, hv.allowed_eq,
        hv.valid_eq, hv.invalid_eq, hv.checks_eq, hv.trim_eq, hv.truthy_eq, hv.falsy_eq,
        hv.sensitive_eq]

/-- The rules `rs` of the tokens `ts` are made one by one, each as its token means. -/
theorem rulesOf_eq_ok_iff {type : BaseType} {ts : List Token} {rs : List Rule} :
    Validator.rulesOf type ts = .ok rs ↔ List.Forall₂ (Token.Means type) ts rs := by
  induction ts generalizing rs with
  | nil => simp [Validator.rulesOf]
  | cons t ts ih =>
    unfold Validator.rulesOf
    cases hr : t.rule type with
    | error e =>
      constructor
      · intro h
        simp at h
      · intro h
        cases h with
        | cons ht _ => simp [Token.rule_eq_ok_iff.2 ht] at hr
    | ok r =>
      cases hrs : Validator.rulesOf type ts with
      | error e =>
        constructor
        · intro h
          simp at h
        · intro h
          cases h with
          | cons _ hts => simp [ih.2 hts] at hrs
      | ok rest =>
        constructor
        · intro h
          obtain rfl : r :: rest = rs := by simpa using h
          exact .cons (Token.rule_eq_ok_iff.1 hr) (ih.1 hrs)
        · intro h
          cases h with
          | cons ht hts =>
            have h₁ := hr.symm.trans (Token.rule_eq_ok_iff.2 ht)
            have h₂ := hrs.symm.trans (ih.2 hts)
            simp_all

/-- **The run.** The validator of the rules of any tokens `ts` holds what they say. -/
theorem gathered_of_rulesOf {type : BaseType} {ts : List Token} {rs : List Rule}
    (h : Validator.rulesOf type ts = .ok rs) : Gathered type ts (Validator.ofRules type rs) := by
  -- the invariant speaks of the tokens read so far, so the induction is on the tokens to come
  have run : ∀ (done todo : List Token) (rest : List Rule) (v : Validator),
      Gathered type done v → List.Forall₂ (Token.Means type) todo rest →
      Gathered type (done ++ todo) (rest.foldl Validator.add v) := by
    intro done todo
    induction todo generalizing done with
    | nil =>
      intro rest v hv hm
      cases hm
      simpa using hv
    | cons t todo ih =>
      intro rest v hv hm
      cases hm with
      | cons ht hts =>
        have hstep := ih (done ++ [t]) _ _ (hv.add ht) hts
        rwa [List.append_assoc] at hstep
  exact run [] ts rs _ (gathered_empty type) (rulesOf_eq_ok_iff.1 h)

/-- What `rules` and `name` must be for `build` to give a validator, and which one it gives: the
    type is in the `table`, the tokens `ts` are read, and each of them makes a rule. -/
theorem build_eq_ok_iff {table : TypeTable} {rules : Option String} {name : String}
    {v : Validator} :
    Validator.build table rules name = .ok v ↔
      ∃ type ts rs, table.find? name = some type ∧ Token.parse rules = .ok ts ∧
        Validator.rulesOf type ts = .ok rs ∧ v = Validator.ofRules type rs := by
  unfold Validator.build
  cases hname : table.find? name with
  | none => simp
  | some type =>
    cases hparse : Token.parse rules with
    | error e => simp
    | ok ts =>
      cases hrs : Validator.rulesOf type ts with
      | error e => simp [hrs]
      | ok rs => simp [hrs, @eq_comm _ v]

/-- The validator of a text whose `type` and tokens `ts` are known is that of the rules they
    make. -/
theorem rulesOf_of_build {table : TypeTable} {type : BaseType} {rules : Option String}
    {name : String} {ts : List Token} {v : Validator} (htype : table.find? name = some type)
    (hparse : Token.parse rules = .ok ts) (hbuild : Validator.build table rules name = .ok v) :
    ∃ rs, Validator.rulesOf type ts = .ok rs ∧ v = Validator.ofRules type rs := by
  obtain ⟨type', ts', rs, htype', hparse', hrs, hv⟩ := build_eq_ok_iff.1 hbuild
  obtain rfl : type = type' := Option.some.inj (htype.symm.trans htype')
  obtain rfl : ts = ts' := Except.ok.inj (hparse.symm.trans hparse')
  exact ⟨rs, hrs, hv⟩

/-- What `f` does with the validator of `rules`, it does with the one that `build` gives. -/
theorem exists_build_of_bind {α : Type} {table : TypeTable} {rules : Option String} {name : String}
    {f : Validator → Except Fault α} {a : α}
    (h : (Validator.build table rules name).bind f = .ok a) :
    ∃ v, Validator.build table rules name = .ok v ∧ f v = .ok a := by
  cases hbuild : Validator.build table rules name with
  | error e =>
    rw [hbuild] at h
    cases h
  | ok v =>
    rw [hbuild] at h
    exact ⟨v, rfl, h⟩

end Tokens

end Rulebook
