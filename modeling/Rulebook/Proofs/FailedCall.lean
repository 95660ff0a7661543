/-
  Calls that fail.

  Whoever keeps a validator and puts rules onto it by and by may go on with it after a call has
  failed.  A call changes the validator as it goes along and takes nothing back, and there is much
  that can stop it:

      call                          stopped by
      minimum 3                     no rule of that name for the type
      trim true, ip "4"             an argument too much
      min                           no argument
      min 2.5, valid [1]            an argument of another kind
      min [10^4300]                 the same, in a message that cannot be written
      min -1, multiple 0            a number out of range
      pattern "["                   a text that is no pattern
      custom_list ""                a list without members

  Nothing is lost by any of these: the validator is what it was before the call.

  1. `decided`: a rule decided on first and put on at the end, which is what every call comes to;
  2. `Method.Enacts`: a method comes to what a row of the tables decides, one lemma for each family;
  3. `methods_enact`: the methods of a type and its rows, one by one;
  4. `putRule_run`, `putCustom_eq`: the method of a name;
  5. `perform_run`, `behindAll_eq_applyAll`: one call, and any calls one after the other;
  6. `exists_calls_of_build`: what a rule text makes is behind calls as well;
  7. `failed_call_leaves_validator`: a call that fails after any others.

  The crux is 2.  A method that counts once takes out the earlier check of its name before it puts
  its own in, so it must not be stopped between the two, and all that can stop it must come before.
-/
import Rulebook.Proofs.CheckNames
import Rulebook.Validator.InPlace

namespace Rulebook

open Rulebook.Text Rulebook.Number Tokens

/-! ## First the decision, then the change -/

/-- Puts on the rule that `decision` has decided on; without one it fails and changes nothing. -/
def decided (decision : Except Fault Rule) : InPlace Unit := fun v =>
  match decision with
  | .ok r => .ok () (v.add r)
  | .error e => .error e v

section

variable {decision : Except Fault Rule} {v left : Validator} {e : Fault}

theorem decided_eq_error_iff :
    (decided decision).run v = .error e left ↔ decision = .error e ∧ left = v := by
  cases decision with
  | error reason => simp [decided, EStateM.run, eq_comm]
  | ok r => simp [decided, EStateM.run]

theorem decided_eq_ok_iff :
    (decided decision).run v = .ok () left ↔ ∃ r, decision = .ok r ∧ left = v.add r := by
  cases decision with
  | error reason => simp [decided, EStateM.run]
  | ok r => simp [decided, EStateM.run, eq_comm]

end

/-- A check that `putCheck` puts on in two steps is one more rule. -/
theorem putCheck_eq (c : Check) : putCheck c = decided (.ok (.check c)) := by
  funext v
  show putCheck c v = .ok () { v with checks := Validator.addCheck v.checks c }
  unfold putCheck Validator.addCheck
  cases c.accumulates <;> rfl

/-- A check that is put on behind a question `p` is `decided` by the question. -/
theorem guarded_putCheck_eq (p : Prop) [Decidable p] (e : Fault) (c : Check) :
    (do
      if p then throw e
      putCheck c) = decided (if p then .error e else .ok (.check c)) := by
  rw [putCheck_eq]
  by_cases hp : p
  · simp only [if_pos hp]
    rfl
  · simp only [if_neg hp]

namespace Method

/-! ## Methods and rows -/

/-- The method `m` has the name and the signature of `row`, and does what `row.make` has
    `decided`. -/
structure Enacts (m : Method) (row : Rule.Row) : Prop where
  name : m.name = row.name
  signature : m.signature = row.signature
  run (a : Option Value) : m.run a = decided (row.make a)

theorem plain_enacts {name : String} {change : InPlace Unit} {rule : Rule}
    (h : change = decided (.ok rule)) : (plain name change).Enacts (Rule.plain name rule) :=
  ⟨rfl, rfl, fun _ => h⟩

theorem withForm_enacts (f : TextForm) : (withForm f).Enacts (Rule.withForm f) :=
  plain_enacts (putCheck_eq _)

theorem withValue_enacts {name : String} {kinds : List ArgumentKind} {change : Value → InPlace Unit}
    {rule : Value → Rule} (h : ∀ x, change x = decided (.ok (rule x))) :
    (withValue name kinds change).Enacts (Rule.withValue name kinds rule) :=
  ⟨rfl, rfl, fun _ => h _⟩

theorem allow_enacts : allow.Enacts Rule.allowRow := ⟨rfl, rfl, fun _ => rfl⟩

/-- The method of a limit enacts the row of a limit: the limit is looked at before the check of the
    same name goes. -/
theorem withLimit_enacts (name : String) (check : Int → Check) :
    (withLimit name check).Enacts (Rule.withLimit name fun n => .check (check n)) where
  name := rfl
  signature := rfl
  run a := by
    cases a with
    | none => rfl
    | some x =>
      cases x with
      | int n => exact guarded_putCheck_eq (n < 0) _ _
      | _ => rfl

theorem withNumber_enacts {name : String} {change : Quantity → InPlace Unit}
    {make : Quantity → Except Fault Rule} (h : ∀ q, change q = decided (make q)) :
    (withNumber name change).Enacts (Rule.withNumber name make) where
  name := rfl
  signature := rfl
  run a := by
    dsimp only [withNumber, Rule.withNumber]
    cases a.bind Check.quantity? with
    | none => rfl
    | some q => exact h q

theorem withComparison_enacts (c : Comparison) :
    (withComparison c).Enacts (Rule.withComparison c) :=
  withNumber_enacts fun _ => putCheck_eq _

/-- The method of a pattern enacts its row: the text is compiled before there is a check. -/
theorem withPattern_enacts (name : String) : (withPattern name).Enacts (Rule.withPattern name) where
  name := rfl
  signature := rfl
  run a := by
    dsimp only [withPattern, Rule.withPattern]
    simp only [putCheck_eq]
    cases a with
    | none => rfl
    | some x =>
      cases x with
      | text body =>
        dsimp only
        cases Pattern.compile body <;> rfl
      | _ => rfl

theorem multiple_enacts :
    multiple.Enacts (Rule.withNumber "multiple" fun q =>
      if q.le (.whole 0) then .error (.refuse (some "multiple") .baseNotPositive)
      else .ok (Rule.ofNumber (.multiple q))) :=
  withNumber_enacts fun q => guarded_putCheck_eq (q.le (.whole 0) = true) _ _

/-! ## The methods of a type -/

theorem shared_enact : List.Forall₂ Enacts shared Rule.sharedRows :=
  .cons (plain_enacts rfl) <|
  .cons (plain_enacts rfl) <|
  .cons (plain_enacts rfl) <|
  .cons (withValue_enacts fun _ => rfl) <|
  .cons allow_enacts <|
  .cons (withValue_enacts fun _ => rfl) .nil

theorem ofTexts_enact : List.Forall₂ Enacts ofTexts Rule.textRows :=
  .cons (withLimit_enacts ..) <|
  .cons (withLimit_enacts ..) <|
  .cons (withLimit_enacts ..) <|
  .cons (withPattern_enacts _) <|
  .cons (withPattern_enacts _) <|
  .cons (withForm_enacts _) <|
  .cons (withForm_enacts _) <|
  .cons (withForm_enacts _) <|
  .cons (withForm_enacts _) <|
  .cons (withForm_enacts _) <|
  .cons (withForm_enacts _) <|
  .cons (withForm_enacts _) <|
  .cons (withForm_enacts _) <|
  .cons (plain_enacts rfl) .nil

theorem ofNumbers_enact : List.Forall₂ Enacts ofNumbers Rule.numberRows :=
  .cons (withComparison_enacts _) <|
  .cons (withComparison_enacts _) <|
  .cons (withComparison_enacts _) <|
  .cons (withComparison_enacts _) <|
  .cons (plain_enacts (putCheck_eq _)) <|
  .cons (plain_enacts (putCheck_eq _)) <|
  .cons (plain_enacts (putCheck_eq _)) <|
  .cons multiple_enacts <|
  .cons (withLimit_enacts ..) <|
  .cons (plain_enacts (putCheck_eq _)) .nil

theorem ofFlags_enact : List.Forall₂ Enacts ofFlags Rule.flagRows :=
  .cons (withValue_enacts fun _ => rfl) <|
  .cons (withValue_enacts fun _ => rfl) <|
  .cons (plain_enacts rfl) .nil

end Method

/-- **The methods of a type** enact its rows, one by one. -/
theorem methods_enact (type : BaseType) :
    List.Forall₂ Method.Enacts (methods type) (Rule.rows type) := by
  cases type with
  | text => exact List.rel_append Method.shared_enact Method.ofTexts_enact
  | number => exact List.rel_append Method.shared_enact Method.ofNumbers_enact
  | flag => exact List.rel_append Method.shared_enact Method.ofFlags_enact
  | any => exact Method.shared_enact

/-! ## By name and argument -/

/-- Lists in step, `ms` and `rows`, are searched for a name in step. -/
theorem find?_enacts {ms : List Method} {rows : List Rule.Row}
    (h : List.Forall₂ Method.Enacts ms rows) (name : String) :
    Option.Rel Method.Enacts (ms.find? (·.name == name)) (rows.find? (·.name == name)) := by
  induction h with
  | nil => exact .none
  | @cons m row ms rows hfirst _ ih =>
    rw [List.find?_cons, List.find?_cons, hfirst.name]
    cases row.name == name with
    | true => exact .some hfirst
    | false => exact ih

/-- A method that `Enacts` a row does with an argument `a` what the row has `decided`: both ask for
    the argument before anything is done. -/
theorem Method.Enacts.call_eq {m : Method} {row : Rule.Row} (h : m.Enacts row)
    (a : Option Value) : m.call a = decided (row.apply a) := by
  unfold Method.call Rule.Row.apply
  rw [h.name, h.signature]
  simp only [h.run]
  cases row.signature with
  | nothing => cases a <;> rfl
  | required kinds | optional kinds =>
    cases a with
    | none => rfl
    | some x =>
      dsimp only
      split <;> rfl

/-- What `putRule` does is `decided` by `Rule.make` for the type of the validator. -/
theorem putRule_run (name : String) (a : Option Value) (v : Validator) :
    (putRule name a).run v = (decided (Rule.make v.type name a)).run v := by
  have hfound := find?_enacts (methods_enact v.type) name
  simp only [putRule, Rule.make, EStateM.run_bind, EStateM.run_get]
  generalize (methods v.type).find? _ = m, (Rule.rows v.type).find? _ = row at hfound ⊢
  cases hfound with
  | none => rfl
  | some henacts => exact congrFun (henacts.call_eq a) v

theorem putMembers_eq (a : Option String) : putMembers a = decided (Rule.makeMembers a) := by
  cases a with
  | none => rfl
  | some raw => exact guarded_putCheck_eq (raw.isEmpty = true) _ _

theorem putAddress_eq (version : Option Nat) (a : Option String) :
    putAddress version a = decided (Rule.makeAddress version a) := by
  refine (guarded_putCheck_eq (a.isSome = true) _ _).trans ?_
  cases a <;> rfl

/-- What `putCustom` does is `decided` by `Rule.makeCustom?`, the same for every type. -/
theorem putCustom_eq (name : String) (a : Option String) :
    putCustom name a =
      decided ((Rule.makeCustom? name a).getD (.error (.unknownField name))) := by
  unfold putCustom Rule.makeCustom?
  simp only [putMembers_eq, putAddress_eq]
  -- the four names in the order in which they are tried, and any other
  repeat' split
  all_goals rfl

/-! ## One call, and any calls -/

/-- Makes a call on a validator. -/
def Call.perform : Call → InPlace Unit
  | rule name argument => putRule name argument
  | custom name argument => putCustom name argument

namespace Validator

/-- The validator behind a call that is performed on `v`, as the call leaves it: at its end, or
    where it fails. -/
def behind (v : Validator) (call : Call) : Validator :=
  match call.perform.run v with
  | .ok _ left => left
  | .error _ left => left

/-- The validator `behind` calls, whichever of them fail. -/
def behindAll (v : Validator) (calls : List Call) : Validator := calls.foldl behind v

end Validator

/-- **One call.** `perform` does what `Call.make` decides for the type of `v`: it puts the rule on,
    or fails and changes nothing. -/
theorem perform_run (call : Call) (v : Validator) :
    call.perform.run v = (decided (call.make v.type)).run v := by
  cases call with
  | rule name argument => exact putRule_run name argument v
  | custom name argument => exact congrFun (putCustom_eq name argument) v

theorem behind_eq_applyCall (v : Validator) (call : Call) : v.behind call = v.applyCall call := by
  unfold Validator.behind Validator.applyCall Call.made?
  rw [perform_run]
  cases call.make v.type <;> rfl

/-- **Any calls**: `behindAll` leaves the validator onto which `applyAll` puts the rules of those
    that succeed. -/
theorem behindAll_eq_applyAll (v : Validator) (calls : List Call) :
    v.behindAll calls = v.applyAll calls := by
  unfold Validator.behindAll Validator.applyAll
  congr
  funext v call
  exact behind_eq_applyCall v call

/-- No call changes the type of a validator. -/
theorem type_behindAll (v : Validator) (calls : List Call) : (v.behindAll calls).type = v.type := by
  rw [behindAll_eq_applyAll, applyAll_eq]
  generalize calls.filterMap _ = rs
  induction rs generalizing v with
  | nil => rfl
  | cons r rs ih => exact (ih (v.add r)).trans type_add

/-- The rule `r` that a token `t` means is one that a call makes. -/
theorem exists_call_of_means {type : BaseType} {t : Token} {r : Rule}
    (h : Token.Means type t r) : ∃ call : Call, call.made? type = some r := by
  cases h with
  | @members raw hraw =>
    refine ⟨.custom "custom_list" (some raw), ?_⟩
    simp [Call.made?, Call.make, Rule.makeCustom?, Rule.makeMembers, hraw, Except.toOption]
  | four => exact ⟨.custom "ipv4" none, rfl⟩
  | six => exact ⟨.custom "ipv6" none, rfl⟩
  | either => exact ⟨.custom "ip" none, rfl⟩
  | @made _ a _ _ hmade =>
    have hmake : (Call.rule t.name a).make type = .ok r := Rule.make_eq_ok_iff.2 hmade
    exact ⟨.rule t.name a, by rw [Call.made?, hmake]; rfl⟩

theorem exists_calls_of_means {type : BaseType} {ts : List Token} {rs : List Rule}
    (h : List.Forall₂ (Token.Means type) ts rs) :
    ∃ calls : List Call, calls.filterMap (·.made? type) = rs := by
  induction h with
  | nil => exact ⟨[], rfl⟩
  | cons hmeans _ ih =>
    obtain ⟨call, hcall⟩ := exists_call_of_means hmeans
    obtain ⟨calls, rfl⟩ := ih
    exact ⟨call :: calls, List.filterMap_cons_some hcall⟩

/-- **The validator of a rule text** is one that `behindAll` leaves, from the empty validator of
    its type. -/
theorem exists_calls_of_build {table : TypeTable} {rules : Option String} {name : String}
    {v : Validator} (h : Validator.build table rules name = .ok v) :
    ∃ type calls, v = (Validator.empty type).behindAll calls := by
  obtain ⟨type, ts, rs, -, -, hrs, rfl⟩ := build_eq_ok_iff.1 h
  obtain ⟨calls, rfl⟩ := exists_calls_of_means (rulesOf_eq_ok_iff.1 hrs)
  exact ⟨type, calls, by rw [behindAll_eq_applyAll, applyAll_eq]; rfl⟩

/-- **A call that fails leaves the validator as it was**: `v` is the empty validator of `type`
    behind any calls `before`, and `left` is what is there when `call` has stopped.  So all that
    comes later, the calls `after` and judgements, comes out as if `call` had not been made.  A
    call fails exactly if it makes no rule; the rule it makes, it puts on.  The validators that
    `build` makes of rule texts are all such a `v`. -/
theorem failed_call_leaves_validator (type : BaseType) (before : List Call) (call : Call) :
    let v := (Validator.empty type).behindAll before
    (∀ (e : Fault) (left : Validator), call.perform.run v = .error e left →
      left = v ∧ ∀ (after : List Call) (label : String) (value : Value),
        (left.behindAll after).judge label value = (v.behindAll after).judge label value) ∧
    (∀ left : Validator, call.perform.run v = .ok () left ↔
      ∃ r, call.make type = .ok r ∧ left = v.add r) ∧
    ∀ (table : TypeTable) (rules : Option String) (name : String) (built : Validator),
      Validator.build table rules name = .ok built →
        ∃ type before, built = (Validator.empty type).behindAll before := by
  intro v
  have htype : v.type = type := type_behindAll _ _
  rw [perform_run, htype]
  refine ⟨?_, ?_, ?_⟩
  · intro e left hfailed
    obtain ⟨-, hleft⟩ := decided_eq_error_iff.1 hfailed
    exact ⟨hleft, fun _ _ _ => by rw [hleft]⟩
  · exact fun _ => decided_eq_ok_iff
  · exact fun _ _ _ _ hbuilt => exists_calls_of_build hbuilt

/-- A limit that is refused does not take the earlier one away; and calls of this kind make what
    `build` makes of a rule text. -/
theorem refused_limit_keeps_earlier :
    let v := (Validator.empty .text).behindAll
      [.rule "min" (some (.int 3)), .rule "min" none, .rule "trim" none, .custom "ip" none]
    (∃ left, (Call.rule "min" (some (.int (-1)))).perform.run v =
        .error (.refuse (some "min") .negativeLimit) left ∧
      left = v ∧ left.checkNames = ["min", "ip"] ∧
      ∀ label value, left.judge label value = v.judge label value) ∧
    ∃ built type before,
      Validator.build .standard (some "min:3||trim||ip") "string" = .ok built ∧
      built = (Validator.empty type).behindAll before := by
  intro v
  have hfails : (Call.rule "min" (some (.int (-1)))).perform.run v =
      .error (.refuse (some "min") .negativeLimit) v := rfl
  obtain ⟨hkeeps, -, hreached⟩ := failed_call_leaves_validator .text
    [.rule "min" (some (.int 3)), .rule "min" none, .rule "trim" none, .custom "ip" none]
    (.rule "min" (some (.int (-1))))
  obtain ⟨hleft, hlater⟩ := hkeeps _ _ hfails
  have hbuilt : Validator.build .standard (some "min:3||trim||ip") "string" = .ok v := by rfl
  obtain ⟨type, before, hbefore⟩ := hreached _ _ _ _ hbuilt
  exact ⟨⟨v, hfails, hleft, rfl, hlater []⟩, v, type, before, hbuilt, hbefore⟩

end Rulebook
