/-
  The names of the checks after any calls.

  A validator is built up by calls, each with the name of a rule and an argument as it is.  A call
  that fails is passed over; one that succeeds may put a check at the end, and where a check of its
  name counts once, the earlier one goes:

      call                    its check      the names behind it
      min 3                   min            min
      regex "a"               pattern        min, pattern
      trim                                   min, pattern
      min "x"                 (fails)        min, pattern
      max 9                   max            min, pattern, max
      min 5                   min            pattern, max, min
      pattern "b"             pattern        pattern, max, min, pattern

  1. `Call`, `applyAll`: calls, and the validator behind them;
  2. `repeatable`, `lastOnes`: names of which all count, and the names that are left when of all
     others the last one counts;
  3. `Call.checkName?`, `name_of_made`, `name_of_custom`: the name of the check of a call;
  4. `checks_ofRules`, `names_standing`: the checks that are left, and their names;
  5. `checkNames_applyAll`: any calls on a type without rules.

  The crux is 3.  What replaces what goes by the name of the check, and a call goes by the name of
  its rule; the two are the same, except for `regex`, and patterns do not replace one another.
-/
import Mathlib.Data.List.Induction
import Rulebook.Proofs.RuleOrder

namespace Rulebook

open Rulebook.Text Rulebook.Number Tokens

/-! ## Calls -/

/-- A call that puts a rule onto a validator: `rule`, one of its type, with the value of an
    argument, or `custom`, one of the four that every type has, with the text of one. -/
inductive Call
  | rule (name : String) (argument : Option Value)
  | custom (name : String) (argument : Option String)

namespace Call

/-- The name of the rule that is called for. -/
def name : Call → String
  | rule name _ => name
  | custom name _ => name

/-- The rule that a call makes for a type, or the fault for which there is none. -/
def make (type : BaseType) : Call → Except Fault Rule
  | rule name argument => Rule.make type name argument
  | custom name argument => (Rule.makeCustom? name argument).getD (.error (.unknownField name))

/-- The rule of a call if `make` succeeds. -/
def made? (type : BaseType) (call : Call) : Option Rule := (call.make type).toOption

end Call

namespace Validator

/-- The validator behind a call: with the rule of `made?` put on, or as it was. -/
def applyCall (v : Validator) (call : Call) : Validator :=
  match call.made? v.type with
  | some r => v.add r
  | none => v

/-- The validator behind calls, one `applyCall` after the other. -/
def applyAll (v : Validator) (calls : List Call) : Validator := calls.foldl applyCall v

end Validator

/-! ## Names -/

/-- The names of checks that stand beside one another. -/
def repeatable : List String := ["pattern", "custom_list", "ipv4", "ipv6", "ip"]

/-- The names that are left when of each that is not `repeatable` all but the last one go. -/
def lastOnes : List String → List String
  | [] => []
  | n :: ns => if n ∉ repeatable ∧ n ∈ ns then lastOnes ns else n :: lastOnes ns

/-- The name of the check of a call: none if the call fails or its rule is one of the
    `switchNames`; both names of patterns stand for the same check, and all others for a check of
    that name. -/
def Call.checkName? (type : BaseType) (call : Call) : Option String :=
  match call.made? type with
  | none => none
  | some _ =>
    if call.name ∈ switchNames then none else some (checkName call.name)

variable {type : BaseType} {v : Validator} {r : Rule} {rs : List Rule} {call : Call}
  {calls : List Call} {name : String} {names : List String}

/-! ## What is left of names -/

theorem sublist_lastOnes (names : List String) : (lastOnes names).Sublist names := by
  induction names with
  | nil => exact .slnil
  | cons n ns ih =>
    rw [lastOnes]
    split
    · exact ih.cons n
    · exact ih.cons_cons n

/-- A name that is not `repeatable` is there once in `lastOnes`, if at all. -/
theorem count_lastOnes_of_not_repeatable (hname : name ∉ repeatable) :
    (lastOnes names).count name = if name ∈ names then 1 else 0 := by
  induction names with
  | nil => rfl
  | cons n ns ih =>
    rw [lastOnes]
    by_cases hn : n = name
    · obtain rfl := hn
      by_cases hlater : n ∈ ns
      · rw [if_pos ⟨hname, hlater⟩, ih, if_pos hlater, if_pos List.mem_cons_self]
      · rw [if_neg fun h => hlater h.2, List.count_cons_self, ih, if_neg hlater,
          if_pos List.mem_cons_self]
    · have hmem : name ∈ n :: ns ↔ name ∈ ns := by
        rw [List.mem_cons]
        exact or_iff_right fun h => hn h.symm
      simp only [hmem, ← ih]
      split
      · rfl
      · exact List.count_cons_of_ne hn

/-- A `repeatable` name is there in `lastOnes` as often as it was. -/
theorem count_lastOnes_of_repeatable (hname : name ∈ repeatable) :
    (lastOnes names).count name = names.count name := by
  induction names with
  | nil => rfl
  | cons n ns ih =>
    rw [lastOnes]
    split
    · rename_i hgone
      have hn : n ≠ name := fun h => hgone.1 (h ▸ hname)
      rw [ih, List.count_cons_of_ne hn]
    · rw [List.count_cons, List.count_cons, ih]

/-! ## The name of a check -/

/-- The name of the check that a rule is, by `checkIn?`. -/
def Rule.checkName? (r : Rule) : Option String := (checkIn? r).map Check.name

/-- A rule `r` that the tables make for `name` is a check with the `checkName` of `name`, unless it
    is a switch. -/
theorem name_of_made {a : Option Value} (h : Rule.Made type name a r) :
    r.checkName? = if name ∈ switchNames then none else some (checkName name) := by
  cases h with
  | pattern hname => rcases hname with rfl | rfl <;> rfl
  | patternText hname _ => rcases hname with rfl | rfl <;> rfl
  | form f => cases f <;> rfl
  | compare c _ => cases c <;> rfl
  | _ => rfl

/-- So is one of the four that `Rule.makeCustom?` makes. -/
theorem name_of_custom {argument : Option String}
    (h : Rule.makeCustom? name argument = some (.ok r)) :
    r.checkName? = if name ∈ switchNames then none else some (checkName name) := by
  have hmeans : Token.Means .any ⟨name, argument⟩ r := Token.means_of_makeCustom? h
  cases hmeans with
  | members => rfl
  | four => rfl
  | six => rfl
  | either => rfl
  | made _ hmade => cases h.symm.trans (hmade.makeCustom?_eq_none argument)

/-- **The check of a call**, the one that `made?` makes, has the name that `Call.checkName?` gives
    it. -/
theorem checkName?_of_call (type : BaseType) (call : Call) :
    call.checkName? type = (call.made? type).bind Rule.checkName? := by
  have hname (r : Rule) (hr : call.make type = .ok r) :
      r.checkName? =
        if call.name ∈ switchNames then none else some (checkName call.name) := by
    cases call with
    | rule name argument => exact name_of_made (Rule.make_eq_ok_iff.1 hr)
    | custom name argument =>
      have hcustom : Rule.makeCustom? name argument = some (.ok r) := by
        simpa [Call.make, Option.getD_eq_iff] using hr
      exact name_of_custom hcustom
  unfold Call.checkName? Call.made?
  cases hr : call.make type with
  | error e => rfl
  | ok r => exact (hname r hr).symm

/-! ## Checks -/

/-- The checks of rules `rs`, put onto a type one after the other, are those that are `standing`. -/
theorem checks_ofRules (type : BaseType) (rs : List Rule) :
    (Validator.ofRules type rs).checks = standing (rs.filterMap checkIn?) := by
  -- the last rule is put onto what the others have made
  induction rs using List.reverseRecOn with
  | nil => rfl
  | append_singleton rs r ih =>
    rw [Validator.ofRules_append, List.filterMap_append]
    show ((Validator.ofRules type rs).add r).checks = _
    cases r with
    | check c =>
      show Validator.addCheck (Validator.ofRules type rs).checks c = _
      rw [ih]
      exact (standing_snoc _ c).symm
    | _ =>
      -- no other rule changes the checks
      rw [← List.append_nil (rs.filterMap checkIn?)] at ih
      exact ih

/-- The names of the checks that are `standing` are the `lastOnes` of the names. -/
theorem names_standing (cs : List Check) :
    (standing cs).map Check.name = lastOnes (cs.map Check.name) := by
  induction cs with
  | nil => rfl
  | cons c cs ih =>
    have hgone : (!c.accumulates && cs.any (·.name == c.name)) = true ↔
        c.name ∉ repeatable ∧ c.name ∈ cs.map Check.name := by
      simp [accumulates_eq, repeatable]
    rw [standing, List.map_cons, lastOnes]
    simp only [hgone]
    split
    · exact ih
    · rw [List.map_cons, ih]

/-! ## Any calls -/

theorem type_add : (v.add r).type = v.type := by
  cases r <;> rfl

/-- The rules that `applyAll` puts onto a validator are those of the calls that succeed, by
    `made?`. -/
theorem applyAll_eq (v : Validator) (calls : List Call) :
    v.applyAll calls = (calls.filterMap (·.made? v.type)).foldl Validator.add v := by
  induction calls generalizing v with
  | nil => rfl
  | cons call calls ih =>
    show (v.applyCall call).applyAll calls = _
    rw [ih, List.filterMap_cons]
    unfold Validator.applyCall
    cases call.made? v.type with
    | none => rfl
    | some r =>
      dsimp only
      rw [type_add]
      rfl

/-- **The names of the checks** after any `calls` on a `type` without rules are the `lastOnes` of
    `names`, the names of the checks that the calls make: all but the last one of each name that is
    not `repeatable` go.  So the order is that of the calls, a `repeatable` name is there as often
    as calls make it, and any other once if a call makes it. -/
theorem checkNames_applyAll (type : BaseType) (calls : List Call) :
    let names := calls.filterMap (·.checkName? type)
    let left := ((Validator.empty type).applyAll calls).checkNames
    left = lastOnes names ∧ left.Sublist names ∧
      (∀ name ∈ repeatable, left.count name = names.count name) ∧
      ∀ name ∉ repeatable, left.count name = if name ∈ names then 1 else 0 := by
  intro names left
  have hleft : left = lastOnes names := by
    have hnames : (calls.filterMap (·.made? type)).filterMap Rule.checkName? = names := by
      rw [List.filterMap_filterMap]
      exact List.filterMap_congr fun call _ => (checkName?_of_call type call).symm
    have happlied : (Validator.empty type).applyAll calls =
        Validator.ofRules type (calls.filterMap (·.made? type)) := applyAll_eq _ _
    show ((Validator.empty type).applyAll calls).checks.map Check.name = _
    rw [happlied, checks_ofRules, names_standing, ← hnames, List.map_filterMap]
    rfl
  rw [hleft]
  exact ⟨rfl, sublist_lastOnes names, fun name => count_lastOnes_of_repeatable,
    fun name => count_lastOnes_of_not_repeatable⟩

example :
    ((Validator.empty .text).applyAll
      [.rule "min" (some (.int 3)), .rule "regex" (some (.text "a")), .rule "trim" none,
        .rule "min" (some (.text "x")), .rule "max" (some (.int 9)), .rule "min" (some (.int 5)),
        .custom "ip" none, .rule "pattern" (some (.text "b"))]).checkNames =
      ["pattern", "max", "min", "ip", "pattern"] := by
  decide +kernel

end Rulebook
