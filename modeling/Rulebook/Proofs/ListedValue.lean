/-
  Fields for texts whose rule text is one listed value.

  The argument of a `valid` or an `invalid` is read before it is put on the list, and what it is
  read as is not always a text:

      argument    read as      `valid` accepts     `invalid` rejects
      abc         the text     abc                 abc
      007         a number     nothing             nothing
      true        a flag       nothing             nothing
      /a/         a pattern    no such rule        no such rule

  A field for texts converts a value to a text, and a text agrees with no value but itself.  So an
  argument that looks like a number or a flag makes a `valid` that nothing meets and an `invalid`
  that nothing breaks.  (The empty text is rejected before either list is looked at.)

  1. `Scalar`, `scalar_of_read`: what is put on a list, and that the rule's name does not matter
     for it;
  2. `build_listed`: the validator of a rule text that is one `valid` or one `invalid`;
  3. `judge_valid`, `judge_invalid`: what it says of every text;
  4. `listed_argument`: whole rule texts.
-/
import Rulebook.Proofs.ArgumentValue
import Rulebook.Proofs.RuleText
import Rulebook.Proofs.SingleCheck

namespace Rulebook

open Rulebook.Text Rulebook.Number

variable {raw label s names : String} {rule : Option String} {a : Value} {v : Validator}

/-! ## The argument -/

/-- What the text `raw` of an argument puts on a list: itself, a whole number or a flag. -/
inductive Scalar (raw : String) : Value → Prop
  | text : Scalar raw (.text raw)
  | int (n : Int) : Scalar raw (.int n)
  | flag (b : Bool) : Scalar raw (.bool b)

/-- What `Argument.read` gives is the same under every rule: the name `rule` is for the blame
    alone. -/
theorem Argument.read_rule (h : Argument.read raw rule = .ok a) (rule' : Option String) :
    Argument.read raw rule' = .ok a := by
  have hchain := Argument.chain_read raw rule
  rw [h] at hchain
  refine Argument.read_of_chain ?_
  cases hchain with
  | number hn hshort => exact .number hn hshort
  | yes hraw => exact .yes hraw
  | no hraw => exact .no hraw
  | pattern hbody hp => exact .pattern hbody hp
  | text hnumber htrue hfalse hliteral => exact .text hnumber htrue hfalse hliteral

/-- What is read of `raw` is `Scalar` if it is of one of the `scalars`: a pattern is not, and all
    else is. -/
theorem scalar_of_read (h : Argument.read raw rule = .ok a)
    (hscalar : scalars.any (·.holds a) = true) : Scalar raw a := by
  have hchain := Argument.chain_read raw rule
  rw [h] at hchain
  cases hchain with
  | number => exact .int _
  | yes => exact .flag true
  | no => exact .flag false
  | pattern => cases hscalar
  | text => exact .text

/-! ## The rule text -/

namespace Validator

/-- The two rules that list a value, and what each makes of it. -/
inductive Lists : String → (Value → Rule) → Prop
  | valid : Lists "valid" .valid
  | invalid : Lists "invalid" .invalid

variable {name : String} {lists : Value → Rule}

/-- The row of a rule that `Lists` makes a rule of a value of one of the `scalars`, which it puts
    on the list. -/
theorem Lists.make_ok_iff (h : Lists name lists) {argument : Option Value} {r : Rule} :
    Rule.make .text name argument = .ok r ↔
      ∃ a, argument = some a ∧ scalars.any (·.holds a) = true ∧ r = lists a := by
  cases h with
  | valid => exact Rule.withValue_apply_ok
  | invalid => exact Rule.withValue_apply_ok

theorem Lists.makeCustom? (h : Lists name lists) (argument : Option String) :
    Rule.makeCustom? name argument = none := by
  cases h <;> rfl

theorem Lists.properName (h : Lists name lists) : Token.ProperName ⟨name, none⟩ := by
  cases h <;> decide

/-- A token whose name `Lists` makes a rule exactly if its argument is there and read as one of the
    `scalars`. -/
theorem Lists.rule_ok_iff (h : Lists name lists) {argument : Option String} {r : Rule} :
    Token.rule .text ⟨name, argument⟩ = .ok r ↔
      ∃ raw a, argument = some raw ∧ Argument.read raw (some name) = .ok a ∧
        scalars.any (·.holds a) = true ∧ r = lists a := by
  unfold Token.rule
  rw [h.makeCustom?]
  cases argument with
  | none => simp [Token.value, h.make_ok_iff]
  | some raw =>
    cases hread : Argument.read raw (some name) with
    | error e => simp [Token.value, hread]
    | ok a => simp [Token.value, hread, h.make_ok_iff]

/-- A rule text of one token `t` makes a validator exactly if `t.rule` makes a rule. -/
theorem build_token {table : TypeTable} {type : BaseType} {rules typeName : String} {t : Token}
    (htype : table.find? typeName = some type) (hts : Token.parse (some rules) = .ok [t]) :
    build table (some rules) typeName = .ok v ↔
      ∃ r, t.rule type = .ok r ∧ v = ofRules type [r] := by
  rw [Tokens.build_of_parse htype hts]
  unfold rulesOf
  cases t.rule type with
  | error e => simp
  | ok r => simp [rulesOf, eq_comm]

/-- **The validator of one listed value.** The rule text of a name that `Lists` and an argument
    `raw`, with one rule in it (`hbar`), makes a validator exactly if `raw` is read as one of the
    `scalars`. -/
theorem build_listed (h : Lists name lists) (hbar : ¬ ['|', '|'] <:+: raw.toList) :
    build .standard (some (name ++ ":" ++ raw)) "string" = .ok v ↔
      ∃ a, raw ≠ "" ∧ Argument.read raw (some name) = .ok a ∧
        scalars.any (·.holds a) = true ∧ v = ofRules .text [lists a] := by
  have htype : TypeTable.standard.find? "string" = some .text := rfl
  by_cases hne : raw = ""
  · obtain rfl := hne
    have hparse : Token.parse (some (name ++ ":" ++ "")) = .ok [⟨name, none⟩] := by
      cases h <;> decide +kernel
    rw [build_token htype hparse]
    simp [h.rule_ok_iff]
  · rw [build_token htype (Token.parse_argument h.properName hne hbar)]
    constructor
    · rintro ⟨r, hrule, rfl⟩
      obtain ⟨_, a, hraw, hread, hscalar, rfl⟩ := h.rule_ok_iff.1 hrule
      obtain rfl := Option.some.inj hraw
      exact ⟨a, hne, hread, hscalar, rfl⟩
    · rintro ⟨a, -, hread, hscalar, rfl⟩
      exact ⟨_, h.rule_ok_iff.2 ⟨raw, a, rfl, hread, hscalar, rfl⟩, rfl⟩

/-! ## The judgement -/

/-- What is said of the empty text under the label `label`. -/
def emptyText (label : String) : Violation :=
  ⟨"string.empty", labelled label "is not allowed to be empty"⟩

/-- With one listed value `a`, nothing is allowed, so that `judge` says `emptyText` of the empty
    text and leaves the others to `judgeConverted`. -/
theorem judge_listed (h : Lists name lists) :
    (ofRules .text [lists a]).judge label (.text s) =
      if s = "" then .ok (some (emptyText label))
      else (ofRules .text [lists a]).judgeConverted label (.text s) := by
  by_cases hs : s = ""
  · obtain rfl := hs
    cases h <;> rfl
  · rw [if_neg hs]
    cases h <;> simp [ofRules, add, empty, judge, convert, convertText, Value.member, hs]

/-- **One valid value** `a`: a text that `a` agrees with is accepted, and of any other `a` is
    named, by its text `names`. -/
theorem judge_valid (hnames : a.asText = .ok names) :
    (ofRules .text [.valid a]).judge label (.text s) =
      if s = "" then .ok (some (emptyText label))
      else if a.agrees (.text s) then .ok none
      else .ok (some ⟨"any.only", labelled label ("must be [" ++ names ++ "]")⟩) := by
  have hlisted : Value.listed [a] = .ok names := by
    simp [Value.listed, hnames]
  rw [judge_listed .valid]
  simp [ofRules, add, empty, judgeConverted, notValid, Value.member, hlisted]

/-- **One invalid value** `a`: a text is accepted unless `a` agrees with it. -/
theorem judge_invalid :
    (ofRules .text [.invalid a]).judge label (.text s) =
      if s = "" then .ok (some (emptyText label))
      else if a.agrees (.text s) then
        .ok (some ⟨"any.invalid", labelled label "contains an invalid value"⟩)
      else .ok none := by
  rw [judge_listed .invalid]
  simp [ofRules, add, empty, judgeConverted, Value.member, runChecks]

end Validator

/-! ## Whole rule texts -/

open Validator

/-- **What a listed argument means for texts.** Let the rule text of one `valid` with the argument
    `raw` make a validator `v` for a `string` field (`hbuild`).  Then `raw` is read as a `Scalar`
    `a`: itself, a whole number or a flag; and `invalid` with `raw` makes a validator, too, which
    is `w`.  If `a` is `raw` itself, `raw` is the one text that `v` accepts, and the one that `w`
    reports as invalid.  If `a` is a number or a flag, `v` has no text to accept, and `w` accepts
    everything that is not empty. -/
theorem listed_argument (label : String) (hbar : ¬ ['|', '|'] <:+: raw.toList)
    (hbuild : build .standard (some ("valid" ++ ":" ++ raw)) "string" = .ok v) :
    ∃ a w, (∀ rule, Argument.read raw rule = .ok a) ∧ Scalar raw a ∧
      build .standard (some ("invalid" ++ ":" ++ raw)) "string" = .ok w ∧
      (a = .text raw → ∀ s,
        (v.judge label (.text s) = .ok none ↔ s = raw) ∧
        ((∃ message, w.judge label (.text s) = .ok (some ⟨"any.invalid", message⟩)) ↔ s = raw) ∧
        (w.judge label (.text s) = .ok none ↔ s ≠ raw ∧ s ≠ "")) ∧
      ((∃ n, a = .int n) ∨ (∃ b, a = .bool b) → ∀ s,
        (∃ violation, v.judge label (.text s) = .ok (some violation)) ∧
        (s ≠ "" → w.judge label (.text s) = .ok none)) := by
  obtain ⟨a, hne, hread, hscalar, rfl⟩ := (build_listed .valid hbar).1 hbuild
  have hread' := Argument.read_rule hread
  obtain ⟨names, hnames⟩ := (Argument.read_isArgument hread).asText_isOk
  refine ⟨a, _, hread', scalar_of_read hread hscalar,
    (build_listed .invalid hbar).2 ⟨a, hne, hread' _, hscalar, rfl⟩, ?_, ?_⟩
  · rintro rfl s
    rw [judge_valid hnames, judge_invalid]
    by_cases hs : s = ""
    · obtain rfl := hs
      simp [emptyText, Ne.symm hne]
    · by_cases hraw : s = raw
      · obtain rfl := hraw
        simp [Value.agrees_text_iff.2 rfl, hs]
      · have hagrees : ¬ (Value.text raw).agrees (.text s) = true := by
          rw [Value.agrees_text_iff, Value.text.injEq]
          exact Ne.symm hraw
        simp [hagrees, hs, hraw]
  · intro hlook s
    -- neither a number nor a flag is a text
    have hagrees : ¬ a.agrees (.text s) = true := by
      rw [Value.agrees_text_iff]
      rintro rfl
      rcases hlook with ⟨n, hn⟩ | ⟨b, hb⟩
      · cases hn
      · cases hb
    rw [judge_valid hnames, judge_invalid, if_neg hagrees, if_neg hagrees]
    by_cases hs : s = ""
    · simp [hs]
    · simp [hs]

/-- The argument `007` is a number that is met neither by its own text nor by the text without the
    zeros; the argument `7` with a blank behind it is a text. -/
theorem listed_argument_of_look_alikes :
    (∃ v w, build .standard (some ("valid" ++ ":" ++ "007")) "string" = .ok v ∧
      build .standard (some ("invalid" ++ ":" ++ "007")) "string" = .ok w ∧
      (∃ violation, v.judge "Code" (.text "007") = .ok (some violation)) ∧
      (∃ violation, v.judge "Code" (.text "7") = .ok (some violation)) ∧
      w.judge "Code" (.text "007") = .ok none) ∧
    ∃ v w, build .standard (some ("valid" ++ ":" ++ "7 ")) "string" = .ok v ∧
      build .standard (some ("invalid" ++ ":" ++ "7 ")) "string" = .ok w ∧
      v.judge "Code" (.text "7 ") = .ok none ∧ v.judge "Code" (.text "7") ≠ .ok none ∧
      w.judge "Code" (.text "7") = .ok none := by
  constructor
  · have hread : Argument.read "007" (some "valid") = .ok (.int 7) := by rfl
    have hbar : ¬ ['|', '|'] <:+: "007".toList := by decide
    have hbuild := (build_listed .valid hbar).2 ⟨_, by decide, hread, rfl, rfl⟩
    obtain ⟨a, w, hread', -, hbuild', -, hnumber⟩ := listed_argument "Code" hbar hbuild
    obtain rfl := Except.ok.inj (hread.symm.trans (hread' _))
    have hjudge := hnumber (.inl ⟨7, rfl⟩)
    exact ⟨_, w, hbuild, hbuild', (hjudge "007").1, (hjudge "7").1, (hjudge "007").2 (by decide)⟩
  · have hread : Argument.read "7 " (some "valid") = .ok (.text "7 ") := by rfl
    have hbar : ¬ ['|', '|'] <:+: "7 ".toList := by decide
    have hbuild := (build_listed .valid hbar).2 ⟨_, by decide, hread, rfl, rfl⟩
    obtain ⟨a, w, hread', -, hbuild', htext, -⟩ := listed_argument "Code" hbar hbuild
    obtain rfl := Except.ok.inj (hread.symm.trans (hread' _))
    have hjudge := htext rfl
    refine ⟨_, w, hbuild, hbuild', (hjudge "7 ").1.2 rfl, ?_, (hjudge "7").2.2.2 (by decide)⟩
    rw [ne_eq, (hjudge "7").1]
    decide

end Rulebook
