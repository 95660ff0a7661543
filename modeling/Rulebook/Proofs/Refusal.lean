/-
  Refusals.

  A rule text that makes no validator is refused: the refusal names the rule at fault and says
  what is wrong with it.  One thing gets past this.  Where a text is taken for a pattern, the
  errors in it are refused, but three faults of reading it are none of its errors:

      a count of repetitions that is too large       a{4294967295}
      a count of more than 4300 digits               a{000…0}
      both character sets at once                    (?a)(?u)

  1. `Row.Blames`: the rows whose making fails by a refusal that blames the row, one lemma for
     each family;
  2. `apply_error`: whatever else is wrong with an argument is refused, and can be shown;
  3. `Token.Fails`, `fails_of_rule`: the ways in which a token makes no rule, and the name that is
     blamed;
  4. `Token.Compiles`, `Token.Breaks`: the tokens that have a pattern read, and those whose
     pattern has one of the three faults;
  5. `rule_not_refused_iff`: no other token fails without being refused;
  6. `answered_or_refused_iff`: so a rule text makes a validator or is refused, unless the first
     token that makes no rule is one of these.

  The cases of 1 follow the tables; from 5 on only the list of tokens matters.
-/
import Rulebook.Proofs.Reading
import Rulebook.Proofs.Writing

namespace Rulebook

open Rulebook.Text Rulebook.Number

/-! ## Faults -/

/-- The fault `e` is a refusal, so callers are ready for it. -/
def Fault.IsRefusal (e : Fault) : Prop := ∃ r, e = .refused r

theorem Fault.isRefusal_refuse (rule : Option String) (reason : Reason) :
    (Fault.refuse rule reason).IsRefusal := ⟨⟨rule, reason⟩, rfl⟩

theorem Fault.isRefusal_of_eq {α : Type} {rule : Option String} {reason : Reason} {e : Fault}
    (h : (.error (Fault.refuse rule reason) : Except Fault α) = .error e) : e.IsRefusal := by
  obtain rfl := Except.error.inj h
  exact isRefusal_refuse rule reason

/-- The fault `e` is a refusal that blames this `rule`. -/
def Fault.Blames (rule : Option String) (e : Fault) : Prop := ∃ reason, e = .refuse rule reason

theorem Fault.Blames.isRefusal {rule : Option String} {e : Fault} (h : e.Blames rule) :
    e.IsRefusal := by
  obtain ⟨reason, rfl⟩ := h
  exact isRefusal_refuse rule reason

theorem Fault.blames_of_eq {α : Type} {rule : Option String} {reason : Reason} {e : Fault}
    (h : (.error (Fault.refuse rule reason) : Except Fault α) = .error e) : e.Blames rule :=
  ⟨reason, (Except.error.inj h).symm⟩

/-- The faults of a pattern text that are none of its errors, and what becomes of them. -/
inductive Pattern.Fault.Escapes : Pattern.Fault → Rulebook.Fault → Prop
  | repetitions : Escapes .repeatTooLarge .repeatTooLarge
  | characterSets : Escapes .asciiAndUnicode .asciiAndUnicode
  | digits (limit : Whole.DigitLimit) : Escapes (.tooManyDigits limit) (.tooManyDigits limit)

/-- An error in a pattern text is refused by `patternFault`, anything else escapes as it is. -/
theorem Argument.patternFault_escapes_iff (rule : Option String)
    (reason : Pattern.Error → Reason) {f : Pattern.Fault} {e : Fault} :
    (patternFault rule reason f = e ∧ ¬ e.IsRefusal) ↔ f.Escapes e := by
  constructor
  · rintro ⟨rfl, hnot⟩
    cases f with
    | error x => exact absurd (Fault.isRefusal_refuse _ _) hnot
    | repeatTooLarge => exact .repetitions
    | asciiAndUnicode => exact .characterSets
    | tooManyDigits limit => exact .digits limit
  · intro h
    cases h <;> exact ⟨rfl, by rintro ⟨r, hr⟩; cases hr⟩

namespace Rule

/-! ## Rows -/

/-- Whatever the `row` does not make, it refuses under its own name. -/
def Row.Blames (row : Row) : Prop := ∀ a e, row.make a = .error e → e.Blames (some row.name)

theorem plain_blames (name : String) (rule : Rule) : (plain name rule).Blames := by
  intro a e h
  cases h

theorem withValue_blames (name : String) (kinds : List ArgumentKind) (rule : Value → Rule) :
    (withValue name kinds rule).Blames := by
  intro a e h
  cases h

theorem withLimit_blames (name : String) (rule : Int → Rule) : (withLimit name rule).Blames := by
  intro a e h
  dsimp only [withLimit] at h
  split at h
  · split at h
    · exact Fault.blames_of_eq h
    · cases h
  · exact Fault.blames_of_eq h

theorem withNumber_blames (name : String) {make : Quantity → Except Fault Rule}
    (hmake : ∀ q e, make q = .error e → e.Blames (some name)) : (withNumber name make).Blames := by
  intro a e h
  dsimp only [withNumber] at h
  split at h
  · exact hmake _ _ h
  · exact Fault.blames_of_eq h

theorem allowRow_blames : allowRow.Blames := by
  intro a e h
  cases h

theorem withComparison_blames (c : Comparison) : (withComparison c).Blames := by
  refine withNumber_blames _ ?_
  intro q e h
  cases h

theorem withForm_blames (f : TextForm) : (withForm f).Blames := plain_blames _ _

/-- A pattern row also fails with the fault `f` of a text that it takes for a pattern.  An error in
    that blames `regex`, whichever of the two names the row has. -/
theorem withPattern_make_error {name : String} {a : Option Value} {e : Fault}
    (h : (withPattern name).make a = .error e) :
    e.Blames (some name) ∨ ∃ body f, a = some (.text body) ∧ Pattern.compile body = .error f ∧
      e = Argument.patternFault (some "regex") (.badPattern body) f := by
  dsimp only [withPattern] at h
  split at h
  · cases h
  · rename_i body
    split at h
    · cases h
    · rename_i f hf
      exact .inr ⟨body, f, rfl, hf, (Except.error.inj h).symm⟩
  · exact .inl (Fault.blames_of_eq h)

theorem sharedRows_blame {row : Row} (h : row ∈ sharedRows) : row.Blames := by
  simp only [sharedRows, List.mem_cons, List.not_mem_nil, or_false] at h
  rcases h with rfl | rfl | rfl | rfl | rfl | rfl
  · exact plain_blames _ _
  · exact plain_blames _ _
  · exact plain_blames _ _
  · exact withValue_blames _ _ _
  · exact allowRow_blames
  · exact withValue_blames _ _ _

/-- Of the rows in `textRows` only the two for patterns can fail in another way than `Row.Blames`
    says. -/
theorem textRows_blame {row : Row} (h : row ∈ textRows) :
    row.Blames ∨ ∃ name, (name = "regex" ∨ name = "pattern") ∧ row = withPattern name := by
  simp only [textRows, List.mem_cons, List.not_mem_nil, or_false] at h
  rcases h with rfl | rfl | rfl | rfl | rfl | rfl | rfl | rfl | rfl | rfl | rfl | rfl | rfl | rfl
  · exact .inl (withLimit_blames _ _)
  · exact .inl (withLimit_blames _ _)
  · exact .inl (withLimit_blames _ _)
  · exact .inr ⟨_, .inl rfl, rfl⟩
  · exact .inr ⟨_, .inr rfl, rfl⟩
  · exact .inl (withForm_blames _)
  · exact .inl (withForm_blames _)
  · exact .inl (withForm_blames _)
  · exact .inl (withForm_blames _)
  · exact .inl (withForm_blames _)
  · exact .inl (withForm_blames _)
  · exact .inl (withForm_blames _)
  · exact .inl (withForm_blames _)
  · exact .inl (plain_blames _ _)

theorem numberRows_blame {row : Row} (h : row ∈ numberRows) : row.Blames := by
  have multiples : ∀ (q : Quantity) (e : Fault),
      (if q.le (.whole 0) then .error (.refuse (some "multiple") .baseNotPositive)
        else .ok (ofNumber (.multiple q))) = (.error e : Except Fault Rule) →
          e.Blames (some "multiple") := by
    intro q e he
    split at he
    · exact Fault.blames_of_eq he
    · cases he
  simp only [numberRows, List.mem_cons, List.not_mem_nil, or_false] at h
  rcases h with rfl | rfl | rfl | rfl | rfl | rfl | rfl | rfl | rfl | rfl
  · exact withComparison_blames _
  · exact withComparison_blames _
  · exact withComparison_blames _
  · exact withComparison_blames _
  · exact plain_blames _ _
  · exact plain_blames _ _
  · exact plain_blames _ _
  · exact withNumber_blames _ multiples
  · exact withLimit_blames _ _
  · exact plain_blames _ _

theorem flagRows_blame {row : Row} (h : row ∈ flagRows) : row.Blames := by
  simp only [flagRows, List.mem_cons, List.not_mem_nil, or_false] at h
  rcases h with rfl | rfl | rfl
  · exact withValue_blames _ _ _
  · exact withValue_blames _ _ _
  · exact plain_blames _ _

/-- Of the `rows` of any `type` only the two for patterns can fail in another way than `Row.Blames`
    says. -/
theorem blames_or_withPattern {type : BaseType} {row : Row} (h : row ∈ rows type) :
    row.Blames ∨
      type = .text ∧ ∃ name, (name = "regex" ∨ name = "pattern") ∧ row = withPattern name := by
  cases type with
  | text =>
    rcases List.mem_append.1 h with hrow | hrow
    · exact .inl (sharedRows_blame hrow)
    · exact (textRows_blame hrow).imp_right fun hpattern => ⟨rfl, hpattern⟩
  | number => exact .inl ((List.mem_append.1 h).elim sharedRows_blame numberRows_blame)
  | flag => exact .inl ((List.mem_append.1 h).elim sharedRows_blame flagRows_blame)
  | any => exact .inl (sharedRows_blame h)

/-! ## Arguments that do not fit -/

/-- An argument `v` of the wrong kind is refused: it can be shown. -/
theorem refuseKind_blames {name : String} {kinds : List ArgumentKind} {v : Value}
    (hv : v.IsArgument) : (refuseKind name kinds v).Blames (some name) := by
  obtain ⟨shown, hshown⟩ := hv.shown_isOk
  unfold refuseKind
  rw [hshown]
  exact ⟨_, rfl⟩

/-- A `row` refuses an argument that does not fit, or fails to make the rule of one that fits. -/
theorem apply_error {row : Row} {a : Option Value} {e : Fault} (ha : ∀ v, a = some v → v.IsArgument)
    (h : row.apply a = .error e) : e.Blames (some row.name) ∨ row.make a = .error e := by
  unfold Row.apply at h
  split at h
  · exact .inr h
  · exact .inl (Fault.blames_of_eq h)
  · exact .inl (Fault.blames_of_eq h)
  · exact .inr h
  · split at h
    · exact .inr h
    · obtain rfl := Except.error.inj h
      exact .inl (refuseKind_blames (ha _ rfl))
  · split at h
    · exact .inr h
    · obtain rfl := Except.error.inj h
      exact .inl (refuseKind_blames (ha _ rfl))

/-- **Making a rule fails by blaming it**, unless `type` is that of texts, `name` that of a pattern
    rule, and the argument a text `body` that does not compile. -/
theorem make_error {type : BaseType} {name : String} {a : Option Value} {e : Fault}
    (ha : ∀ v, a = some v → v.IsArgument) (h : make type name a = .error e) :
    e.Blames (some name) ∨ type = .text ∧ (name = "regex" ∨ name = "pattern") ∧
      ∃ body f, a = some (.text body) ∧ Pattern.compile body = .error f ∧
        e = Argument.patternFault (some "regex") (.badPattern body) f := by
  unfold make at h
  cases hrow : (rows type).find? (·.name == name) with
  | none =>
    rw [hrow] at h
    exact .inl (Fault.blames_of_eq h)
  | some row =>
    rw [hrow] at h
    obtain rfl : row.name = name := by simpa using List.find?_some hrow
    rcases apply_error ha h with hblames | hmake
    · exact .inl hblames
    · rcases blames_or_withPattern (List.mem_of_find?_eq_some hrow) with
        hall | ⟨htype, name, hname, rfl⟩
      · exact .inl (hall a e hmake)
      · rcases withPattern_make_error hmake with hblames | hfault
        · exact .inl hblames
        · exact .inr ⟨htype, hname, hfault⟩

/-- A text `body` that is given for a pattern is read as one. -/
theorem make_patternText {name : String} (hname : name = "regex" ∨ name = "pattern")
    (body : String) :
    make .text name (some (.text body)) =
      match Pattern.compile body with
      | .ok p => .ok (ofText (.pattern p))
      | .error f => .error (Argument.patternFault (some "regex") (.badPattern body) f) := by
  rcases hname with rfl | rfl <;> rfl

end Rule

/-! ## Tokens -/

namespace Argument

/-- What begins with a slash, as a literal's text `cs` does, is no numeral. -/
theorem readWhole?_of_literalBody? {cs body : List Char} (h : literalBody? cs = some body) :
    readWhole? cs = none := by
  unfold literalBody? at h
  split at h
  · rename_i rest hrest
    unfold readWhole?
    rw [hrest]
    rfl
  · cases h

/-- What begins with a slash, as a literal's text `raw` does, is no flag. -/
theorem readFlag?_of_literalBody? {raw : String} {body : List Char}
    (h : literalBody? raw.toList = some body) : readFlag? raw = none := by
  unfold readFlag?
  split
  · rename_i htrue
    rw [htrue] at h
    cases h
  · split
    · rename_i hfalse
      rw [hfalse] at h
      cases h
    · rfl

/-- Reading the argument `raw` fails by blaming the `rule`, or by the fault `f` of a literal. -/
theorem read_error {raw : String} {rule : Option String} {e : Fault}
    (h : read raw rule = .error e) :
    e.Blames rule ∨ ∃ cs f, literalBody? raw.toList = some cs ∧
      Pattern.compile (String.ofList cs) = .error f ∧
        e = patternFault rule (.badLiteral raw (String.ofList cs)) f := by
  unfold read at h
  split at h
  · split at h
    · exact .inl (Fault.blames_of_eq h)
    · cases h
  · split at h
    · cases h
    · split at h
      · rename_i cs hcs
        dsimp only at h
        split at h
        · cases h
        · rename_i f hf
          exact .inr ⟨cs, f, hcs, hf, (Except.error.inj h).symm⟩
      · cases h

/-- What stands between slashes, the characters `cs`, is read as a pattern. -/
theorem read_of_literalBody? {raw : String} {rule : Option String} {cs : List Char}
    (hcs : literalBody? raw.toList = some cs) :
    read raw rule =
      match Pattern.compile (String.ofList cs) with
      | .ok p => .ok (.pattern p)
      | .error f => .error (patternFault rule (.badLiteral raw (String.ofList cs)) f) := by
  have hwhole := readWhole?_of_literalBody? hcs
  have hflag := readFlag?_of_literalBody? hcs
  cases hcompile : Pattern.compile (String.ofList cs) <;>
    simp only [read, hwhole, hflag, hcs, hcompile]

/-- A text `raw` that is read as itself is no numeral, no flag and no literal. -/
theorem read_eq_text_iff {raw body : String} {rule : Option String} :
    read raw rule = .ok (.text body) ↔
      body = raw ∧ readWhole? raw.toList = none ∧ readFlag? raw = none ∧
        literalBody? raw.toList = none := by
  unfold read
  cases hwhole : readWhole? raw.toList with
  | some p =>
    obtain ⟨negative, digits⟩ := p
    dsimp only
    split <;> simp
  | none =>
    cases hflag : readFlag? raw with
    | some b => simp
    | none =>
      cases hliteral : literalBody? raw.toList with
      | some cs =>
        dsimp only
        cases Pattern.compile (String.ofList cs) <;> simp
      | none => simp [eq_comm]

end Argument

namespace Token

/-- The names whose argument is not read as a value: those of `makeCustom?`. -/
def customNames : List String := ["custom_list", "ipv4", "ipv6", "ip"]

/-- A token has a text read as a pattern: what stands between slashes, whatever the rule is; or the
    argument of a pattern rule, if it stands for nothing else. -/
inductive Compiles (type : BaseType) : Token → String → Prop
  | literal {name raw : String} {cs : List Char} :
    name ∉ customNames → Argument.literalBody? raw.toList = some cs →
      Compiles type ⟨name, some raw⟩ (String.ofList cs)
  | bare {name raw : String} :
    type = .text → name = "regex" ∨ name = "pattern" →
    Argument.readWhole? raw.toList = none → Argument.readFlag? raw = none →
    Argument.literalBody? raw.toList = none → Compiles type ⟨name, some raw⟩ raw

/-- The token `t` has a text read as a pattern, whose fault is no error in the text and comes out
    as `e`. -/
def Breaks (type : BaseType) (t : Token) (e : Fault) : Prop :=
  ∃ body f, Compiles type t body ∧ Pattern.compile body = .error f ∧ f.Escapes e

theorem makeCustom?_eq_none_iff {name : String} {argument : Option String} :
    Rule.makeCustom? name argument = none ↔ name ∉ customNames := by
  unfold Rule.makeCustom? customNames
  constructor
  · intro h hname
    simp only [List.mem_cons, List.not_mem_nil, or_false] at hname
    rcases hname with rfl | rfl | rfl | rfl <;> simp at h
  · intro hname
    simp only [List.mem_cons, List.not_mem_nil, or_false, not_or] at hname
    obtain ⟨hlist, hfour, hsix, heither⟩ := hname
    rw [if_neg hlist, if_neg hfour, if_neg hsix, if_neg heither]

/-- The rules that read their argument as it stands fail by blaming themselves. -/
theorem makeCustom?_error {name : String} {argument : Option String} {e : Fault}
    (h : Rule.makeCustom? name argument = some (.error e)) : e.Blames (some name) := by
  have members (hm : Rule.makeMembers argument = .error e) : e.Blames (some "custom_list") := by
    unfold Rule.makeMembers at hm
    split at hm
    · split at hm
      · exact Fault.blames_of_eq hm
      · cases hm
    · exact Fault.blames_of_eq hm
  have address (version : Option Nat) (ha : Rule.makeAddress version argument = .error e) :
      e.Blames (some (ValueCheck.address version).name) := by
    unfold Rule.makeAddress at ha
    split at ha
    · exact Fault.blames_of_eq ha
    · cases ha
  unfold Rule.makeCustom? at h
  split at h
  · rename_i hname
    exact hname ▸ members (Option.some.inj h)
  · split at h
    · rename_i hname
      exact hname ▸ address (some 4) (Option.some.inj h)
    · split at h
      · rename_i hname
        exact hname ▸ address (some 6) (Option.some.inj h)
      · split at h
        · rename_i hname
          exact hname ▸ address none (Option.some.inj h)
        · cases h

/-- How a token makes no rule: it is refused under its own name, or a text read as a pattern has a
    fault.  An error in a literal blames the token's own name, one in a bare text blames `regex`. -/
inductive Fails (type : BaseType) : Token → Fault → Prop
  | blamed {t : Token} {e : Fault} : e.Blames (some t.name) → Fails type t e
  | literal {name raw : String} {cs : List Char} {f : Pattern.Fault} :
    name ∉ customNames → Argument.literalBody? raw.toList = some cs →
    Pattern.compile (String.ofList cs) = .error f →
      Fails type ⟨name, some raw⟩
        (Argument.patternFault (some name) (.badLiteral raw (String.ofList cs)) f)
  | bare {name raw : String} {f : Pattern.Fault} :
    type = .text → name = "regex" ∨ name = "pattern" →
    Argument.readWhole? raw.toList = none → Argument.readFlag? raw = none →
    Argument.literalBody? raw.toList = none → Pattern.compile raw = .error f →
      Fails type ⟨name, some raw⟩ (Argument.patternFault (some "regex") (.badPattern raw) f)

theorem fails_of_rule {type : BaseType} {t : Token} {e : Fault} (he : t.rule type = .error e) :
    Fails type t e := by
  obtain ⟨name, argument⟩ := t
  unfold Token.rule at he
  dsimp only at he
  -- the name first, then the argument: either may be refused before a pattern is read
  cases hcustom : Rule.makeCustom? name argument with
  | some made =>
    simp only [hcustom] at he
    exact .blamed (makeCustom?_error (he ▸ hcustom))
  | none =>
    have hname : name ∉ customNames := makeCustom?_eq_none_iff.1 hcustom
    simp only [hcustom] at he
    cases argument with
    | none =>
      rcases Rule.make_error (by simp) he with hblames | ⟨-, -, body, f, hbody, -⟩
      · exact .blamed hblames
      · cases hbody
    | some raw =>
      cases hread : Argument.read raw (some name) with
      | error e' =>
        simp only [Token.value, hread] at he
        obtain rfl := Except.error.inj he
        rcases Argument.read_error hread with hblames | ⟨cs, f, hcs, hf, rfl⟩
        · exact .blamed hblames
        · exact .literal hname hcs hf
      | ok v =>
        simp only [Token.value, hread] at he
        have harg : ∀ w, some v = some w → w.IsArgument := by
          intro w hw
          obtain rfl := Option.some.inj hw
          exact Argument.read_isArgument hread
        rcases Rule.make_error harg he with hblames | ⟨htype, hn, body, f, hbody, hf, rfl⟩
        · exact .blamed hblames
        · -- the argument was read as a text, so it is the text that was written
          obtain rfl := Option.some.inj hbody
          obtain ⟨rfl, hwhole, hflag, hliteral⟩ := Argument.read_eq_text_iff.1 hread
          exact .bare htype hn hwhole hflag hliteral hf

theorem breaks_of_fails {type : BaseType} {t : Token} {e : Fault} (h : Fails type t e)
    (hnot : ¬ e.IsRefusal) : Breaks type t e := by
  cases h with
  | blamed hblames => exact absurd hblames.isRefusal hnot
  | literal hname hcs hf =>
    exact ⟨_, _, .literal hname hcs, hf, (Argument.patternFault_escapes_iff _ _).1 ⟨rfl, hnot⟩⟩
  | bare htype hn hwhole hflag hliteral hf =>
    exact ⟨_, _, .bare htype hn hwhole hflag hliteral, hf,
      (Argument.patternFault_escapes_iff _ _).1 ⟨rfl, hnot⟩⟩

/-- A pattern rule with a text `raw` that stands for nothing else has that text read as a
    pattern. -/
theorem rule_of_bare {name raw : String} (hn : name = "regex" ∨ name = "pattern")
    (hwhole : Argument.readWhole? raw.toList = none) (hflag : Argument.readFlag? raw = none)
    (hliteral : Argument.literalBody? raw.toList = none) :
    Token.rule .text ⟨name, some raw⟩ =
      match Pattern.compile raw with
      | .ok p => .ok (Rule.ofText (.pattern p))
      | .error f => .error (Argument.patternFault (some "regex") (.badPattern raw) f) := by
  have hname : name ∉ customNames := by
    rcases hn with rfl | rfl <;> simp [customNames]
  have hread : Argument.read raw (some name) = .ok (.text raw) :=
    Argument.read_eq_text_iff.2 ⟨rfl, hwhole, hflag, hliteral⟩
  unfold Token.rule
  simp only [makeCustom?_eq_none_iff.2 hname, Token.value, hread]
  exact Rule.make_patternText hn raw

theorem rule_of_breaks {type : BaseType} {t : Token} {e : Fault} (h : Breaks type t e) :
    t.rule type = .error e ∧ ¬ e.IsRefusal := by
  obtain ⟨body, f, hcompiles, hf, hescapes⟩ := h
  cases hcompiles with
  | @literal name raw cs hname hcs =>
    obtain ⟨hfault, hnot⟩ :=
      (Argument.patternFault_escapes_iff (some name) (.badLiteral raw (String.ofList cs))).2
        hescapes
    refine ⟨?_, hnot⟩
    unfold Token.rule
    simp only [makeCustom?_eq_none_iff.2 hname, Token.value, Argument.read_of_literalBody? hcs,
      hf]
    exact congrArg Except.error hfault
  | @bare name _ htype hn hwhole hflag hliteral =>
    obtain rfl := htype
    obtain ⟨hfault, hnot⟩ :=
      (Argument.patternFault_escapes_iff (some "regex") (.badPattern body)).2 hescapes
    refine ⟨?_, hnot⟩
    rw [rule_of_bare hn hwhole hflag hliteral, hf]
    exact congrArg Except.error hfault

/-- A token `t` means nothing if its rule fails. -/
theorem not_means_of_error {type : BaseType} {t : Token} {e : Fault} (h : t.rule type = .error e) :
    ¬ ∃ r, Means type t r := by
  rintro ⟨r, hmeans⟩
  cases h.symm.trans (rule_eq_ok_iff.2 hmeans)

/-- **Of one token**: its rule fails with `e` without being refused exactly if the token `t` breaks
    with `e`. -/
theorem rule_not_refused_iff {type : BaseType} {t : Token} {e : Fault} :
    (t.rule type = .error e ∧ ¬ e.IsRefusal) ↔ Breaks type t e := by
  constructor
  · rintro ⟨he, hnot⟩
    exact breaks_of_fails (fails_of_rule he) hnot
  · exact rule_of_breaks

end Token

/-! ## Rule texts -/

namespace Tokens

/-- The fault `e` of the tokens `ts` is that of the first one that makes no rule. -/
theorem rulesOf_eq_error_iff {type : BaseType} {ts : List Token} {e : Fault} :
    Validator.rulesOf type ts = .error e ↔
      ∃ before t behind, ts = before ++ t :: behind ∧
        (∀ s ∈ before, ∃ r, Token.Means type s r) ∧ t.rule type = .error e := by
  induction ts with
  | nil => simp [Validator.rulesOf]
  | cons t ts ih =>
    rw [exists_first_cons_iff, ← ih, Validator.rulesOf]
    cases hr : t.rule type with
    | error e' =>
      -- this is the first one, since it cannot be among those before the first
      simp [Token.not_means_of_error hr]
    | ok r =>
      have hmeans : ∃ r, Token.Means type t r := ⟨r, Token.rule_eq_ok_iff.1 hr⟩
      dsimp only
      cases Validator.rulesOf type ts <;> simp [hmeans]

/-- A rule text whose first token that makes no rule breaks with the fault `e`; the tokens `before`
    it all mean rules of the type. -/
inductive Broken (table : TypeTable) (rules : Option String) (name : String) (e : Fault) : Prop
  | token {type : BaseType} {before behind : List Token} {t : Token} :
    table.find? name = some type → Token.parse rules = .ok (before ++ t :: behind) →
    (∀ s ∈ before, ∃ r, Token.Means type s r) → Token.Breaks type t e → Broken table rules name e

/-- The validator of a text that falls into the tokens `ts` is that of their rules. -/
theorem build_of_parse {table : TypeTable} {type : BaseType} {rules : Option String}
    {name : String} {ts : List Token} (htype : table.find? name = some type)
    (hts : Token.parse rules = .ok ts) :
    Validator.build table rules name =
      match Validator.rulesOf type ts with
      | .ok rs => .ok (Validator.ofRules type rs)
      | .error e => .error e := by
  cases hrules : Validator.rulesOf type ts <;> simp only [Validator.build, htype, hts, hrules]

/-- A rule text fails with `e` without being refused exactly if it is `Broken` with `e`. -/
theorem build_not_refused_iff {table : TypeTable} {rules : Option String} {name : String}
    {e : Fault} :
    (Validator.build table rules name = .error e ∧ ¬ e.IsRefusal) ↔
      Broken table rules name e := by
  constructor
  · rintro ⟨he, hnot⟩
    unfold Validator.build at he
    split at he
    · exact absurd (Fault.isRefusal_of_eq he) hnot
    · rename_i type htype
      split at he
      · -- a text that falls into no tokens is refused as such
        obtain rfl := Except.error.inj he
        exact absurd ⟨_, rfl⟩ hnot
      · rename_i ts hts
        split at he
        · cases he
        · rename_i e' hrules
          obtain rfl := Except.error.inj he
          obtain ⟨before, t, behind, rfl, hbefore, ht⟩ := rulesOf_eq_error_iff.1 hrules
          exact .token htype hts hbefore (Token.rule_not_refused_iff.1 ⟨ht, hnot⟩)
  · intro h
    obtain @⟨type, before, behind, t, htype, hts, hbefore, hbreaks⟩ := h
    obtain ⟨ht, hnot⟩ := Token.rule_not_refused_iff.2 hbreaks
    have hrules : Validator.rulesOf type (before ++ t :: behind) = .error e :=
      rulesOf_eq_error_iff.2 ⟨before, t, behind, rfl, hbefore, ht⟩
    refine ⟨?_, hnot⟩
    rw [build_of_parse htype hts, hrules]

end Tokens

end Rulebook
