/-
  Which rule a refusal blames.

  A rule text that falls into tokens is refused because of its first token that by itself makes no
  validator, and the refusal blames this token, whatever is wrong with it:

      min:3||max:x||min:-1      max        the argument does not fit
      min:3||nope               nope       there is no such rule
      valid:/[/||trim           valid      the error is in a literal
      trim||pattern:[           regex      the error is in a bare text

  The last line is the one exception.  `regex` and `pattern` have a bare text read as a pattern in
  one place, and there the name is always `regex`.

  1. `BarePattern`: the tokens of the last line;
  2. `rule_of_barePattern`, `rule_of_not_barePattern`: what the refusal of one token blames;
  3. `builds_render_iff`: a token of the text, written as a text of its own;
  4. `refusal_names_culprit_iff`: whole rule texts.

  The crux is `Token.fails_of_rule`: wherever the rule of a token is refused, and whichever of the
  tables it is from, the name at hand is that of the token.
-/
import Rulebook.Proofs.Refusal
import Rulebook.Proofs.Segments

namespace Rulebook

open Rulebook.Text

namespace Token

variable {type : BaseType} {t : Token} {refusal : Refusal}

/-- The rule `pattern` of texts, with an argument `raw` that is no numeral, no flag and no
    literal. -/
inductive BarePattern : BaseType → Token → Prop
  | mk {raw : String} :
    Argument.readWhole? raw.toList = none → Argument.readFlag? raw = none →
    Argument.literalBody? raw.toList = none → BarePattern .text ⟨"pattern", some raw⟩

/-- An error in a pattern text blames the `rule` that it is read for. -/
theorem rule_of_patternFault {rule : Option String} {reason : Pattern.Error → Reason}
    {f : Pattern.Fault} (h : Argument.patternFault rule reason f = .refused refusal) :
    refusal.rule = rule := by
  cases f with
  | error e => exact (congrArg Refusal.rule (Fault.refused.inj h)).symm
  | _ => cases h

theorem rule_of_blames {rule : Option String} (h : (Fault.refused refusal).Blames rule) :
    refusal.rule = rule := by
  obtain ⟨reason, hreason⟩ := h
  exact congrArg Refusal.rule (Fault.refused.inj hreason)

/-- A bare text with an error blames `regex`. -/
theorem rule_of_barePattern (hbare : BarePattern type t)
    (h : t.rule type = .error (.refused refusal)) : refusal.rule = some "regex" := by
  obtain ⟨hwhole, hflag, hliteral⟩ := hbare
  rw [rule_of_bare (.inr rfl) hwhole hflag hliteral] at h
  split at h
  · cases h
  · exact rule_of_patternFault (Except.error.inj h)

/-- **Of one token**: every `t` but a `BarePattern` blames itself. -/
theorem rule_of_not_barePattern (hbare : ¬ BarePattern type t)
    (h : t.rule type = .error (.refused refusal)) : refusal.rule = some t.name := by
  have hfails : Fails type t (.refused refusal) := fails_of_rule h
  generalize hfault : Fault.refused refusal = e at hfails
  cases hfails with
  | blamed hblames =>
    rw [← hfault] at hblames
    exact rule_of_blames hblames
  | literal => exact rule_of_patternFault hfault.symm
  | bare htype hname hwhole hflag hliteral =>
    obtain rfl := htype
    rcases hname with rfl | rfl
    · exact rule_of_patternFault hfault.symm
    · exact absurd (.mk hwhole hflag hliteral) hbare

end Token

namespace Tokens

open Validator (Builds)

variable {table : TypeTable} {type : BaseType} {name : String} {rules : Option String}
  {ts : List Token} {t : Token} {e : Fault} {refusal : Refusal}

/-- A token `t` of a text that was read, written as a text of its own by `render`, makes a
    validator exactly if it means a rule. -/
theorem builds_render_iff (htype : table.find? name = some type) (hts : Token.parse rules = .ok ts)
    (hmem : t ∈ ts) : Builds table name (Token.render [t]) ↔ ∃ r, Token.Means type t r := by
  obtain ⟨hname, hsep⟩ := Token.of_parse hts
  have hone : Token.Separable [t] := by
    refine ⟨?_, ?_, by simp⟩
    · exact List.forall_mem_singleton.2 (hsep.filled t hmem)
    · exact List.forall_mem_singleton.2 (hsep.whole t hmem)
  have hread : Token.parse (some (Token.render [t])) = .ok [t] :=
    Token.parseText_render (List.forall_mem_singleton.2 (hname t hmem)) hone
  rw [builds_of_parse_iff htype hread, List.forall_mem_singleton]

/-- **A refusal names the culprit.** If a rule text that falls into the tokens `ts` is refused,
    then there is a first token `t` that makes no validator by itself.  The `refusal` blames `t` by
    its name, unless it is a `BarePattern`, the rule `pattern` with a bare text; then the refusal
    blames `regex`. -/
theorem refusal_names_culprit_iff (htype : table.find? name = some type)
    (hts : Token.parse rules = .ok ts)
    (h : Validator.build table rules name = .error (.refused refusal)) :
    ∃ before t behind, ts = before ++ t :: behind ∧
      (∀ s ∈ before, Builds table name (Token.render [s])) ∧
      ¬ Builds table name (Token.render [t]) ∧
      (refusal.rule = some t.name ↔ ¬ Token.BarePattern type t) ∧
      (Token.BarePattern type t → refusal.rule = some "regex") := by
  rw [build_of_parse htype hts] at h
  split at h
  · cases h
  · rename_i hrules
    obtain rfl := Except.error.inj h
    obtain ⟨before, t, behind, rfl, hbefore, ht⟩ := rulesOf_eq_error_iff.1 hrules
    refine ⟨before, t, behind, rfl, ?_, ?_, ?_, fun hbare => Token.rule_of_barePattern hbare ht⟩
    · intro s hs
      exact (builds_render_iff htype hts (List.mem_append_left _ hs)).2 (hbefore s hs)
    · rw [builds_render_iff htype hts (List.mem_append_right _ (List.mem_cons_self ..))]
      exact Token.not_means_of_error ht
    · constructor
      · intro hrule hbare
        have hregex := Token.rule_of_barePattern hbare ht
        cases hbare
        have hname : some "regex" = some "pattern" := hregex.symm.trans hrule
        exact absurd hname (by decide)
      · intro hbare
        exact Token.rule_of_not_barePattern hbare ht

/-- The fault `e` of a rule text can be computed, whatever the validator is. -/
theorem build_eq_error (h : (Validator.build table rules name).map (fun _ => ()) = .error e) :
    Validator.build table rules name = .error e := by
  cases hbuild : Validator.build table rules name with
  | ok v =>
    rw [hbuild] at h
    cases h
  | error e' =>
    rw [hbuild] at h
    exact congrArg Except.error (Except.error.inj h)

/-- Of two bad tokens the first is blamed. -/
theorem culprit_of_two_bad_rules :
    Token.parse (some "min:3||max:x||min:-1") =
        .ok [⟨"min", some "3"⟩, ⟨"max", some "x"⟩, ⟨"min", some "-1"⟩] ∧
      Validator.build .standard (some "min:3||max:x||min:-1") "string" =
        .error (.refused ⟨some "max", .wrongArgument ["int"] "str" "'x'"⟩) ∧
      ¬ Builds .standard "string" (Token.render [⟨"max", some "x"⟩]) := by
  have hts : Token.parse (some "min:3||max:x||min:-1") =
      .ok [⟨"min", some "3"⟩, ⟨"max", some "x"⟩, ⟨"min", some "-1"⟩] := by
    decide +kernel
  have hbuild : Validator.build .standard (some "min:3||max:x||min:-1") "string" =
      .error (.refused ⟨some "max", .wrongArgument ["int"] "str" "'x'"⟩) :=
    build_eq_error (by decide +kernel)
  have htype : TypeTable.standard.find? "string" = some .text := rfl
  refine ⟨hts, hbuild, ?_⟩
  obtain ⟨before, t, behind, hsplit, -, hnot, hrule, hregex⟩ :=
    refusal_names_culprit_iff htype hts hbuild
  have hname : some "max" = some t.name := by
    refine hrule.2 fun hbare => ?_
    exact absurd (hregex hbare) (by decide)
  -- only one of the tokens has the name that is blamed
  have hmem : t ∈ [⟨"min", some "3"⟩, ⟨"max", some "x"⟩, ⟨"min", some "-1"⟩] :=
    hsplit ▸ List.mem_append_right _ (List.mem_cons_self ..)
  simp only [List.mem_cons, List.not_mem_nil, or_false] at hmem
  rcases hmem with rfl | rfl | rfl
  · exact absurd hname (by decide)
  · exact hnot
  · exact absurd hname (by decide)

/-- A bare text with an error: the only token is `pattern`, and `regex` is blamed. -/
theorem culprit_of_bare_bracket :
    Token.parse (some "pattern:[") = .ok [⟨"pattern", some "["⟩] ∧
      ¬ Builds .standard "string" "pattern:[" ∧
      ∃ refusal, Validator.build .standard (some "pattern:[") "string" =
        .error (.refused refusal) ∧ refusal.rule = some "regex" ∧
        refusal.rule ≠ some "pattern" := by
  have hbuild : Validator.build .standard (some "pattern:[") "string" =
      .error (.refused ⟨some "regex", .badPattern "[" ⟨.unterminatedSet, some 0⟩⟩) :=
    build_eq_error (by decide +kernel)
  exact ⟨by decide +kernel, by decide +kernel, _, hbuild, rfl, by decide⟩

end Tokens

end Rulebook
