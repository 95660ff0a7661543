/-
  One more allowed value.

  An `allow` behind a rule text lets one more value pass, and no other.  The value is looked for in
  three places, and each of them comes before something that would reject it:

      as it is            before the conversion       `allow:n/a`             n/a, for numbers
      the empty text      inside the conversion       `trim||allow`           blanks, for texts
      as converted        before all that is left     `allow:7||multiple:2`   7.0 as a text

  1. `Allows`: the texts that allow a value;
  2. `Becomes`: what a type makes of a value, where an empty text is as good as any other;
  3. `convert_add_allow_iff`, `judgeConverted_add_allow`: the second place and the third;
  4. `accepts_allow_iff`: whole rule texts.

  What has to be there, and what must not be there, is not made up for by an `allow`.
-/
import Rulebook.Proofs.Conjunction

namespace Rulebook

open Rulebook.Text Rulebook.Number

namespace Tokens

variable {type : BaseType} {ts : List Token} {v : Validator} {label allowing : String}
  {a x y : Value}

/-! ## Texts that allow a value -/

/-- The text is one `allow`: alone it allows the empty text, and with an argument `raw` the text,
    number or flag that is read from it. -/
inductive Allows : String → Value → Prop
  | alone {allowing : String} :
    Token.parse (some allowing) = .ok [⟨"allow", none⟩] → Allows allowing (.text "")
  | argument {allowing raw : String} {a : Value} :
    Token.parse (some allowing) = .ok [⟨"allow", some raw⟩] →
    Argument.read raw (some "allow") = .ok a → scalars.any (·.holds a) = true → Allows allowing a

/-- A text that allows `a` makes this rule for every type. -/
theorem Allows.makesRules (h : Allows allowing a) : MakesRules type allowing [.allow a] := by
  cases h with
  | alone hparse =>
    exact ⟨_, hparse, rulesOf_eq_ok_iff.2 (.cons (.made rfl .allowEmpty) .nil)⟩
  | argument hparse hread hscalar =>
    have hmeans : Token.Means type _ (.allow a) :=
      .made (Token.value_of_read hread) (.allow hscalar)
    exact ⟨_, hparse, rulesOf_eq_ok_iff.2 (.cons hmeans .nil)⟩

theorem Allows.ne_empty (h : Allows allowing a) : allowing ≠ "" := by
  rintro rfl
  cases h with
  | alone hparse => cases hparse
  | argument hparse _ _ => cases hparse

/-! ## Conversion -/

/-- What a type makes of a value when the empty text does not count as a fault. -/
inductive Becomes (ts : List Token) (label : String) : BaseType → Value → Value → Prop
  | text {s : String} : Becomes ts label .text (.text s) (.text (stripped ts s))
  | other {type : BaseType} {x y : Value} :
    type ≠ .text → Converts ts label type x (.ok y) → Becomes ts label type x y

theorem becomes_of_converts (h : Converts ts label type x (.ok y)) :
    Becomes ts label type x y := by
  by_cases htype : type = .text
  · obtain rfl := htype
    cases h with
    | text _ => exact .text
  · exact .other htype h

theorem becomes_text_iff {s : String} :
    Becomes ts label .text (.text s) y ↔ .text (stripped ts s) = y := by
  constructor
  · rintro (_ | ⟨hne, -⟩)
    · rfl
    · exact absurd rfl hne
  · rintro rfl
    exact .text

/-- What the text `s` is converted to: it is `s` without its blanks, if that is not empty or the
    empty text is allowed. -/
theorem convertText_eq_ok_iff {s : String} (htrim : v.trim = mentions "trim" ts) :
    v.convertText label (.text s) = .ok y ↔
      (stripped ts s = "" → Value.member v.allowed (.text "") = true) ∧
        .text (stripped ts s) = y := by
  have hstripped : (if v.trim then strip s else s) = stripped ts s := by
    rw [htrim]
    rfl
  simp only [Validator.convertText, hstripped]
  by_cases hempty : stripped ts s = ""
  · cases Value.member v.allowed (.text "") <;> simp [hempty]
  · simp [hempty]

theorem member_add_allow :
    Value.member (v.add (.allow a)).allowed y = (Value.member v.allowed y || a.agrees y) := by
  simp [Validator.add, Value.member]

theorem convertText_add_allow_iff (hv : Gathered .text ts v) :
    (v.add (.allow a)).convertText label x = .ok y ↔
      v.convertText label x = .ok y ∨ (a.agrees y = true ∧ Becomes ts label .text x y) := by
  cases x with
  | text s =>
    have htrim : (v.add (.allow a)).trim = mentions "trim" ts := hv.trim_eq
    rw [convertText_eq_ok_iff hv.trim_eq, convertText_eq_ok_iff htrim, member_add_allow,
      becomes_text_iff, Bool.or_eq_true]
    constructor
    · rintro ⟨hempty, rfl⟩
      by_cases hs : stripped ts s = ""
      · rcases hempty hs with hmember | hagrees
        · exact .inl ⟨fun _ => hmember, rfl⟩
        · exact .inr ⟨hs ▸ hagrees, rfl⟩
      · exact .inl ⟨fun h => absurd h hs, rfl⟩
    · rintro (⟨hempty, rfl⟩ | ⟨hagrees, rfl⟩)
      · exact ⟨fun hs => .inl (hempty hs), rfl⟩
      · exact ⟨fun hs => .inr (hs ▸ hagrees), rfl⟩
  | _ =>
    -- nothing but a text is converted to one
    constructor
    · intro h
      cases h
    · rintro (h | ⟨-, h⟩)
      · cases h
      · cases h with
        | other hne _ => exact absurd rfl hne

/-- Types other than texts do not look at what is allowed when they convert. -/
theorem convert_add_allow_of_ne (htype : v.type ≠ .text) :
    (v.add (.allow a)).convert label x = v.convert label x := by
  have hsame : (v.add (.allow a)).type = v.type := rfl
  unfold Validator.convert
  rw [hsame]
  cases hv : v.type with
  | text => exact absurd hv htype
  | _ => rfl

/-- **The conversion** gives what it gave, and besides that an empty text if this is the one that
    `a` allows. -/
theorem convert_add_allow_iff (hv : Gathered type ts v) :
    (v.add (.allow a)).convert label x = .ok (.ok y) ↔
      v.convert label x = .ok (.ok y) ∨ (a.agrees y = true ∧ Becomes ts label type x y) := by
  by_cases htype : type = .text
  · obtain rfl := htype
    have hadd : (v.add (.allow a)).type = .text := hv.type_eq
    rw [convert_of_text hv.type_eq, convert_of_text hadd, Except.ok.injEq, Except.ok.injEq,
      convertText_add_allow_iff hv]
  · have hne : v.type ≠ .text := by rwa [hv.type_eq]
    rw [convert_add_allow_of_ne hne]
    constructor
    · exact .inl
    · rintro (h | ⟨-, h⟩)
      · exact h
      · cases h with
        | text => exact absurd rfl htype
        | other _ hconverts => exact (convert_eq_ok_iff hv).2 hconverts

/-! ## Judgements -/

/-- **Behind the conversion** the value `y` passes if `a` agrees with it, and all others are judged
    as before. -/
theorem judgeConverted_add_allow :
    (v.add (.allow a)).judgeConverted label y =
      if a.agrees y then .ok none else v.judgeConverted label y := by
  unfold Validator.judgeConverted
  rw [member_add_allow]
  cases Value.member v.allowed y <;> cases a.agrees y <;> rfl

/-- One more allowed value `a` in the validator `v`: what is accepted then. -/
theorem accepts_add_allow_iff (hv : Gathered type ts v) :
    (v.add (.allow a)).judge label x = .ok none ↔
      v.judge label x = .ok none ∨ (x ≠ .null ∧ mentions "forbidden" ts = false ∧
        (a.agrees x = true ∨ ∃ y, Becomes ts label type x y ∧ a.agrees y = true)) := by
  by_cases hx : x = .null
  · obtain rfl := hx
    have habsent : (v.add (.allow a)).judge label .null = v.judge label .null := rfl
    simp [habsent]
  rw [← hv.forbidden_eq]
  by_cases hforbidden : v.forbidden = true
  · have hforbidden' : (v.add (.allow a)).forbidden = true := hforbidden
    rw [judge_of_present hx, judge_of_present hx, if_pos hforbidden, if_pos hforbidden']
    simp [hforbidden]
  rw [Bool.not_eq_true] at hforbidden
  have hforbidden' : (v.add (.allow a)).forbidden = false := hforbidden
  rw [accepts_of_present_iff hx hforbidden, accepts_of_present_iff hx hforbidden', member_add_allow,
    Bool.or_eq_true]
  simp only [convert_add_allow_iff hv, judgeConverted_add_allow]
  constructor
  · rintro ((hmember | hagrees) | ⟨y, hy | ⟨hagrees, hbecomes⟩, hjudge⟩)
    · exact .inl (.inl hmember)
    · exact .inr ⟨hx, hforbidden, .inl hagrees⟩
    · by_cases hagrees : a.agrees y = true
      · have hbecomes := becomes_of_converts ((convert_eq_ok_iff hv).1 hy)
        exact .inr ⟨hx, hforbidden, .inr ⟨y, hbecomes, hagrees⟩⟩
      · rw [if_neg hagrees] at hjudge
        exact .inl (.inr ⟨y, hy, hjudge⟩)
    · exact .inr ⟨hx, hforbidden, .inr ⟨y, hbecomes, hagrees⟩⟩
  · rintro ((hmember | ⟨y, hy, hjudge⟩) | ⟨-, -, hagrees | ⟨y, hbecomes, hagrees⟩⟩)
    · exact .inl (.inl hmember)
    · exact .inr ⟨y, .inl hy, by rw [hjudge, ite_self]⟩
    · exact .inl (.inr hagrees)
    · exact .inr ⟨y, .inr ⟨hagrees, hbecomes⟩, if_pos hagrees⟩

/-- **An `allow` lets its own value pass and no other.** A text `rules` that makes a validator `v`
    makes a validator `w` with an `allow` of `a` behind it, too.  That one accepts what `v`
    accepts, and besides it exactly the values `x` that are there, are not forbidden, and agree
    with `a` as they are or as what the type makes of them (`Becomes`); flags agree with flags
    only.  This is so also where one of the two has no answer. -/
theorem accepts_allow_iff {table : TypeTable} {name rules : String}
    (htype : table.find? name = some type) (hparse : Token.parse (some rules) = .ok ts)
    (hbuild : Validator.build table (some rules) name = .ok v) (hrules : rules ≠ "")
    (hbar : rules.toList.getLast? ≠ some '|') (hallows : Allows allowing a) :
    ∃ w, Validator.build table (some (rules ++ "||" ++ allowing)) name = .ok w ∧
      ∀ label x, w.judge label x = .ok none ↔
        v.judge label x = .ok none ∨ (x ≠ .null ∧ mentions "forbidden" ts = false ∧
          (a.agrees x = true ∨ ∃ y, Becomes ts label type x y ∧ a.agrees y = true)) := by
  obtain ⟨type', ts', rs, htype', hparse', hrs, rfl⟩ := build_eq_ok_iff.1 hbuild
  obtain rfl : type = type' := Option.some.inj (htype.symm.trans htype')
  obtain rfl : ts = ts' := Except.ok.inj (hparse.symm.trans hparse')
  have hmakes : MakesRules type rules rs := ⟨ts, hparse, hrs⟩
  refine ⟨_, (hmakes.append hallows.makesRules hrules hallows.ne_empty hbar).build htype,
    fun label x => ?_⟩
  rw [Validator.ofRules_append]
  exact accepts_add_allow_iff (gathered_of_rulesOf hrs)

/-- Blanks alone become the empty text, which passes although it has less than three characters. -/
theorem accepts_allow_of_blanks :
    ∃ v w, Validator.build .standard (some "trim||min:3") "string" = .ok v ∧
      Validator.build .standard (some ("trim||min:3" ++ "||" ++ "allow")) "string" = .ok w ∧
      v.judge "Name" (.text "  ") =
        .ok (some ⟨"string.empty", labelled "Name" "is not allowed to be empty"⟩) ∧
      w.judge "Name" (.text "  ") = .ok none := by
  have hjudge : ((Validator.build .standard (some "trim||min:3") "string").bind
      fun v => v.judge "Name" (.text "  ")) =
        .ok (some ⟨"string.empty", labelled "Name" "is not allowed to be empty"⟩) := by
    decide +kernel
  obtain ⟨v, hbuild, hjudge⟩ := exists_build_of_bind hjudge
  have htype : TypeTable.standard.find? "string" = some .text := rfl
  have hparse : Token.parse (some "trim||min:3") = .ok [⟨"trim", none⟩, ⟨"min", some "3"⟩] := by
    decide
  have hallows : Allows "allow" (.text "") := .alone (by decide)
  obtain ⟨w, hbuild', hiff⟩ :=
    accepts_allow_iff htype hparse hbuild (by decide) (by decide) hallows
  refine ⟨v, w, hbuild, hbuild', hjudge, (hiff _ _).2 (.inr ⟨by simp, by decide, .inr ?_⟩)⟩
  exact ⟨_, .text, by decide +kernel⟩

end Tokens

end Rulebook
