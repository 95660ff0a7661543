/-
  A rule text is compiled segment by segment.

  A text makes a validator exactly if each of its segments does, taken for a rule text by itself:

      rules                   segments             makes a validator
      min:1||max:5            min:1, max:5         each does
      min:1||min              min:1, min           the second does not
      min:1||                 min:1, (empty)       nothing is named

  The empty text makes one too, but as a segment it names no rule.  So neither the order of the
  segments counts, nor what stands before one, nor how often it comes; and two texts can be put
  together, if the first does not end in a bar, which would go over to the separator:

      a || b         a  and   b
      a| || b        a  and  |b

  1. `Builds`, `builds_of_parse_iff`: the texts that make a validator, by their tokens;
  2. `NamesRule`, `builds_iff_namesRule`: the same by their segments;
  3. `builds_segment_iff`: a segment taken for a rule text;
  4. `builds_segmentwise`: whole texts.

  The crux is in what 1 rests on: the rule of a token is made from this token and the type, and
  folding it onto the rules before it does not fail.
-/
import Rulebook.Proofs.RuleOrder
import Rulebook.Proofs.RuleText

namespace Rulebook

open Rulebook.Text

/-- The segments of the text `rules`, as they stand between the separators. -/
def Token.segments (rules : String) : List String :=
  (splitOnPair Token.separator rules.toList).map String.ofList

/-- The text `rules` makes a validator for the type of this `name`. -/
def Validator.Builds (table : TypeTable) (name rules : String) : Prop :=
  ∃ v, Validator.build table (some rules) name = .ok v

instance (table : TypeTable) (name rules : String) :
    Decidable (Validator.Builds table name rules) :=
  decidable_of_iff ((Validator.build table (some rules) name).isOk = true) (by
    unfold Validator.Builds
    cases Validator.build table (some rules) name <;> simp [Except.isOk, Except.toBool])

namespace Tokens

open Validator (Builds)

variable {table : TypeTable} {type : BaseType} {name rules rules' : String} {ts : List Token}
  {seg : List Char}

/-! ## By tokens -/

theorem builds_iff :
    Builds table name rules ↔
      ∃ type ts, table.find? name = some type ∧ Token.parse (some rules) = .ok ts ∧
        ∀ t ∈ ts, ∃ r, Token.Means type t r := by
  unfold Builds
  simp only [build_eq_ok_iff, ← rulesOf_isOk_iff]
  constructor
  · rintro ⟨v, type, ts, rs, htype, hts, hrs, -⟩
    exact ⟨type, ts, htype, hts, rs, hrs⟩
  · rintro ⟨type, ts, htype, hts, rs, hrs⟩
    exact ⟨_, type, ts, rs, htype, hts, hrs, rfl⟩

/-- A text whose tokens `ts` are known makes a validator if each token makes a rule. -/
theorem builds_of_parse_iff (htype : table.find? name = some type)
    (hts : Token.parse (some rules) = .ok ts) :
    Builds table name rules ↔ ∀ t ∈ ts, ∃ r, Token.Means type t r := by
  rw [builds_iff, htype, hts]
  simp

/-! ## By segments -/

/-- The segment `seg` names a rule that the `type` has, with an argument that fits. -/
def NamesRule (type : BaseType) (seg : List Char) : Prop :=
  ∃ t r, Token.readChars? seg = some t ∧ Token.Means type t r

theorem not_namesRule_nil : ¬ NamesRule type [] := by
  rintro ⟨t, r, hread, -⟩
  cases hread

/-- **Whether a text makes a validator** is asked of its segments, one by one: each `NamesRule` of
    the type. -/
theorem builds_iff_namesRule (hrules : rules ≠ "") :
    Builds table name rules ↔
      ∃ type, table.find? name = some type ∧
        ∀ seg ∈ splitOnPair Token.separator rules.toList, NamesRule type seg := by
  simp only [builds_iff, Token.parse_eq_ok_iff hrules]
  constructor
  · rintro ⟨type, ts, htype, hread, hmeans⟩
    refine ⟨type, htype, ?_⟩
    intro seg hseg
    obtain ⟨t, ht, hsegment⟩ := exists_right_of_mem hread hseg
    obtain ⟨r, hr⟩ := hmeans t ht
    exact ⟨t, r, hsegment, hr⟩
  · rintro ⟨type, htype, hnames⟩
    obtain ⟨ts, hread⟩ := exists_forall₂_iff.2 fun seg hseg =>
      let ⟨t, _, ht, _⟩ := hnames seg hseg
      ⟨t, ht⟩
    refine ⟨type, ts, htype, hread, ?_⟩
    intro t ht
    obtain ⟨seg, hseg, hsegment⟩ := exists_left_of_mem hread ht
    obtain ⟨t', r, ht', hr⟩ := hnames seg hseg
    obtain rfl := Option.some.inj (hsegment.symm.trans ht')
    exact ⟨r, hr⟩

/-- A segment `seg` taken for a rule text has no segment but itself. -/
theorem builds_segment_iff (hseg : seg ∈ splitOnPair Token.separator rules.toList) :
    (String.ofList seg ≠ "" ∧ Builds table name (String.ofList seg)) ↔
      ∃ type, table.find? name = some type ∧ NamesRule type seg := by
  by_cases hempty : String.ofList seg = ""
  · obtain rfl := String.ofList_eq_empty_iff.1 hempty
    simp [not_namesRule_nil]
  · have hwhole : splitOnPair Token.separator seg = [seg] :=
      splitOnPair_of_no_pair ((cutParts_splitOnPair _ _).no_pair seg hseg)
    rw [builds_iff_namesRule hempty, String.toList_ofList, hwhole]
    simp [hempty]

/-! ## Whole texts -/

/-- The text `a` with the separator and the text `b` behind it makes a validator if both do. -/
theorem builds_append {a b : String} (ha : a ≠ "") (hb : b ≠ "")
    (hbar : a.toList.getLast? ≠ some Token.separator) :
    Builds table name (a ++ "||" ++ b) ↔ Builds table name a ∧ Builds table name b := by
  have hne : a ++ "||" ++ b ≠ "" := by simp [ha]
  simp only [builds_iff_namesRule hne, builds_iff_namesRule ha, builds_iff_namesRule hb,
    Token.segments_append hbar, List.forall_mem_append]
  cases table.find? name <;> simp

theorem builds_iff_segments (hrules : rules ≠ "") :
    Builds table name rules ↔
      ∀ seg ∈ Token.segments rules, seg ≠ "" ∧ Builds table name seg := by
  have hsegments : (∀ seg ∈ Token.segments rules, seg ≠ "" ∧ Builds table name seg) ↔
      ∀ seg ∈ splitOnPair Token.separator rules.toList,
        ∃ type, table.find? name = some type ∧ NamesRule type seg := by
    unfold Token.segments
    rw [List.forall_mem_map]
    exact forall₂_congr fun seg hseg => builds_segment_iff hseg
  rw [hsegments, builds_iff_namesRule hrules]
  constructor
  · rintro ⟨type, htype, hnames⟩ seg hseg
    exact ⟨type, htype, hnames seg hseg⟩
  · intro h
    -- there is a segment, so there is a type of the name
    obtain ⟨first, hfirst⟩ :=
      List.exists_mem_of_ne_nil _ (splitOnPair_ne_nil Token.separator rules.toList)
    obtain ⟨type, htype, -⟩ := h first hfirst
    refine ⟨type, htype, ?_⟩
    intro seg hseg
    obtain ⟨type', htype', hnames⟩ := h seg hseg
    obtain rfl := Option.some.inj (htype.symm.trans htype')
    exact hnames

/-- **Rule texts are compiled segment by segment**, for every `name` of a type.  A text put
    together of `a` and `b` with the separator makes a validator exactly if both do, where `a` does
    not end in a bar.  A text makes one exactly if each of its `segments` does by itself, and none
    is empty.  So `rules` and `rules'` with the same segments, in any order and however often they
    come, make one or none. -/
theorem builds_segmentwise :
    (∀ a b, a ≠ "" → b ≠ "" → a.toList.getLast? ≠ some '|' →
      (Builds table name (a ++ "||" ++ b) ↔ Builds table name a ∧ Builds table name b)) ∧
    (∀ rules, rules ≠ "" →
      (Builds table name rules ↔
        ∀ seg ∈ Token.segments rules, seg ≠ "" ∧ Builds table name seg)) ∧
    ∀ rules rules', rules ≠ "" → rules' ≠ "" →
      (∀ seg, seg ∈ Token.segments rules ↔ seg ∈ Token.segments rules') →
        (Builds table name rules ↔ Builds table name rules') := by
  refine ⟨fun a b => builds_append, fun rules => builds_iff_segments, ?_⟩
  intro rules rules' hrules hrules' hsame
  simp only [builds_iff_segments hrules, builds_iff_segments hrules', hsame]

/-- Bars at the front of the second text stay there.  One at the end of the first goes over to the
    second, and then that names no rule. -/
theorem builds_barred_texts :
    Builds .standard "string" ("trim||min:3" ++ "||" ++ "valid:|a|") ∧
      Builds .standard "string" "valid:a|" ∧ Builds .standard "string" "trim" ∧
      ¬ Builds .standard "string" ("valid:a|" ++ "||" ++ "trim") := by
  have hfirst : Builds .standard "string" "trim||min:3" := by decide +kernel
  have hsecond : Builds .standard "string" "valid:|a|" := by decide +kernel
  have hbar : "trim||min:3".toList.getLast? ≠ some '|' := by decide +kernel
  refine ⟨?_, by decide +kernel, by decide +kernel, by decide +kernel⟩
  exact (builds_segmentwise.1 _ _ (by decide) (by decide) hbar).2 ⟨hfirst, hsecond⟩

end Tokens

end Rulebook
