/-
  Checks without an outcome.

  A violation is an outcome, not a fault.  But there are values for which a check comes to neither
  passing nor violation:

      uri                      an authority that is refused as such
      multiple, precision      a whole number that cannot be written
      multiple                 a quotient that does not fit
      custom_list              a value that cannot be written

  1. `Net.Uri.Refused`, `isUri_isError_iff`: the addresses without an answer;
  2. `Decimal.Outgrows`, `isMultiple_eq_none_iff`: the quotients that do not fit;
  3. `Written`, `Token.Means.written`: what tokens ask for can be written, so that no message fails;
  4. `Overtaxed`, `apply_isError_iff`: the checks without an outcome, for which values;
  5. `Fault.OfValue`: the faults that come out of a check, whatever it asks for.

  The crux is 3: it is what leaves the value alone to blame, never the rules.
-/
import Rulebook.Proofs.Reading
import Rulebook.Proofs.Writing

namespace Rulebook

open Rulebook.Text Rulebook.Number Tokens

namespace Net.Uri

/-! ## Addresses -/

/-- The authority of `text`, if two slashes begin one. -/
def authority? (text : List Char) : Option (List Char) :=
  match (splitScheme (clean text)).2 with
  | '/' :: '/' :: rest => some (rest.takeWhile fun c => !isAuthorityEnd c)
  | _ => none

/-- An `authority` that is refused: one bracket without the other, no address between the two, or a
    character that decomposes into a separator. -/
inductive Refused (authority : List Char) : Prop
  | unpaired : ¬('[' ∈ authority ↔ ']' ∈ authority) → Refused authority
  | bracketed {e : Fault} :
    '[' ∈ authority → checkBrackets authority = .error e → Refused authority
  | lookalike {c : Char} : c ∈ authority → c.toNat ∈ separatorLookalikes → Refused authority

theorem checkLookalikes_isError_iff {a : List Char} :
    (∃ e, checkLookalikes a = .error e) ↔ ∃ c ∈ a, c.toNat ∈ separatorLookalikes := by
  have hany : (a.any fun c => separatorLookalikes.contains c.toNat) = true ↔
      ∃ c ∈ a, c.toNat ∈ separatorLookalikes := by
    rw [List.any_eq_true]
    simp only [List.contains_iff_mem]
  unfold checkLookalikes
  by_cases h : (a.any fun c => separatorLookalikes.contains c.toNat) = true
  · rw [if_pos h]
    exact ⟨fun _ => hany.1 h, fun _ => ⟨_, rfl⟩⟩
  · rw [if_neg h]
    constructor
    · rintro ⟨e, he⟩
      cases he
    · intro hc
      exact absurd (hany.2 hc) h

/-- Behind two slashes the authority `a` is refused for its brackets, or cut out as it stands. -/
theorem splitAuthority_slashes {rest a : List Char}
    (ha : (rest.takeWhile fun c => !isAuthorityEnd c) = a) :
    ((∃ e, splitAuthority ('/' :: '/' :: rest) = .error e) ∧
        (¬('[' ∈ a ↔ ']' ∈ a) ∨ '[' ∈ a ∧ ∃ e, checkBrackets a = .error e)) ∨
      ((∃ path, splitAuthority ('/' :: '/' :: rest) = .ok (a, path)) ∧
        ('[' ∈ a ↔ ']' ∈ a) ∧ ('[' ∈ a → checkBrackets a = .ok ())) := by
  have hunpaired : (a.contains '[' != a.contains ']') = true ↔ ¬('[' ∈ a ↔ ']' ∈ a) := by
    rw [bne_iff_ne, ne_eq, Bool.eq_iff_iff, List.contains_iff_mem, List.contains_iff_mem]
  simp only [splitAuthority, ha, hunpaired, List.contains_iff_mem]
  by_cases hpair : '[' ∈ a ↔ ']' ∈ a
  · rw [if_neg (not_not.2 hpair)]
    by_cases hb : '[' ∈ a
    · rw [if_pos hb]
      cases hc : checkBrackets a with
      | ok _ => exact .inr ⟨⟨_, rfl⟩, hpair, fun _ => rfl⟩
      | error e => exact .inl ⟨⟨e, rfl⟩, .inr ⟨hb, e, rfl⟩⟩
    · rw [if_neg hb]
      exact .inr ⟨⟨_, rfl⟩, hpair, fun h => absurd h hb⟩
  · rw [if_pos hpair]
    exact .inl ⟨⟨_, rfl⟩, .inl hpair⟩

/-- Where no two slashes stand in front of `cs` there is no authority, and nothing to refuse. -/
theorem splitAuthority_of_no_slashes {cs : List Char} (h : ∀ rest, cs ≠ '/' :: '/' :: rest) :
    splitAuthority cs = .ok ([], cs) := by
  unfold splitAuthority
  split
  · rename_i rest
    exact absurd rfl (h rest)
  · rfl

theorem splitAuthority_of_authority?_eq_none {text : List Char} (h : authority? text = none) :
    ∃ path, splitAuthority (splitScheme (clean text)).2 = .ok ([], path) := by
  unfold authority? at h
  split at h
  · cases h
  · rename_i hno
    exact ⟨_, splitAuthority_of_no_slashes fun rest hrest => hno rest hrest⟩

theorem split_isError_of_splitAuthority {text : List Char}
    (h : ∃ e, splitAuthority (splitScheme (clean text)).2 = .error e) :
    ∃ e, split text = .error e := by
  obtain ⟨e, he⟩ := h
  exact ⟨e, by simp [split, bind, Except.bind, he]⟩

theorem split_isError_of_checkLookalikes {text a path : List Char}
    (h : splitAuthority (splitScheme (clean text)).2 = .ok (a, path)) :
    (∃ e, split text = .error e) ↔ ∃ c ∈ a, c.toNat ∈ separatorLookalikes := by
  rw [← checkLookalikes_isError_iff]
  unfold split
  simp only [bind, Except.bind, h]
  cases checkLookalikes a <;> simp [pure, Except.pure]

/-- A `text` that `split` does not take apart has an authority that is `Refused`, and the other way
    round. -/
theorem split_isError_iff {text : List Char} :
    (∃ e, split text = .error e) ↔ ∃ a, authority? text = some a ∧ Refused a := by
  cases hauthority : authority? text with
  | none =>
    -- without an authority the only thing to refuse would be a lookalike in the empty one
    obtain ⟨path, hpath⟩ := splitAuthority_of_authority?_eq_none hauthority
    rw [split_isError_of_checkLookalikes hpath]
    simp
  | some a =>
    obtain ⟨rest, hrest, ha⟩ : ∃ rest, (splitScheme (clean text)).2 = '/' :: '/' :: rest ∧
        (rest.takeWhile fun c => !isAuthorityEnd c) = a := by
      unfold authority? at hauthority
      split at hauthority
      · rename_i rest hrest
        exact ⟨rest, hrest, Option.some.inj hauthority⟩
      · cases hauthority
    rcases splitAuthority_slashes ha with ⟨herror, hwhy⟩ | ⟨⟨path, hpath⟩, hpair, hbrackets⟩
    · rw [← hrest] at herror
      refine ⟨fun _ => ⟨a, rfl, ?_⟩, fun _ => split_isError_of_splitAuthority herror⟩
      rcases hwhy with hpair | ⟨hb, e, he⟩
      · exact .unpaired hpair
      · exact .bracketed hb he
    · -- the brackets are in order, so that only a lookalike is left to refuse
      rw [← hrest] at hpath
      rw [split_isError_of_checkLookalikes hpath]
      constructor
      · rintro ⟨c, hc, hlook⟩
        exact ⟨a, rfl, .lookalike hc hlook⟩
      · rintro ⟨_, h, hrefused⟩
        obtain rfl := Option.some.inj h
        cases hrefused with
        | unpaired h => exact absurd hpair h
        | bracketed hb he => cases (hbrackets hb).symm.trans he
        | lookalike hc hlook => exact ⟨_, hc, hlook⟩

theorem isUri_isError_iff {text : List Char} :
    (∃ e, isUri text = .error e) ↔
      text.any isBlank = false ∧ ∃ a, authority? text = some a ∧ Refused a := by
  rw [← split_isError_iff]
  unfold isUri
  by_cases h : text.any isBlank = true
  · simp [h]
  · rw [if_neg h]
    rw [Bool.not_eq_true] at h
    simp only [bind, Except.bind]
    cases split text <;> simp [h, pure, Except.pure]

end Net.Uri

namespace Number.Decimal

/-! ## Quotients -/

/-- The decimal `d` is at least 10^28 times the `base`. -/
def Outgrows (d : Decimal) (base : Nat) : Prop :=
  tenTo precision * (base * tenTo (-d.exponent).toNat) ≤ d.coefficient * tenTo d.exponent.toNat

theorem isMultiple_eq_none_iff {d : Decimal} {b : Int} (hb : 0 < b) :
    isMultiple d (ofInt b) = none ↔ d.Outgrows b.natAbs := by
  have hvalue : (d.exponent - min d.exponent 0).toNat = d.exponent.toNat := by omega
  have hbase : ((0 : Int) - min d.exponent 0).toNat = (-d.exponent).toNat := by omega
  have hpos : 0 < b.natAbs * tenTo (-d.exponent).toNat :=
    Nat.mul_pos (by omega) (tenTo_pos _)
  -- the base has exponent zero, so of the two only one is scaled
  unfold isMultiple Outgrows
  simp only [scaled, ofInt, hvalue, hbase]
  rw [← Nat.le_div_iff_mul_le hpos]
  split <;> simp_all

end Number.Decimal

/-! ## What tokens ask for -/

theorem Token.value_isArgument {t : Token} {v : Value} (h : t.value = .ok (some v)) :
    v.IsArgument := by
  unfold Token.value at h
  split at h
  · cases h
  · split at h
    · rename_i hread
      obtain rfl := Option.some.inj (Except.ok.inj h)
      exact Argument.read_isArgument hread
    · cases h

/-- The number `q` that an argument `v` is, is a whole one, and a short one. -/
theorem Value.IsArgument.quantity {v : Value} {q : Quantity} (h : v.IsArgument)
    (hq : Check.quantity? v = some q) :
    ∃ n, q = .whole n ∧ n.natAbs < tenTo Argument.digitLimit := by
  cases h with
  | int hn => exact ⟨_, (Option.some.inj hq).symm, hn⟩
  | _ => cases hq

namespace Check

/-- What a check asks for can be written, and the base of multiples is a positive whole number. -/
inductive Written : Check → Prop
  | atLeast {n : Int} : n.natAbs < tenTo Argument.digitLimit → Written (.text (.atLeast n))
  | atMost {n : Int} : n.natAbs < tenTo Argument.digitLimit → Written (.text (.atMost n))
  | exactly {n : Int} : n.natAbs < tenTo Argument.digitLimit → Written (.text (.exactly n))
  | pattern (p : Pattern) : Written (.text (.pattern p))
  | form (f : TextForm) : Written (.text (.form f))
  | compare (c : Comparison) {n : Int} :
    n.natAbs < tenTo Argument.digitLimit → Written (.number (.compare c (.whole n)))
  | integer : Written (.number .integer)
  | positive : Written (.number .positive)
  | negative : Written (.number .negative)
  | multiple {n : Int} :
    0 < n → n.natAbs < tenTo Argument.digitLimit → Written (.number (.multiple (.whole n)))
  | precision {n : Int} :
    n.natAbs < tenTo Argument.digitLimit → Written (.number (.precision n))
  | port : Written (.number .port)
  | value (c : ValueCheck) : Written (.value c)

end Check

/-- What a rule asks for can be written, if it is a check. -/
def Rule.Written : Rule → Prop
  | .check c => c.Written
  | _ => True

/-- **What tokens ask for can be written**: every rule `r` that a token means is `Written`. -/
theorem Token.Means.written {type : BaseType} {t : Token} {r : Rule} (h : Token.Means type t r) :
    r.Written := by
  cases h with
  | made hval hm =>
    generalize t.name = name at hm
    cases hm with
    | atLeast _ =>
      cases Token.value_isArgument hval with
      | int hn => exact .atLeast hn
    | atMost _ =>
      cases Token.value_isArgument hval with
      | int hn => exact .atMost hn
    | exactly _ =>
      cases Token.value_isArgument hval with
      | int hn => exact .exactly hn
    | pattern _ => exact Check.Written.pattern _
    | patternText _ _ => exact Check.Written.pattern _
    | form f => exact Check.Written.form f
    | compare k hq =>
      obtain ⟨n, rfl, hn⟩ := (Token.value_isArgument hval).quantity hq
      exact Check.Written.compare k hn
    | integer => exact Check.Written.integer
    | positive => exact Check.Written.positive
    | negative => exact Check.Written.negative
    | multiple hq hpos =>
      obtain ⟨n, rfl, hn⟩ := (Token.value_isArgument hval).quantity hq
      rw [Quantity.le_whole, decide_eq_false_iff_not] at hpos
      have hbase : 0 < n := by omega
      exact Check.Written.multiple hbase hn
    | precision _ =>
      cases Token.value_isArgument hval with
      | int hn => exact .precision hn
    | port => exact Check.Written.port
    | _ => trivial
  | _ => exact Check.Written.value _

namespace Check

/-! ## Checks without an outcome -/

/-- A check that has no outcome for a value. -/
inductive Overtaxed : Check → Value → Prop
  | address {s : String} {authority : List Char} :
    s.toList.any isBlank = false → Net.Uri.authority? s.toList = some authority →
    Net.Uri.Refused authority → Overtaxed (.text (.form .uri)) (.text s)
  | multipleOfLong {base : Quantity} {n : Int} :
    tenTo Whole.digitLimit ≤ n.natAbs → Overtaxed (.number (.multiple base)) (.int n)
  | quotient {base : Int} {v : Value} {q : Quantity} {d : Decimal} :
    quantity? v = some q → q.decimal? = .ok (some d) → d.Outgrows base.natAbs →
      Overtaxed (.number (.multiple (.whole base))) v
  | placesOfLong {places n : Int} :
    tenTo Whole.digitLimit ≤ n.natAbs → Overtaxed (.number (.precision places)) (.int n)
  | members {allowed : List String} {v : Value} :
    v.HoldsLong → Overtaxed (.value (.members allowed)) v

/-- A number `n` that is short enough to be written has a text. -/
theorem text_isOk {n : Int} (hn : n.natAbs < tenTo Whole.digitLimit) :
    ∃ s, Whole.text n = .ok s := by
  cases h : Whole.text n with
  | ok s => exact ⟨s, rfl⟩
  | error e => exact absurd (Whole.text_isError_iff.1 ⟨e, h⟩) (Nat.not_le.2 hn)

/-- A number `n` that is short enough for an argument has a text. -/
theorem text_isOk_of_argument {n : Int} (hn : n.natAbs < tenTo Argument.digitLimit) :
    ∃ s, Whole.text n = .ok s :=
  text_isOk (Nat.not_le.1 (Value.lt_digitLimit hn))

theorem lengthViolation_isOk {n : Int} (hn : n.natAbs < tenTo Argument.digitLimit)
    (kind label demand : String) :
    ∃ o, TextCheck.lengthViolation kind label demand n = .ok o := by
  obtain ⟨s, hs⟩ := text_isOk_of_argument hn
  unfold TextCheck.lengthViolation
  rw [hs]
  exact ⟨_, rfl⟩

theorem limitViolation_isOk {n : Int} (hn : n.natAbs < tenTo Argument.digitLimit)
    (kind label demand rest : String) :
    ∃ o, NumberCheck.limitViolation kind label demand (.whole n) rest = .ok o := by
  obtain ⟨s, hs⟩ := text_isOk_of_argument hn
  dsimp only [NumberCheck.limitViolation, Quantity.text]
  rw [hs]
  exact ⟨_, rfl⟩

/-- Only for a long `int` is there no telling which decimal the number `q` of `v` is. -/
theorem decimal?_isError_iff {v : Value} {q : Quantity} (hq : quantity? v = some q) :
    (∃ e, q.decimal? = .error e) ↔ ∃ n, v = .int n ∧ tenTo Whole.digitLimit ≤ n.natAbs := by
  cases v with
  | int n =>
    obtain rfl := Option.some.inj hq
    have hdecimal : (∃ e, (Quantity.whole n).decimal? = .error e) ↔
        ∃ e, Whole.text n = .error e := by
      dsimp only [Quantity.decimal?]
      cases Whole.text n <;> simp
    rw [hdecimal, Whole.text_isError_iff]
    constructor
    · intro hn
      exact ⟨n, rfl, hn⟩
    · rintro ⟨m, hm, hn⟩
      obtain rfl := Value.int.inj hm
      exact hn
  | float d =>
    obtain rfl := Option.some.inj hq
    constructor
    · rintro ⟨e, he⟩
      cases d <;> cases he
    · rintro ⟨n, hn, -⟩
      cases hn
  | _ => cases hq

/-- A short whole number `n` is the decimal that it is written as. -/
theorem decimal?_whole {n : Int} (hn : n.natAbs < tenTo Whole.digitLimit) :
    (Quantity.whole n).decimal? = .ok (some (.ofInt n)) := by
  obtain ⟨s, hs⟩ := text_isOk hn
  dsimp only [Quantity.decimal?]
  rw [hs]

theorem isMultiple_isError_iff {q : Quantity} {base : Int} (hpos : 0 < base)
    (hbase : base.natAbs < tenTo Argument.digitLimit) :
    (∃ e, NumberCheck.isMultiple q (.whole base) = .error e) ↔
      (∃ e, q.decimal? = .error e) ∨
        ∃ d, q.decimal? = .ok (some d) ∧ d.Outgrows base.natAbs := by
  unfold NumberCheck.isMultiple
  rw [decimal?_whole (Nat.not_le.1 (Value.lt_digitLimit hbase))]
  cases hq : q.decimal? with
  | error e => simp
  | ok o =>
    cases o with
    | none => simp
    | some d =>
      simp only [reduceCtorEq, exists_false, false_or, Except.ok.injEq, Option.some.injEq,
        exists_eq_left']
      rw [← Decimal.isMultiple_eq_none_iff hpos]
      cases hm : Decimal.isMultiple d (.ofInt base) <;> simp

/-- The check on multiples of `base` has no outcome for `q` if there is no telling whether `q` is
    one. -/
theorem apply_multiple_isError_iff {label : String} {q : Quantity} {base : Int}
    (hbase : base.natAbs < tenTo Argument.digitLimit) :
    (∃ e, (NumberCheck.multiple (.whole base)).apply label q = .error e) ↔
      ∃ e, NumberCheck.isMultiple q (.whole base) = .error e := by
  obtain ⟨o, ho⟩ := limitViolation_isOk hbase "number.multiple" label "must be a multiple of " ""
  dsimp only [NumberCheck.apply]
  cases h : NumberCheck.isMultiple q (.whole base) with
  | error e => simp
  | ok b => cases b <;> simp [ho]

theorem apply_precision_isError_iff {label : String} {q : Quantity} {places : Int}
    (hplaces : places.natAbs < tenTo Argument.digitLimit) :
    (∃ e, (NumberCheck.precision places).apply label q = .error e) ↔
      ∃ e, q.decimal? = .error e := by
  obtain ⟨o, ho⟩ := limitViolation_isOk hplaces "number.precision" label
    "must have no more than " " decimal places"
  dsimp only [NumberCheck.apply]
  cases h : q.decimal? with
  | error e => simp
  | ok d =>
    cases d with
    | none => simp
    | some d =>
      simp only [reduceCtorEq, exists_false, iff_false, not_exists]
      intro e
      split
      · rw [ho]
        simp
      · simp

theorem foreignParts_isError_iff (allowed : List String) {v : Value} :
    (∃ e, ValueCheck.foreignParts allowed v = .error e) ↔ v.HoldsLong := by
  rw [← Value.asText_isError_iff]
  unfold ValueCheck.foreignParts
  cases v.asText <;> simp

theorem apply_members_isError_iff {allowed : List String} {v : Value} :
    (∃ e, (ValueCheck.members allowed).apply v = .error e) ↔ v.HoldsLong := by
  rw [← foreignParts_isError_iff allowed]
  dsimp only [ValueCheck.apply]
  cases ValueCheck.foreignParts allowed v with
  | error e => simp
  | ok foreign => cases foreign <;> simp

theorem apply_uri_isError_iff {label s : String} :
    (∃ e, (TextCheck.form .uri).apply label s = .error e) ↔
      s.toList.any isBlank = false ∧
        ∃ a, Net.Uri.authority? s.toList = some a ∧ Net.Uri.Refused a := by
  rw [← Net.Uri.isUri_isError_iff]
  unfold TextCheck.apply TextForm.holds
  cases Net.Uri.isUri s.toList with
  | error e => simp
  | ok b => cases b <;> simp

/-- Of the checks on texts only `uri` can be without an outcome. -/
theorem apply_text_isOk {c : TextCheck} (hwritten : Written (.text c)) (hc : c ≠ .form .uri)
    (label s : String) : ∃ o, c.apply label s = .ok o := by
  cases hwritten with
  | atLeast hn =>
    dsimp only [TextCheck.apply]
    split
    · exact lengthViolation_isOk hn _ _ _
    · exact ⟨none, rfl⟩
  | atMost hn =>
    dsimp only [TextCheck.apply]
    split
    · exact lengthViolation_isOk hn _ _ _
    · exact ⟨none, rfl⟩
  | exactly hn =>
    dsimp only [TextCheck.apply]
    split
    · exact ⟨none, rfl⟩
    · exact lengthViolation_isOk hn _ _ _
  | pattern p =>
    dsimp only [TextCheck.apply]
    split <;> exact ⟨_, rfl⟩
  | form f =>
    have hholds : ∃ b, f.holds s.toList = .ok b := by
      cases f with
      | uri => exact absurd rfl hc
      | _ => exact ⟨_, rfl⟩
    obtain ⟨b, hb⟩ := hholds
    dsimp only [TextCheck.apply]
    rw [hb]
    cases b <;> exact ⟨_, rfl⟩

/-- Of the checks on numbers only `multiple` and `precision` can be without an outcome. -/
theorem apply_number_isOk {c : NumberCheck} (hwritten : Written (.number c))
    (hmultiple : ∀ base, c ≠ .multiple base) (hprecision : ∀ places, c ≠ .precision places)
    (label : String) (q : Quantity) : ∃ o, c.apply label q = .ok o := by
  cases hwritten with
  | compare k hn =>
    dsimp only [NumberCheck.apply]
    split
    · exact ⟨none, rfl⟩
    · exact limitViolation_isOk hn _ _ _ _
  | multiple => exact absurd rfl (hmultiple _)
  | precision => exact absurd rfl (hprecision _)
  | _ =>
    dsimp only [NumberCheck.apply]
    split <;> exact ⟨_, rfl⟩

theorem not_isError_of_isOk {α : Type} {r : Except Fault α} (h : ∃ a, r = .ok a) :
    ¬ ∃ e, r = .error e := by
  rintro ⟨e, he⟩
  obtain ⟨a, ha⟩ := h
  cases ha.symm.trans he

theorem apply_text_isError_iff {label : String} {c : TextCheck} {v : Value}
    (hwritten : Written (.text c)) :
    (∃ e, (text c).apply label v = .error e) ↔ (text c).Overtaxed v := by
  -- apart from addresses both sides are false
  by_cases hc : c = .form .uri
  · obtain rfl := hc
    constructor
    · intro h
      cases v with
      | text s =>
        obtain ⟨hblank, a, ha, hrefused⟩ := apply_uri_isError_iff.1 h
        exact .address hblank ha hrefused
      | _ => exact absurd h (not_isError_of_isOk ⟨none, rfl⟩)
    · rintro ⟨hblank, ha, hrefused⟩
      exact apply_uri_isError_iff.2 ⟨hblank, _, ha, hrefused⟩
  · constructor
    · intro h
      cases v with
      | text s => exact absurd h (not_isError_of_isOk (apply_text_isOk hwritten hc label s))
      | _ => exact absurd h (not_isError_of_isOk ⟨none, rfl⟩)
    · intro h
      cases h with
      | address => exact absurd rfl hc

/-- On a number `q`, a check `c` on numbers has no outcome only for what it asks of the decimal. -/
theorem apply_quantity_isError_iff {label : String} {c : NumberCheck} {v : Value} {q : Quantity}
    (hwritten : Written (.number c)) (hq : quantity? v = some q) :
    (∃ e, c.apply label q = .error e) ↔ (number c).Overtaxed v := by
  by_cases hmultiple : ∃ base, c = .multiple base
  · obtain ⟨base, rfl⟩ := hmultiple
    cases hwritten with
    | multiple hpos hbase =>
      rw [apply_multiple_isError_iff hbase, isMultiple_isError_iff hpos hbase,
        decimal?_isError_iff hq]
      constructor
      · rintro (⟨n, rfl, hn⟩ | ⟨d, hd, hout⟩)
        · exact .multipleOfLong hn
        · exact .quotient hq hd hout
      · intro h
        cases h with
        | multipleOfLong hn => exact .inl ⟨_, rfl, hn⟩
        | quotient hq' hd hout =>
          obtain rfl := Option.some.inj (hq.symm.trans hq')
          exact .inr ⟨_, hd, hout⟩
  · by_cases hprecision : ∃ places, c = .precision places
    · obtain ⟨places, rfl⟩ := hprecision
      cases hwritten with
      | precision hplaces =>
        rw [apply_precision_isError_iff hplaces, decimal?_isError_iff hq]
        constructor
        · rintro ⟨n, rfl, hn⟩
          exact .placesOfLong hn
        · intro h
          cases h with
          | placesOfLong hn => exact ⟨_, rfl, hn⟩
    · have hok := apply_number_isOk hwritten (fun b hb => hmultiple ⟨b, hb⟩)
        (fun n hn => hprecision ⟨n, hn⟩) label q
      constructor
      · intro h
        exact absurd h (not_isError_of_isOk hok)
      · intro h
        cases h with
        | multipleOfLong => exact absurd ⟨_, rfl⟩ hmultiple
        | quotient => exact absurd ⟨_, rfl⟩ hmultiple
        | placesOfLong => exact absurd ⟨_, rfl⟩ hprecision

theorem apply_number_isError_iff {label : String} {c : NumberCheck} {v : Value}
    (hwritten : Written (.number c)) :
    (∃ e, (number c).apply label v = .error e) ↔ (number c).Overtaxed v := by
  cases hq : quantity? v with
  | some q =>
    have happly : (number c).apply label v = c.apply label q := by
      unfold apply
      simp only [hq]
    rw [happly]
    exact apply_quantity_isError_iff hwritten hq
  | none =>
    -- a check on numbers does not concern the value, and nothing overtaxes it
    have happly : (number c).apply label v = .ok none := by
      unfold apply
      simp only [hq]
    constructor
    · intro h
      exact absurd h (not_isError_of_isOk ⟨none, happly⟩)
    · intro h
      cases h with
      | multipleOfLong => cases hq
      | placesOfLong => cases hq
      | quotient hq' => cases hq.symm.trans hq'

theorem apply_value_isError_iff {label : String} {c : ValueCheck} {v : Value} :
    (∃ e, (value c).apply label v = .error e) ↔ (value c).Overtaxed v := by
  cases c with
  | members allowed =>
    constructor
    · intro h
      exact .members (apply_members_isError_iff.1 h)
    · intro h
      cases h with
      | members hlong => exact apply_members_isError_iff.2 hlong
  | address version =>
    have hok : ∃ o, (ValueCheck.address version).apply v = .ok o := by
      dsimp only [ValueCheck.apply]
      split <;> exact ⟨_, rfl⟩
    constructor
    · intro h
      exact absurd h (not_isError_of_isOk hok)
    · intro h
      cases h

/-- **Which checks have no outcome**, for which values: `apply` fails exactly if `c` is `Overtaxed`
    by `v`. -/
theorem apply_isError_iff (label : String) {c : Check} {v : Value} (hwritten : c.Written) :
    (∃ e, c.apply label v = .error e) ↔ c.Overtaxed v := by
  cases c with
  | text c => exact apply_text_isError_iff hwritten
  | number c => exact apply_number_isError_iff hwritten
  | value c => exact apply_value_isError_iff

end Check

/-! ## Which faults there are -/

/-- The faults that a value can cause, whatever the rules are. -/
inductive Fault.OfValue : Fault → Prop
  | digits (limit : Whole.DigitLimit) : OfValue (.tooManyDigits limit)
  | quotient : OfValue .quotientTooLong
  | address (e : Net.Uri.Fault) : OfValue (.badUri e)

theorem Fault.ofValue_of_digits {α : Type} {limit : Whole.DigitLimit} {e : Fault}
    (h : (.error (.tooManyDigits limit) : Except Fault α) = .error e) : e.OfValue := by
  obtain rfl := Except.error.inj h
  exact .digits limit

theorem TextCheck.lengthViolation_error_ofValue {kind label demand : String} {n : Int} {e : Fault}
    (h : lengthViolation kind label demand n = .error e) : e.OfValue := by
  unfold lengthViolation at h
  split at h
  · cases h
  · exact Fault.ofValue_of_digits h

theorem TextCheck.apply_error_ofValue {label s : String} {c : TextCheck} {e : Fault}
    (h : c.apply label s = .error e) : e.OfValue := by
  cases c with
  | atLeast n =>
    dsimp only [apply] at h
    split at h
    · exact lengthViolation_error_ofValue h
    · cases h
  | atMost n =>
    dsimp only [apply] at h
    split at h
    · exact lengthViolation_error_ofValue h
    · cases h
  | exactly n =>
    dsimp only [apply] at h
    split at h
    · cases h
    · exact lengthViolation_error_ofValue h
  | pattern p =>
    dsimp only [apply] at h
    split at h <;> cases h
  | form f =>
    dsimp only [apply] at h
    split at h
    · cases h
    · cases h
    · rename_i e' hholds
      obtain rfl := Except.error.inj h
      cases f with
      | uri =>
        dsimp only [TextForm.holds] at hholds
        split at hholds
        · cases hholds
        · obtain rfl := Except.error.inj hholds
          exact .address _
      | _ => cases hholds

theorem NumberCheck.limitViolation_error_ofValue {kind label demand rest : String} {q : Quantity}
    {e : Fault} (h : limitViolation kind label demand q rest = .error e) : e.OfValue := by
  unfold limitViolation at h
  split at h
  · cases h
  · exact Fault.ofValue_of_digits h

theorem NumberCheck.isMultiple_error_ofValue {q base : Quantity} {e : Fault}
    (h : isMultiple q base = .error e) : e.OfValue := by
  unfold isMultiple at h
  split at h
  · exact Fault.ofValue_of_digits h
  · exact Fault.ofValue_of_digits h
  · split at h
    · cases h
    · obtain rfl := Except.error.inj h
      exact .quotient
  · cases h
  · cases h

theorem NumberCheck.apply_error_ofValue {label : String} {q : Quantity} {c : NumberCheck}
    {e : Fault} (h : c.apply label q = .error e) : e.OfValue := by
  cases c with
  | compare k limit =>
    dsimp only [apply] at h
    split at h
    · cases h
    · exact limitViolation_error_ofValue h
  | multiple base =>
    dsimp only [apply] at h
    split at h
    · rename_i hmultiple
      obtain rfl := Except.error.inj h
      exact isMultiple_error_ofValue hmultiple
    · cases h
    · exact limitViolation_error_ofValue h
  | precision places =>
    dsimp only [apply] at h
    split at h
    · exact Fault.ofValue_of_digits h
    · cases h
    · split at h
      · exact limitViolation_error_ofValue h
      · cases h
  | _ =>
    dsimp only [apply] at h
    split at h <;> cases h

theorem ValueCheck.apply_error_ofValue {v : Value} {c : ValueCheck} {e : Fault}
    (h : c.apply v = .error e) : e.OfValue := by
  cases c with
  | members allowed =>
    dsimp only [apply] at h
    split at h
    · exact Fault.ofValue_of_digits h
    · cases h
    · cases h
  | address version =>
    dsimp only [apply] at h
    split at h <;> cases h

theorem Check.apply_error_ofValue {label : String} {v : Value} {c : Check} {e : Fault}
    (h : c.apply label v = .error e) : e.OfValue := by
  cases c with
  | text c =>
    dsimp only [apply] at h
    split at h
    · exact TextCheck.apply_error_ofValue h
    · cases h
  | number c =>
    dsimp only [apply] at h
    split at h
    · exact NumberCheck.apply_error_ofValue h
    · cases h
  | value c => exact ValueCheck.apply_error_ofValue h

end Rulebook
