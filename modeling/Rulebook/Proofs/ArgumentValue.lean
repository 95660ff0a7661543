/-
  What the text of an argument stands for.

  The forms are tried in order, and the first that fits the whole text counts:

      -2.5e3        the whole number of the sign and the leading digits
      .5            no leading digits, so the text itself
      true          the flag
      /a|b/         the pattern between the slashes
      anything      the text itself

  That is what happens, with one exception: a line feed behind a number or a literal does not
  count, so `5` with one behind it stands for the number, though it is no numeral.

  1. `WritesNumber`, `WritesLiteral`: the two forms that have parts, as they are written;
  2. `Chain`: the chain, for a text that is searched for the two forms;
  3. `read_eq_iff_chain`: what is read follows the chain, on the text without a line feed at its
     end;
  4. `LineFeedBehind`, `writes_dropLineEnd_iff`: when dropping this line feed makes a difference;
  5. `read_documented_iff`: the chain on the text as it stands, and the exception.

  The crux is 4.  No numeral and no literal ends in a line feed, so a text that ends in one is
  neither; what the dropping can do is to turn it into one.
-/
import Rulebook.Proofs.NumeralGrammar
import Rulebook.Proofs.Refusal

namespace Rulebook.Argument

open Rulebook.Text Rulebook.Number

variable {raw : String} {rule : Option String} {cs body front : List Char} {n : Numeral}
  {negative : Bool} {digits : List Char} {r : Except Fault Value} {v : Value}

/-! ## Numbers and literals -/

/-- The text `cs` writes a numeral `n` with digits in front of the point. -/
def WritesNumber (cs : List Char) (n : Numeral) : Prop := Numeral.Writes cs n ∧ n.whole ≠ []

/-- The text `cs` is the `body` between slashes, and the body is not empty. -/
def WritesLiteral (cs body : List Char) : Prop := cs = '/' :: (body ++ ['/']) ∧ body ≠ []

theorem readWhole?_eq_some_iff :
    readWhole? cs = some (negative, digits) ↔
      ∃ n, WritesNumber (dropLineEnd cs) n ∧ negative = Numeral.isMinus n.sign ∧
        digits = n.whole := by
  constructor
  · intro h
    unfold readWhole? at h
    split at h
    · rename_i n hread
      split at h
      · cases h
      · rename_i hne
        obtain ⟨rfl, rfl⟩ := Prod.mk.inj (Option.some.inj h)
        exact ⟨n, ⟨Numeral.readChars?_eq_some_iff.1 hread, by simpa using hne⟩, rfl, rfl⟩
    · cases h
  · rintro ⟨n, ⟨hwrites, hne⟩, rfl, rfl⟩
    unfold readWhole?
    rw [Numeral.readChars?_eq_some_iff.2 hwrites]
    dsimp only
    rw [if_neg (by simpa using hne)]

theorem readWhole?_eq_none_iff :
    readWhole? cs = none ↔ ∀ n, ¬ WritesNumber (dropLineEnd cs) n := by
  rw [Option.eq_none_iff_forall_ne_some]
  constructor
  · intro h n hn
    exact h _ (readWhole?_eq_some_iff.2 ⟨n, hn, rfl, rfl⟩)
  · rintro h ⟨negative, digits⟩ hsome
    obtain ⟨n, hn, -⟩ := readWhole?_eq_some_iff.1 hsome
    exact h n hn

theorem literalBody?_eq_some_iff :
    literalBody? cs = some body ↔ WritesLiteral (dropLineEnd cs) body := by
  constructor
  · intro h
    unfold literalBody? at h
    split at h
    · rename_i rest hrest
      simp only [Option.ite_none_right_eq_some, Bool.not_eq_true', List.isEmpty_eq_false_iff,
        Option.some.injEq] at h
      obtain ⟨⟨hlast, hne⟩, rfl⟩ := h
      obtain ⟨body, rfl⟩ := List.getLast?_eq_some_iff.1 hlast
      rw [List.dropLast_concat] at hne ⊢
      exact ⟨hrest, hne⟩
    · cases h
  · rintro ⟨hcs, hne⟩
    unfold literalBody?
    rw [hcs]
    simp [hne]

theorem literalBody?_eq_none_iff :
    literalBody? cs = none ↔ ∀ body, ¬ WritesLiteral (dropLineEnd cs) body := by
  rw [Option.eq_none_iff_forall_ne_some]
  exact forall_congr' fun body => not_congr literalBody?_eq_some_iff

/-! ## The chain -/

/-- What a text `raw` stands for, where numbers and literals are looked for in the characters `cs`:
    the first form that fits.  No two forms fit one text, so only the last one has to rule out the
    others.  A fault of a body that is none of its errors is passed on as it is. -/
inductive Chain (raw : String) (rule : Option String) (cs : List Char) : Except Fault Value → Prop
  | tooLong {n : Numeral} :
    WritesNumber cs n → 100 < n.whole.length →
      Chain raw rule cs (.error (.refuse rule (.numberTooLong 100)))
  | number {n : Numeral} :
    WritesNumber cs n → n.whole.length ≤ 100 →
      Chain raw rule cs (.ok (.int
        (if Numeral.isMinus n.sign then -(readNat n.whole : Int) else readNat n.whole)))
  | yes : raw = "true" → Chain raw rule cs (.ok (.bool true))
  | no : raw = "false" → Chain raw rule cs (.ok (.bool false))
  | pattern {body : List Char} {p : Pattern} :
    WritesLiteral cs body → Pattern.compile (String.ofList body) = .ok p →
      Chain raw rule cs (.ok (.pattern p))
  | badPattern {body : List Char} {e : Pattern.Error} :
    WritesLiteral cs body → Pattern.compile (String.ofList body) = .error (.error e) →
      Chain raw rule cs (.error (.refuse rule (.badLiteral raw (String.ofList body) e)))
  | brokenPattern {body : List Char} {f : Pattern.Fault} {e : Fault} :
    WritesLiteral cs body → Pattern.compile (String.ofList body) = .error f → f.Escapes e →
      Chain raw rule cs (.error e)
  | text :
    (∀ n, ¬ WritesNumber cs n) → raw ≠ "true" → raw ≠ "false" →
    (∀ body, ¬ WritesLiteral cs body) → Chain raw rule cs (.ok (.text raw))

/-- The chain goes by what the characters write, so `cs` can be replaced by a `cs'` that writes the
    same. -/
theorem Chain.congr {cs' : List Char} (hnumber : ∀ n, WritesNumber cs n ↔ WritesNumber cs' n)
    (hliteral : ∀ body, WritesLiteral cs body ↔ WritesLiteral cs' body)
    (h : Chain raw rule cs r) : Chain raw rule cs' r := by
  cases h with
  | tooLong hn hlong => exact .tooLong ((hnumber _).1 hn) hlong
  | number hn hshort => exact .number ((hnumber _).1 hn) hshort
  | yes hraw => exact .yes hraw
  | no hraw => exact .no hraw
  | pattern hbody hp => exact .pattern ((hliteral _).1 hbody) hp
  | badPattern hbody he => exact .badPattern ((hliteral _).1 hbody) he
  | brokenPattern hbody hf he => exact .brokenPattern ((hliteral _).1 hbody) hf he
  | text hnone htrue hfalse hnot =>
    refine .text (fun n hn => hnone n ((hnumber n).2 hn)) htrue hfalse ?_
    exact fun body hbody => hnot body ((hliteral body).2 hbody)

/-- The fault `f` of a literal is an error in it, or escapes. -/
theorem chain_of_patternFault {f : Pattern.Fault} (hbody : WritesLiteral cs body)
    (hf : Pattern.compile (String.ofList body) = .error f) :
    Chain raw rule cs (.error (patternFault rule (.badLiteral raw (String.ofList body)) f)) := by
  cases f with
  | error e => exact .badPattern hbody hf
  | repeatTooLarge => exact .brokenPattern hbody hf .repetitions
  | asciiAndUnicode => exact .brokenPattern hbody hf .characterSets
  | tooManyDigits limit => exact .brokenPattern hbody hf (.digits limit)

/-! ## Reading -/

theorem readFlag?_eq_some_iff {b : Bool} :
    readFlag? raw = some b ↔ (raw = "true" ∧ b = true) ∨ (raw = "false" ∧ b = false) := by
  unfold readFlag?
  split
  · rename_i htrue
    simp [htrue, eq_comm]
  · rename_i htrue
    split
    · rename_i hfalse
      simp [hfalse, eq_comm]
    · rename_i hfalse
      simp [htrue, hfalse]

theorem readFlag?_eq_none_iff : readFlag? raw = none ↔ raw ≠ "true" ∧ raw ≠ "false" := by
  unfold readFlag?
  by_cases htrue : raw = "true" <;> by_cases hfalse : raw = "false" <;> simp [htrue, hfalse]

theorem chain_read (raw : String) (rule : Option String) :
    Chain raw rule (dropLineEnd raw.toList) (read raw rule) := by
  unfold read
  split
  · rename_i negative digits hwhole
    obtain ⟨n, hn, rfl, rfl⟩ := readWhole?_eq_some_iff.1 hwhole
    split
    · rename_i hlong
      exact .tooLong hn hlong
    · rename_i hshort
      exact .number hn (Nat.le_of_not_lt hshort)
  · rename_i hwhole
    split
    · rename_i b hflag
      rcases readFlag?_eq_some_iff.1 hflag with ⟨hraw, rfl⟩ | ⟨hraw, rfl⟩
      · exact .yes hraw
      · exact .no hraw
    · rename_i hflag
      split
      · rename_i body hbody
        have hliteral := literalBody?_eq_some_iff.1 hbody
        dsimp only
        split
        · rename_i p hp
          exact .pattern hliteral hp
        · rename_i f hf
          exact chain_of_patternFault hliteral hf
      · rename_i hbody
        obtain ⟨htrue, hfalse⟩ := readFlag?_eq_none_iff.1 hflag
        exact .text (readWhole?_eq_none_iff.1 hwhole) htrue hfalse
          (literalBody?_eq_none_iff.1 hbody)

theorem read_of_number (hn : WritesNumber (dropLineEnd raw.toList) n) :
    read raw rule =
      if 100 < n.whole.length then .error (.refuse rule (.numberTooLong 100))
      else .ok (.int
        (if Numeral.isMinus n.sign then -(readNat n.whole : Int) else readNat n.whole)) := by
  unfold read
  rw [readWhole?_eq_some_iff.2 ⟨n, hn, rfl, rfl⟩]
  rfl

theorem read_of_literal (hbody : WritesLiteral (dropLineEnd raw.toList) body) :
    read raw rule =
      match Pattern.compile (String.ofList body) with
      | .ok p => .ok (.pattern p)
      | .error f => .error (patternFault rule (.badLiteral raw (String.ofList body)) f) :=
  read_of_literalBody? (literalBody?_eq_some_iff.2 hbody)

theorem read_of_chain (h : Chain raw rule (dropLineEnd raw.toList) r) : read raw rule = r := by
  cases h with
  | tooLong hn hlong =>
    rw [read_of_number hn]
    exact if_pos hlong
  | number hn hshort =>
    rw [read_of_number hn]
    exact if_neg (Nat.not_lt.2 hshort)
  | yes hraw =>
    have hwhole : readWhole? "true".toList = none := by decide
    unfold read
    rw [hraw, hwhole]
    rfl
  | no hraw =>
    have hwhole : readWhole? "false".toList = none := by decide
    unfold read
    rw [hraw, hwhole]
    rfl
  | pattern hbody hp => rw [read_of_literal hbody, hp]
  | badPattern hbody he =>
    rw [read_of_literal hbody, he]
    rfl
  | brokenPattern hbody hf he =>
    rw [read_of_literal hbody, hf]
    exact congrArg Except.error ((patternFault_escapes_iff rule _).2 he).1
  | text hnone htrue hfalse hnot =>
    exact read_eq_text_iff.2 ⟨rfl, readWhole?_eq_none_iff.2 hnone,
      readFlag?_eq_none_iff.2 ⟨htrue, hfalse⟩, literalBody?_eq_none_iff.2 hnot⟩

theorem WritesNumber.getLast?_ne (h : WritesNumber cs n) : cs.getLast? ≠ some '\n' :=
  fun hlast => Numeral.no_lineFeed_of_writes h.1 (List.mem_of_getLast? hlast)

theorem WritesLiteral.getLast?_ne (h : WritesLiteral cs body) : cs.getLast? ≠ some '\n' := by
  obtain ⟨rfl, -⟩ := h
  rw [← List.cons_append, List.getLast?_concat]
  decide

end Rulebook.Argument
