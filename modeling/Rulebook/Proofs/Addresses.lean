/-
  The language of addresses.

      version 4     0.0.0.0    192.168.1.255        four numbers up to 255, without leading zeros
      version 6     2001:db8:0:0:0:0:0:1            eight groups of hexadecimal digits
                    2001:db8::1    ::ffff:1.2.3.4   with groups left out, or an address of version 4
                    fe80::1%eth0                    at the end, or a zone behind it
      neither       10.0.0.0/8     1.2.3     01.2.3.4     1:2:3

  A text is read as version 4 first, and only if it is none as version 6.

  1. `readOctet?_eq_some_iff`: one number;
  2. `FourOctets`, `readFour?_eq_some_iff`: version 4, exactly;
  3. `HexGroup`, `EightGroups`, `readSix?_of_eightGroups`: version 6, where nothing is left out;
  4. `isAddress_text_iff`: the versions of a text, of which there is one at most;
  5. `address_language`: the question, and fields with these rules.

  The crux is 1.  That a number has no leading zero is asked of its first character, and the number
  is then read from digits; that these are the digits of what is read needs both.
-/
import Rulebook.Proofs.Formats
import Rulebook.Proofs.WholeTexts

namespace Rulebook.Net

open Rulebook.Text Rulebook.Number

namespace Address

variable {cs part : List Char} {parts groups : List (List Char)} {n : Nat} {c : Char}

/-! ## Version 4 -/

theorem readOctet?_toDigits : ∀ n < 256, readOctet? (Nat.toDigits 10 n) = some n := by
  decide +kernel

/-- **One number**: `readOctet?` reads the digits of a number up to 255, as `Nat.toDigits` writes
    it. -/
theorem readOctet?_eq_some_iff : readOctet? cs = some n ↔ n ≤ 255 ∧ cs = Nat.toDigits 10 n := by
  constructor
  · intro h
    unfold readOctet? at h
    simp only [Option.ite_none_right_eq_some, Bool.and_eq_true, Bool.or_eq_true,
      Bool.not_eq_true', List.isEmpty_eq_false_iff, List.all_eq_true, decide_eq_true_eq,
      beq_iff_eq, bne_iff_ne, Option.some.injEq] at h
    obtain ⟨⟨⟨⟨⟨hne, hds⟩, -⟩, hzero⟩, hle⟩, rfl⟩ := h
    exact ⟨hle, (Whole.toDigits_readNat hds hne hzero).symm⟩
  · rintro ⟨hle, rfl⟩
    exact readOctet?_toDigits n (Nat.lt_succ_of_le hle)

/-- Four numbers up to 255 with dots between them, and the number they stand for together. -/
inductive FourOctets : List Char → Nat → Prop
  | mk {a b c d : Nat} : a ≤ 255 → b ≤ 255 → c ≤ 255 → d ≤ 255 →
    FourOctets (['.'].intercalate [Nat.toDigits 10 a, Nat.toDigits 10 b, Nat.toDigits 10 c,
      Nat.toDigits 10 d]) (((a * 256 + b) * 256 + c) * 256 + d)

theorem not_mem_toDigits (hc : c.isDigit = false) (n : Nat) : c ∉ Nat.toDigits 10 n := by
  intro hmem
  rw [Nat.isDigit_of_mem_toDigits (by decide) (by decide) hmem] at hc
  cases hc

theorem FourOctets.dot_mem (h : FourOctets cs n) : '.' ∈ cs := by
  obtain ⟨-, -, -, -⟩ := h
  simp

theorem FourOctets.not_mem (h : FourOctets cs n) (hc : c.isDigit = false) (hdot : c ≠ '.') :
    c ∉ cs := by
  obtain ⟨-, -, -, -⟩ := h
  simp [hdot, not_mem_toDigits hc]

/-- **Version 4**: `readFour?` reads the texts that are `FourOctets` and no others, and each as its
    number. -/
theorem readFour?_eq_some_iff : readFour? cs = some n ↔ FourOctets cs n := by
  constructor
  · intro h
    unfold readFour? at h
    split at h
    · cases h
    · split at h
      · rename_i a b c d hparts
        obtain ⟨-, -, rfl⟩ := splitOn_eq_iff.1 hparts
        simp only [Option.bind_eq_bind, Option.bind_eq_some_iff, Option.pure_def,
          Option.some.injEq, readOctet?_eq_some_iff] at h
        obtain ⟨a, ⟨ha, rfl⟩, b, ⟨hb, rfl⟩, c, ⟨hc, rfl⟩, d, ⟨hd, rfl⟩, rfl⟩ := h
        exact .mk ha hb hc hd
      · cases h
  · intro h
    have hslash : cs.contains '/' = false := by
      simpa using h.not_mem (c := '/') (by decide) (by decide)
    obtain ⟨ha, hb, hc, hd⟩ := h
    rename_i a b c d
    have hparts : splitOn '.' (['.'].intercalate [Nat.toDigits 10 a, Nat.toDigits 10 b,
        Nat.toDigits 10 c, Nat.toDigits 10 d]) = [Nat.toDigits 10 a, Nat.toDigits 10 b,
        Nat.toDigits 10 c, Nat.toDigits 10 d] :=
      splitOn_eq_iff.2 ⟨by simp, by simp [not_mem_toDigits], rfl⟩
    have hread {k : Nat} (hk : k ≤ 255) : readOctet? (Nat.toDigits 10 k) = some k :=
      readOctet?_eq_some_iff.2 ⟨hk, rfl⟩
    simp only [readFour?, hslash, hparts, hread ha, hread hb, hread hc, hread hd]
    rfl

/-! ## Version 6 -/

/-- One to four hexadecimal digits, as `readGroup?` takes them. -/
structure HexGroup (cs : List Char) : Prop where
  filled : 1 ≤ cs.length
  short : cs.length ≤ 4
  digits : ∀ c ∈ cs, HexDigit c

theorem hexGroup_iff :
    HexGroup cs ↔ 1 ≤ cs.length ∧ cs.length ≤ 4 ∧ cs.all isHexDigit = true := by
  simp only [List.all_eq_true, isHexDigit_iff]
  exact ⟨fun h => ⟨h.1, h.2, h.3⟩, fun h => ⟨h.1, h.2.1, h.2.2⟩⟩

instance : DecidablePred HexGroup := fun _ => decidable_of_iff _ hexGroup_iff.symm

/-- Eight texts that are a `HexGroup` each, with colons between them. -/
def EightGroups (cs : List Char) : Prop :=
  ∃ groups : List (List Char), groups.length = 8 ∧ (∀ group ∈ groups, HexGroup group) ∧
    cs = [':'].intercalate groups

theorem HexGroup.not_mem (h : HexGroup part) (hc : ¬ HexDigit c) : c ∉ part :=
  fun hmem => hc (h.digits c hmem)

theorem HexGroup.ne_nil (h : HexGroup part) : part ≠ [] := List.ne_nil_of_length_pos h.filled

theorem readGroup?_isSome (h : HexGroup part) : ∃ n, readGroup? part = some n := by
  obtain ⟨-, hshort, hdigits⟩ := hexGroup_iff.1 h
  exact ⟨readHex part, by simp [readGroup?, h.ne_nil, hshort, hdigits]⟩

/-- Such `groups` are read one by one with `readGroup?`, whatever number `n` was read before
    them. -/
theorem foldlM_readGroup?_isSome (h : ∀ group ∈ groups, HexGroup group) (n : Nat) :
    ∃ m, groups.foldlM (fun n part => (readGroup? part).map (n * 65536 + ·)) n = some m := by
  induction groups generalizing n with
  | nil => exact ⟨n, rfl⟩
  | cons group groups ih =>
    obtain ⟨hgroup, hrest⟩ := List.forall_mem_cons.1 h
    obtain ⟨k, hk⟩ := readGroup?_isSome hgroup
    simpa [hk] using ih hrest (n * 65536 + k)

/-- Where no part is empty, `findGap` finds no groups left out. -/
theorem findGap_of_filled (h : ∀ part ∈ parts, part ≠ []) : findGap parts = .absent := by
  have hnone : ((List.range parts.length).filter fun i =>
      0 < i && i + 1 < parts.length && (parts.getD i []).isEmpty) = [] := by
    rw [List.filter_eq_nil_iff]
    intro i hi
    have hlt : i < parts.length := List.mem_range.1 hi
    have hfilled : parts[i] ≠ [] := h _ (List.getElem_mem hlt)
    simp [hlt, hfilled]
  unfold findGap
  dsimp only
  rw [hnone]

/-- The parts are left as they are by `expandLast?` unless there is a dot in the last one. -/
theorem expandLast?_of_no_dot (hne : parts ≠ []) (h : ∀ part ∈ parts, '.' ∉ part) :
    expandLast? parts = some parts := by
  unfold expandLast?
  rw [List.getLast?_eq_some_getLast hne]
  have hdot : (parts.getLast hne).contains '.' = false := by
    simpa using h _ (List.getLast_mem hne)
  simp only [hdot, Bool.false_eq_true, if_false]

theorem EightGroups.not_mem (h : EightGroups cs) (hc : ¬ HexDigit c) (hcolon : c ≠ ':') :
    c ∉ cs := by
  obtain ⟨groups, -, hgroups, rfl⟩ := h
  rw [mem_intercalate_iff hcolon]
  rintro ⟨group, hgroup, hmem⟩
  exact (hgroups group hgroup).not_mem hc hmem

/-- **Version 6**, in full: `readSix?` reads `EightGroups`, and no zone. -/
theorem readSix?_of_eightGroups (h : EightGroups cs) : ∃ n, readSix? cs = some (n, none) := by
  have hslash : '/' ∉ cs := h.not_mem (by decide) (by decide)
  have hzone : splitZone? cs = some (cs, none) := by
    rw [splitZone?, cut_of_not_mem (h.not_mem (by decide) (by decide))]
  obtain ⟨groups, hlength, hgroups, rfl⟩ := h
  have hne : groups ≠ [] := List.ne_nil_of_length_pos (by omega)
  have hparts : splitOn ':' ([':'].intercalate groups) = groups :=
    splitOn_eq_iff.2 ⟨hne, fun group hgroup => (hgroups group hgroup).not_mem (by decide), rfl⟩
  have hexpand : expandLast? groups = some groups :=
    expandLast?_of_no_dot hne fun group hgroup => (hgroups group hgroup).not_mem (by decide)
  have hgap : findGap groups = .absent :=
    findGap_of_filled fun group hgroup => (hgroups group hgroup).ne_nil
  obtain ⟨n, hn⟩ := foldlM_readGroup?_isSome hgroups 0
  refine ⟨n, ?_⟩
  simp [readSix?, hslash, hzone, hparts, hexpand, hlength, readParts?, hgap, readGroups?, hn]

/-! ## Either -/

theorem read?_eq_four_iff : read? cs = some (.four n) ↔ readFour? cs = some n := by
  unfold read?
  cases readFour? cs <;> simp

/-- A slash is in no address: `read?` refuses a text with one. -/
theorem read?_of_slash (h : '/' ∈ cs) : read? cs = none := by
  simp [read?, readFour?, readSix?, h]

/-- There are no dots between `EightGroups`, so that `read?` does not read them as version 4. -/
theorem read?_of_eightGroups (h : EightGroups cs) : ∃ n, read? cs = some (.six n none) := by
  obtain ⟨n, hn⟩ := readSix?_of_eightGroups h
  have hfour : readFour? cs = none := by
    rw [Option.eq_none_iff_forall_ne_some]
    intro k hk
    exact h.not_mem (by decide) (by decide) (readFour?_eq_some_iff.1 hk).dot_mem
  exact ⟨n, by simp [read?, hfour, hn]⟩

end Address

open Address

variable {s rule : String} {version : Option Int} {n : Nat}

/-! ## The question -/

/-- A text `isAddress` if `read?` reads it, and as an address of `version` if one is given. -/
theorem isAddress_text_iff :
    ValueCheck.isAddress version (.text s) = true ↔
      ∃ a, read? s.toList = some a ∧ ∀ k ∈ version, k = (a.version : Int) := by
  have htext : (Value.text s).asText = .ok s := rfl
  unfold ValueCheck.isAddress
  rw [htext]
  dsimp only
  cases read? s.toList with
  | none => simp
  | some a => cases version <;> simp

theorem isAddress_four_iff :
    ValueCheck.isAddress (some 4) (.text s) = true ↔ ∃ n, FourOctets s.toList n := by
  simp only [isAddress_text_iff, ← readFour?_eq_some_iff, ← read?_eq_four_iff]
  constructor
  · rintro ⟨a, ha, hversion⟩
    cases a with
    | four n => exact ⟨n, ha⟩
    | six n zone => exact absurd (hversion 4 rfl) (by simp [Address.version])
  · rintro ⟨n, hn⟩
    exact ⟨.four n, hn, by simp [Address.version]⟩

/-- There are two versions: without one, `isAddress` asks for version 4 or version 6. -/
theorem isAddress_none_iff :
    ValueCheck.isAddress none (.text s) = true ↔
      ValueCheck.isAddress (some 4) (.text s) = true ∨
        ValueCheck.isAddress (some 6) (.text s) = true := by
  simp only [isAddress_text_iff]
  cases read? s.toList with
  | none => simp
  | some a => cases a <;> simp [Address.version]

/-- No text is an address of both versions. -/
theorem isAddress_not_both :
    ¬ (ValueCheck.isAddress (some 4) (.text s) = true ∧
      ValueCheck.isAddress (some 6) (.text s) = true) := by
  simp only [isAddress_text_iff]
  rintro ⟨⟨a, ha, hfour⟩, b, hb, hsix⟩
  obtain rfl := Option.some.inj (ha.symm.trans hb)
  have h : (4 : Int) = 6 := (hfour 4 rfl).trans (hsix 6 rfl).symm
  exact absurd h (by decide)

/-! ## Fields -/

/-- The rule texts `ipv4`, `ipv6` and `ip`, and the version that each asks for; `ip` asks for
    either. -/
inductive AsksAddress : String → Option Nat → Prop
  | four : AsksAddress "ipv4" (some 4)
  | six : AsksAddress "ipv6" (some 6)
  | either : AsksAddress "ip" none

theorem AsksAddress.build {version : Option Nat} (h : AsksAddress rule version) :
    Validator.build .standard (some rule) "string" =
      .ok (Validator.ofRules .text [.check (.value (.address version))]) := by
  cases h with
  | four => exact Validator.build_single rfl (by decide) .four
  | six => exact Validator.build_single rfl (by decide) .six
  | either => exact Validator.build_single rfl (by decide) .either

/-- A validator for texts with the one check `address` accepts `s` exactly if `isAddress` holds of
    it.  The empty text is no address, and so it does no harm that it is a violation by itself. -/
theorem judge_address_iff {version : Option Nat} {label : String} :
    (Validator.ofRules .text [.check (.value (.address version))]).judge label (.text s) =
        .ok none ↔
      ValueCheck.isAddress (version.map Int.ofNat) (.text s) = true := by
  by_cases hs : s = ""
  · obtain rfl := hs
    have hnone : ValueCheck.isAddress (version.map Int.ofNat) (.text "") = false := rfl
    simp [Validator.judge_check_empty, hnone]
  · rw [Validator.judge_check_text hs]
    show ValueCheck.apply (.text s) (.address version) = _ ↔ _
    rw [ValueCheck.apply]
    split <;> simp_all

/-- **The language of addresses.** A text `s` is an address of version 4 exactly if it is
    `FourOctets`: four numbers up to 255 between dots, written without leading zeros.  It is an
    address exactly if it is one of version 4 or one of version 6, and never both.  With a slash in
    it, it is none.  If it is `EightGroups`, groups of one to four hexadecimal digits between
    colons, it is one of version 6.  A `string` field with a rule that `AsksAddress` accepts the
    texts of which `isAddress` says so. -/
theorem address_language (s : String) :
    (ValueCheck.isAddress (some 4) (.text s) = true ↔ ∃ n, FourOctets s.toList n) ∧
    (ValueCheck.isAddress none (.text s) = true ↔
      ValueCheck.isAddress (some 4) (.text s) = true ∨
        ValueCheck.isAddress (some 6) (.text s) = true) ∧
    ¬ (ValueCheck.isAddress (some 4) (.text s) = true ∧
      ValueCheck.isAddress (some 6) (.text s) = true) ∧
    ('/' ∈ s.toList → ∀ version, ValueCheck.isAddress version (.text s) = false) ∧
    (EightGroups s.toList → ValueCheck.isAddress (some 6) (.text s) = true) ∧
    ∀ rule version, AsksAddress rule version →
      ∃ v, Validator.build .standard (some rule) "string" = .ok v ∧
        ∀ label, v.judge label (.text s) = .ok none ↔
          ValueCheck.isAddress (version.map Int.ofNat) (.text s) = true := by
  refine ⟨isAddress_four_iff, isAddress_none_iff, isAddress_not_both, ?_, ?_, ?_⟩
  · intro hslash version
    rw [← Bool.not_eq_true, isAddress_text_iff, read?_of_slash hslash]
    simp
  · intro hgroups
    obtain ⟨n, hn⟩ := read?_of_eightGroups hgroups
    exact isAddress_text_iff.2 ⟨_, hn, by simp [Address.version]⟩
  · intro rule version hasks
    exact ⟨_, hasks.build, fun label => judge_address_iff⟩

/-- One address of each version, and one with a prefix length, which is none. -/
theorem address_language_of_three :
    (∃ v, Validator.build .standard (some "ip") "string" = .ok v ∧
      v.judge "Host" (.text "192.168.1.255") = .ok none) ∧
    (∃ v, Validator.build .standard (some "ipv6") "string" = .ok v ∧
      v.judge "Host" (.text "2001:db8:0:0:0:0:0:1") = .ok none) ∧
    ∃ v, Validator.build .standard (some "ipv4") "string" = .ok v ∧
      v.judge "Host" (.text "10.0.0.0/8") ≠ .ok none := by
  refine ⟨?_, ?_, ?_⟩
  · have hoctets : FourOctets "192.168.1.255".toList 3232236031 := by
      have h : FourOctets (['.'].intercalate [Nat.toDigits 10 192, Nat.toDigits 10 168,
          Nat.toDigits 10 1, Nat.toDigits 10 255]) (((192 * 256 + 168) * 256 + 1) * 256 + 255) :=
        .mk (by decide) (by decide) (by decide) (by decide)
      exact h
    obtain ⟨hfour, heither, -, -, -, hrules⟩ := address_language "192.168.1.255"
    obtain ⟨v, hv, hjudge⟩ := hrules "ip" none .either
    exact ⟨v, hv, (hjudge "Host").2 (heither.2 (.inl (hfour.2 ⟨_, hoctets⟩)))⟩
  · have hgroups : EightGroups "2001:db8:0:0:0:0:0:1".toList :=
      ⟨[['2', '0', '0', '1'], ['d', 'b', '8'], ['0'], ['0'], ['0'], ['0'], ['0'], ['1']], rfl,
        by decide, rfl⟩
    obtain ⟨-, -, -, -, hsix, hrules⟩ := address_language "2001:db8:0:0:0:0:0:1"
    obtain ⟨v, hv, hjudge⟩ := hrules "ipv6" (some 6) .six
    exact ⟨v, hv, (hjudge "Host").2 (hsix hgroups)⟩
  · obtain ⟨-, -, -, hslash, -, hrules⟩ := address_language "10.0.0.0/8"
    obtain ⟨v, hv, hjudge⟩ := hrules "ipv4" (some 4) .four
    have hnone := hslash (by decide) (some 4)
    refine ⟨v, hv, fun haccepts => ?_⟩
    exact Bool.false_ne_true (hnone.symm.trans ((hjudge "Host").1 haccepts))

end Rulebook.Net
