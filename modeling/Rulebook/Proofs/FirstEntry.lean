/-
  Which of several entries of one key counts.

  Of the entries that have a key, a load stores the first one that makes a field, and it notes a
  problem under the key exactly if the very first one makes none:

      first entry       a later one       stored       noted under the key
      a field           whatever          the first    nothing
      no field          a field           the later    the problem of the first
      no field          no field          nothing      a problem

  So the first entry counts, except in the second line: there the key has a field and a problem
  at the same time, and the field is not that of its first entry.

  1. `hasKey`, `FirstFails`: the entries of a key, and that the first of them makes no field;
  2. `noted_of_treats`, `noted_of_runs`: when a problem is noted under a key;
  3. `findSome?_madeFor?_of_first`: a first entry that makes a field is the one that counts;
  4. `first_entry_counts_iff`: when the first entry counts.

  What is stored is `lookup_of_runs`.  The crux is 2: a problem is noted only while the key is
  free, and the key is free until an entry makes a field for it, so whether anything is noted is
  settled by the first entry alone.
-/
import Rulebook.Proofs.Notes

namespace Rulebook.Registry

variable {table : TypeTable} {d : Directory} {r r' : Registry} {f : Field}
  {v : Option Validator} {entry : Value} {entries : List Value} {key : String}

/-! ## The entries of a key -/

/-- The entry is an object with both required parts, and has `key` for its key. -/
def hasKey (key : String) (entry : Value) : Bool :=
  match keyOfEntry? entry with
  | some (.text s) => s == key
  | _ => false

theorem hasKey_iff : hasKey key entry = true ↔ keyOfEntry? entry = some (.text key) := by
  unfold hasKey
  cases keyOfEntry? entry with
  | none => simp
  | some k => cases k <;> simp

theorem hasKey_of_madeFor? (h : madeFor? table key entry = some f) : hasKey key entry = true := by
  obtain ⟨v, hcompile, rfl⟩ := madeFor?_eq_some_iff.1 h
  exact hasKey_iff.2 (entryKey_of_compile hcompile)

theorem madeFor?_of_not_hasKey (h : hasKey key entry = false) :
    madeFor? table key entry = none := by
  refine madeFor?_eq_none ?_
  rintro f v hcompile rfl
  cases h.symm.trans (hasKey_iff.2 (entryKey_of_compile hcompile))

/-- There are entries that have `key`, and the first of them makes no field. -/
def FirstFails (table : TypeTable) (entries : List Value) (key : String) : Prop :=
  ∃ first e, entries.find? (hasKey key) = some first ∧ compileEntry table first = .error e

theorem firstFails_cons_of_hasKey (h : hasKey key entry = true) :
    FirstFails table (entry :: entries) key ↔ ∃ e, compileEntry table entry = .error e := by
  unfold FirstFails
  rw [List.find?_cons_of_pos h]
  constructor
  · rintro ⟨first, e, hfirst, he⟩
    obtain rfl := Option.some.inj hfirst
    exact ⟨e, he⟩
  · rintro ⟨e, he⟩
    exact ⟨entry, e, rfl, he⟩

theorem firstFails_cons_of_not_hasKey (h : hasKey key entry = false) :
    FirstFails table (entry :: entries) key ↔ FirstFails table entries key := by
  unfold FirstFails
  rw [List.find?_cons_of_neg (by simp [h])]

/-- A first entry with `key` that makes a field `f` is the one that `madeFor?` finds. -/
theorem findSome?_madeFor?_of_first (hfirst : entries.find? (hasKey key) = some entry)
    (hcompile : compileEntry table entry = .ok (f, v)) :
    entries.findSome? (madeFor? table key) = some f := by
  induction entries with
  | nil => cases hfirst
  | cons first rest ih =>
    by_cases hkey : hasKey key first = true
    · rw [List.find?_cons_of_pos hkey] at hfirst
      obtain rfl := Option.some.inj hfirst
      have hsame : some (Value.text f.key) = some (.text key) :=
        (entryKey_of_compile hcompile).symm.trans (hasKey_iff.1 hkey)
      have hmade : madeFor? table key first = some f :=
        madeFor?_eq_some_iff.2 ⟨v, hcompile, Value.text.inj (Option.some.inj hsame)⟩
      rw [List.findSome?_cons, hmade]
    · -- entries of other keys come to nothing on both sides
      rw [List.find?_cons_of_neg hkey] at hfirst
      rw [Bool.not_eq_true] at hkey
      rw [List.findSome?_cons, madeFor?_of_not_hasKey hkey]
      exact ih hfirst

/-- Where `madeFor?` finds a field for `key` in an entry, there is a first entry with `key`. -/
theorem find?_hasKey_of_madeFor? (hmem : entry ∈ entries)
    (hmade : madeFor? table key entry = some f) :
    ∃ first, entries.find? (hasKey key) = some first := by
  have hsome : (entries.find? (hasKey key)).isSome = true :=
    List.find?_isSome.2 ⟨entry, hmem, hasKey_of_madeFor? hmade⟩
  exact Option.isSome_iff_exists.1 hsome

/-! ## Problems under a key -/

/-- A problem of an entry is `Noted` under its key, if that is not among `r.keys`. -/
theorem noted_of_treats (h : Treats table r entry r') :
    Noted r' key ↔
      Noted r key ∨ key ∉ r.keys ∧ hasKey key entry = true ∧
        ∃ e, compileEntry table entry = .error e := by
  cases h with
  | incomplete hentry =>
    refine (or_iff_left ?_).symm
    rintro ⟨-, hkey, -⟩
    cases hentry.symm.trans (hasKey_iff.1 hkey)
  | held hentry hheld =>
    obtain ⟨s, rfl, hs⟩ := holdsKey_iff.1 hheld
    refine (or_iff_left ?_).symm
    rintro ⟨hfree, hkey, -⟩
    cases hentry.symm.trans (hasKey_iff.1 hkey)
    exact hfree hs
  | stored hnew hcompile =>
    show Noted r key ↔ _
    refine (or_iff_left ?_).symm
    rintro ⟨-, -, e, he⟩
    cases hcompile.symm.trans he
  | @noted k refusal reason _ hentry hheld hcompile _ hreject =>
    have hkey : hasKey key entry = true ↔ k = .text key := by
      rw [hasKey_iff, hentry, Option.some.injEq]
    have hfree (hk : k = .text key) : key ∉ r.keys := by
      rw [hk] at hheld
      simpa [holdsKey] using hheld
    have hnote : Noted r' key ↔ k = .text key ∨ Noted r key := by
      obtain ⟨-, ⟨rfl, rfl⟩ | ⟨-, rfl⟩⟩ := reject_cases hreject
      · show Noted r key ↔ _
        simp
      · exact mem_note_text_iff
    rw [hnote]
    constructor
    · rintro (hk | hold)
      · exact .inr ⟨hfree hk, hkey.2 hk, _, hcompile⟩
      · exact .inl hold
    · rintro (hold | ⟨-, hk, -⟩)
      · exact .inr hold
      · exact .inl (hkey.1 hk)

/-- An entry takes its key if `madeFor?` finds a field in it. -/
theorem mem_keys_of_treats (h : Treats table r entry r') :
    key ∈ r'.keys ↔ key ∈ r.keys ∨ ∃ f, madeFor? table key entry = some f := by
  have hone : key ∈ r'.keys ↔
      key ∈ r.keys ∨ ∃ other ∈ [entry], ∃ f, madeFor? table key other = some f :=
    mem_keys_of_runs (.cons h .nil)
  simpa using hone

/-- **What is noted** by a run: a problem under each key that is not among `r.keys` and of which
    `FirstFails` holds. -/
theorem noted_of_runs (h : Runs table r entries r') :
    Noted r' key ↔ Noted r key ∨ key ∉ r.keys ∧ FirstFails table entries key := by
  induction h with
  | nil =>
    have hnot : ∀ r : Registry, ¬ (key ∉ r.keys ∧ FirstFails table [] key) := by
      rintro r ⟨-, first, e, hfirst, -⟩
      cases hfirst
    simp [hnot]
  | @cons r r' r'' entry rest hentry _ ih =>
    rw [ih, noted_of_treats hentry, mem_keys_of_treats hentry]
    by_cases hkey : hasKey key entry = true
    · rw [firstFails_cons_of_hasKey hkey]
      -- the entry makes a field, and the key is taken, or it fails, and the problem is noted
      cases hcompile : compileEntry table entry with
      | ok made =>
        obtain ⟨f, v⟩ := made
        have hsame : some (Value.text f.key) = some (.text key) :=
          (entryKey_of_compile hcompile).symm.trans (hasKey_iff.1 hkey)
        have hmade : ∃ f, madeFor? table key entry = some f :=
          ⟨f, madeFor?_eq_some_iff.2 ⟨v, hcompile, Value.text.inj (Option.some.inj hsame)⟩⟩
        simp [hmade]
      | error e =>
        have hmade : madeFor? table key entry = none := by
          refine madeFor?_eq_none ?_
          intro f v hok
          cases hcompile.symm.trans hok
        by_cases hheld : key ∈ r.keys
        · simp [hheld]
        · simp [hheld, hkey, hmade]
    · rw [Bool.not_eq_true] at hkey
      rw [firstFails_cons_of_not_hasKey hkey, madeFor?_of_not_hasKey hkey]
      simp [hkey]

/-! ## The first entry -/

/-- **Which entry counts.** After a load that is not strict (`hlenient`) and comes to its end
    (`hload`), each key has the field of the first entry that makes one for it, by `madeFor?`, and
    is `Noted` exactly if `FirstFails`, which is that its very first entry makes none.  So a key is
    never both stored and noted, and what is stored is from its first entry, exactly if the key is
    not one of which `FirstFails` holds while a later entry makes a field. -/
theorem first_entry_counts_iff {ks : List String} (hlenient : r.strict = false)
    (hload : (r.load table d).2 = .ok ks) :
    ∃ entries, listedIn d r.file = .ok entries ∧ ∀ key : String,
      ((r.load table d).1.get? key).map (·.field) = entries.findSome? (madeFor? table key) ∧
      (Noted (r.load table d).1 key ↔ FirstFails table entries key) ∧
      ((¬ (key ∈ (r.load table d).1.keys ∧ Noted (r.load table d).1 key) ∧
          ∀ stored, (r.load table d).1.get? key = some stored →
            ∃ first, entries.find? (hasKey key) = some first ∧
              Field.ofValue first = .ok stored.field) ↔
        ¬ (FirstFails table entries key ∧
          ∃ entry ∈ entries, ∃ f, madeFor? table key entry = some f)) := by
  obtain ⟨entries, messages, hlisted, -, hruns, -⟩ := runs_of_load hlenient hload
  refine ⟨entries, hlisted, fun key => ?_⟩
  have hnone : (r.cleared.noteFile messages).keys = [] := keys_noteFile messages
  have herrors : ¬ Noted (r.cleared.noteFile messages) key := by
    rintro ⟨message, hm⟩
    cases messages <;> cases hm
  generalize r.cleared.noteFile messages = start at hruns hnone herrors
  generalize (r.load table d).1 = r' at hruns
  have hkeys : key ∈ r'.keys ↔ ∃ entry ∈ entries, ∃ f, madeFor? table key entry = some f := by
    simpa [hnone] using mem_keys_of_runs hruns
  have hnoted : Noted r' key ↔ FirstFails table entries key := by
    have hrun : Noted r' key ↔
        Noted start key ∨ key ∉ start.keys ∧ FirstFails table entries key := noted_of_runs hruns
    simpa [hnone, herrors] using hrun
  have hfield : (r'.get? key).map (·.field) = entries.findSome? (madeFor? table key) := by
    have hfree : key ∉ start.keys := by simp [hnone]
    have habsent : start.descriptors.lookup key = none := Table.lookup_eq_none_iff.2 hfree
    have hlookup := lookup_of_runs hruns key
    rw [habsent, Option.none_or] at hlookup
    rw [← hlookup]
    unfold get?
    rw [Option.map_map]
    exact Option.map_id'
  refine ⟨hfield, hnoted, ?_⟩
  rw [hkeys, hnoted]
  constructor
  · rintro ⟨hboth, -⟩ ⟨hfails, hlater⟩
    exact hboth ⟨hlater, hfails⟩
  · intro hnot
    refine ⟨fun ⟨hlater, hfails⟩ => hnot ⟨hfails, hlater⟩, ?_⟩
    intro stored hstored
    rw [hstored, Option.map_some] at hfield
    -- some entry made the field that is stored, so the key has a first entry, and it does not fail
    obtain ⟨entry, hmem, hmade⟩ := List.exists_of_findSome?_eq_some hfield.symm
    obtain ⟨first, hfirst⟩ := find?_hasKey_of_madeFor? hmem hmade
    refine ⟨first, hfirst, ?_⟩
    cases hcompile : compileEntry table first with
    | error e => exact absurd ⟨⟨first, e, hfirst, hcompile⟩, entry, hmem, _, hmade⟩ hnot
    | ok made =>
      obtain ⟨f, v⟩ := made
      rw [findSome?_madeFor?_of_first hfirst hcompile] at hfield
      obtain rfl := Option.some.inj hfield
      exact (compileEntry_eq_ok_iff.1 hcompile).1

/-- A file whose entries have the keys `a`, `b` and `a` again; that of `b` makes no field. -/
def repeatingFile : Directory :=
  .holding "f.json" ("[\x7b\"key\": \"a\", \"type\": \"string\"\x7d, "
    ++ "\x7b\"key\": \"b\", \"type\": \"nope\", \"validation\": \"min:1\"\x7d, "
    ++ "\x7b\"key\": \"a\", \"type\": \"number\"\x7d]")

/-- The first entry of `a` counts, and that the one of `b` fails is seen from its note. -/
theorem load_repeatingFile :
    ∃ entries, listedIn repeatingFile "f.json" = .ok entries ∧
      entries.findSome? (madeFor? .standard "a") = some ⟨"a", "string", "", none⟩ ∧
      ¬ FirstFails .standard entries "a" ∧ FirstFails .standard entries "b" := by
  have hload : ((empty "f.json" false).load .standard repeatingFile).2 = .ok ["a"] := by
    decide +kernel
  have hloaded : (((empty "f.json" false).load .standard repeatingFile).1.get? "a").map (·.field) =
        some ⟨"a", "string", "", none⟩ ∧
      ¬ Noted ((empty "f.json" false).load .standard repeatingFile).1 "a" ∧
      Noted ((empty "f.json" false).load .standard repeatingFile).1 "b" := by
    decide +kernel
  obtain ⟨entries, hlisted, hkeys⟩ := first_entry_counts_iff rfl hload
  obtain ⟨hfield, ha, -⟩ := hkeys "a"
  obtain ⟨-, hb, -⟩ := hkeys "b"
  refine ⟨entries, hlisted, ?_⟩
  rw [← hfield, ← ha, ← hb]
  exact hloaded

/-- A file whose first entry makes no field, while a later one of the same key does. -/
def failingFirst : Directory :=
  .holding "f.json" ("[\x7b\"key\": \"a\", \"type\": \"nope\", \"validation\": \"min:1\"\x7d, "
    ++ "\x7b\"key\": \"a\", \"type\": \"string\"\x7d]")

/-- The later one is loaded, and the key is both stored and noted. -/
theorem load_failingFirst :
    ((empty "f.json" false).load .standard failingFirst).2 = .ok ["a"] ∧
      Noted ((empty "f.json" false).load .standard failingFirst).1 "a" ∧
      (((empty "f.json" false).load .standard failingFirst).1.get? "a").map (·.field) =
        some ⟨"a", "string", "", none⟩ ∧
      ((listedIn failingFirst "f.json").toOption.bind fun entries =>
        (entries.find? (hasKey "a")).map Field.ofValue) =
          some (.ok ⟨"a", "nope", "", some "min:1"⟩) := by
  decide +kernel

end Rulebook.Registry
