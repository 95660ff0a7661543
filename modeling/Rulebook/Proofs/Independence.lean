/-
  Entries are loaded independently of one another.

  Where the entries of a file have texts for keys, and no two have the same, what becomes of one of
  them has nothing to do with the others.  An empty registry that is given this entry shows it:

      entry       an empty registry      the load of the whole file
      fine        takes its field        stores this field
      refused     refuses it             notes this refusal under the key
      broken      neither                does not come to its end

  and a load that comes to its end puts these one behind the other, in the order of the file.

  1. `TextKeyed`: files of this kind, and `problems_of_textKeyed` that their list is in order;
  2. `ownFields`, `ownNotes`: what an entry comes to by itself;
  3. `extended_of_treats`, `extended_of_runs`: one entry, and then any number of them;
  4. `eq_of_textKey?`, `lookup_of_textKeyed`: what is found under a key is from its own entry;
  5. `entries_load_independently`: whole files.

  The crux is 3.  An entry is passed over only if its key is taken, and an earlier note gives way
  only to one of the same key; `Free` says that neither can happen, and every entry leaves the keys
  of the others free.
-/
import Mathlib.Data.List.Pairwise
import Rulebook.Proofs.Reload

namespace Rulebook.Registry

variable {table : TypeTable} {d : Directory} {r r' r'' : Registry} {entry other : Value}
  {entries : List Value} {key message : String} {e : Fault}

/-! ## Entries with texts for keys -/

/-- The key of an entry with both required parts, if it is a text. -/
def textKey? (entry : Value) : Option String :=
  match keyOfEntry? entry with
  | some (.text s) => some s
  | _ => none

theorem textKey?_eq_some_iff :
    textKey? entry = some key ↔ keyOfEntry? entry = some (.text key) := by
  unfold textKey?
  cases keyOfEntry? entry with
  | none => simp
  | some k => cases k <;> simp

theorem hasKey_eq_true_iff_textKey? : hasKey key entry = true ↔ textKey? entry = some key :=
  hasKey_iff.trans textKey?_eq_some_iff.symm

/-- Every entry is an object with both required parts, the keys are texts, and no two entries have
    the same. -/
structure TextKeyed (entries : List Value) : Prop where
  keyed : ∀ entry ∈ entries, (textKey? entry).isSome = true
  distinct : (entries.filterMap textKey?).Nodup

instance : DecidablePred TextKeyed := fun entries =>
  decidable_of_iff
    ((∀ entry ∈ entries, (textKey? entry).isSome = true) ∧ (entries.filterMap textKey?).Nodup)
    ⟨fun h => ⟨h.1, h.2⟩, fun h => ⟨h.keyed, h.distinct⟩⟩

theorem TextKeyed.exists_key (h : TextKeyed entries) (hmem : entry ∈ entries) :
    ∃ key, textKey? entry = some key :=
  Option.isSome_iff_exists.1 (h.keyed entry hmem)

/-- Behind the first entry of a list that is `TextKeyed`, its key does not come again. -/
theorem TextKeyed.of_cons (h : TextKeyed (entry :: entries)) :
    ∃ key, textKey? entry = some key ∧ key ∉ entries.filterMap textKey? ∧ TextKeyed entries := by
  obtain ⟨key, hkey⟩ := h.exists_key (List.mem_cons_self ..)
  have hdistinct := h.distinct
  rw [List.filterMap_cons_some hkey] at hdistinct
  obtain ⟨hnew, hrest⟩ := List.nodup_cons.1 hdistinct
  exact ⟨key, hkey, hnew, fun other hmem => h.keyed other (List.mem_cons_of_mem _ hmem), hrest⟩

/-- The keys that `keyOfEntry?` finds are those that `textKey?` finds, as texts. -/
theorem TextKeyed.filterMap_keyOfEntry? (h : TextKeyed entries) :
    entries.filterMap keyOfEntry? = (entries.filterMap textKey?).map .text := by
  induction entries with
  | nil => rfl
  | cons entry rest ih =>
    obtain ⟨key, hkey, -, hrest⟩ := h.of_cons
    rw [List.filterMap_cons_some hkey, List.filterMap_cons_some (textKey?_eq_some_iff.1 hkey),
      ih hrest, List.map_cons]

theorem TextKeyed.wellShaped (h : TextKeyed entries) : WellShaped entries where
  complete := fun entry hmem =>
    let ⟨key, hkey⟩ := h.exists_key hmem
    ⟨.text key, textKey?_eq_some_iff.1 hkey⟩
  distinct := by
    rw [h.filterMap_keyOfEntry?, List.pairwise_map]
    refine h.distinct.imp ?_
    intro a b hab
    simpa [sameKey_text] using hab

/-- There is nothing wrong with a list that is `TextKeyed`. -/
theorem problems_of_textKeyed (hwritable : Writable entries) (h : TextKeyed entries) :
    problems sameKey entries = .ok [] := by
  refine problems_of_wellShaped hwritable h.wellShaped ?_
  intro entry hmem
  obtain ⟨key, hkey⟩ := h.exists_key hmem
  exact unfitKey?_eq_none (textKey?_eq_some_iff.1 hkey)

/-- Entries with the same `textKey?` are the same. -/
theorem eq_of_textKey? (h : TextKeyed entries) (hmem : entry ∈ entries) (hother : other ∈ entries)
    (hkey : textKey? entry = some key) (hsame : textKey? other = some key) : entry = other := by
  have hsymm : Std.Symm fun a b => textKey? a = some key → textKey? b ≠ some key :=
    ⟨fun a b hab hb ha => hab ha hb⟩
  have hapart : entries.Pairwise fun a b => textKey? a = some key → textKey? b ≠ some key :=
    (List.pairwise_filterMap.1 h.distinct).imp fun hab ha hb => hab key ha key hb rfl
  by_contra hne
  exact hapart.forall hmem hother hne hkey hsame

/-! ## An entry by itself -/

/-- The field with which an empty registry takes an entry, if it does. -/
def ownFields (table : TypeTable) (file : String) (entry : Value) : List Field :=
  match register table (empty file false) entry with
  | .ok (_, f) => [f]
  | .error _ => []

/-- The note on an entry that an empty registry does not take: the key, and what is wrong. -/
def ownNotes (table : TypeTable) (file : String) (entry : Value) : List (Value × String) :=
  match textKey? entry, register table (empty file false) entry with
  | some key, .error e => [(.text key, (Reason.badEntry file key e.message).message)]
  | _, _ => []

variable {file : String} {f : Field} {v : Option Validator}

theorem ownFields_of_compile (h : compileEntry table entry = .ok (f, v)) :
    ownFields table file entry = [f] := by
  unfold ownFields
  rw [register_eq, h]

theorem ownFields_of_error (h : compileEntry table entry = .error e) :
    ownFields table file entry = [] := by
  unfold ownFields
  rw [register_eq, h]

theorem ownNotes_of_compile (h : compileEntry table entry = .ok (f, v)) :
    ownNotes table file entry = [] := by
  unfold ownNotes
  rw [register_eq, h]
  cases textKey? entry <;> rfl

theorem ownNotes_of_error (hkey : textKey? entry = some key)
    (h : compileEntry table entry = .error e) :
    ownNotes table file entry = [(.text key, (Reason.badEntry file key e.message).message)] := by
  unfold ownNotes
  rw [register_eq, h, hkey]

/-- A note among `ownNotes` of an entry is under its key. -/
theorem textKey?_of_mem_ownNotes (h : (.text key, message) ∈ ownNotes table file entry) :
    textKey? entry = some key := by
  unfold ownNotes at h
  split at h
  · rename_i k _ hk _
    obtain ⟨hsame, -⟩ := Prod.mk.inj (List.mem_singleton.1 h)
    exact hk.trans (congrArg some (Value.text.inj hsame).symm)
  · cases h

theorem register_eq_error_iff :
    register table r entry = .error e ↔ compileEntry table entry = .error e := by
  rw [register_eq]
  cases compileEntry table entry <;> simp

/-! ## Step and run -/

/-- Nothing is stored under `key`, and nothing noted. -/
structure Free (r : Registry) (key : String) : Prop where
  not_stored : key ∉ r.keys
  not_noted : ¬ Noted r key

/-- An entry leaves the keys of others `Free`. -/
theorem Free.of_treats (hfree : Free r key) (h : Treats table r entry r')
    (hother : hasKey key entry = false) : Free r' key where
  not_stored := by
    rw [mem_keys_of_treats h, madeFor?_of_not_hasKey hother]
    simpa using hfree.not_stored
  not_noted := by
    rw [noted_of_treats h, hother]
    simpa using hfree.not_noted

/-- A note under a key that is `Free` comes last. -/
theorem note_of_free (hfree : Free r key) (message : String) :
    note (.text key) message r.errors = r.errors ++ [(.text key, message)] := by
  rcases note_cases (.text key) message r.errors with hlast | ⟨front, k, m, back, hrows, hsame, -⟩
  · exact hlast
  · obtain rfl := (sameKey_text_iff hsame key).2 rfl
    refine absurd ⟨m, ?_⟩ hfree.not_noted
    rw [hrows]
    exact List.mem_append_right _ (List.mem_cons_self ..)

/-- The registry `r'` is `r` with what these entries come to by themselves behind it. -/
structure Extended (table : TypeTable) (r : Registry) (entries : List Value) (r' : Registry) :
    Prop where
  file : r'.file = r.file
  fields : r'.fields = r.fields ++ entries.flatMap (ownFields table r.file)
  errors : r'.errors = r.errors ++ entries.flatMap (ownNotes table r.file)
  fileErrors : r'.fileErrors = r.fileErrors
  refused : ∀ entry ∈ entries, ∀ e, compileEntry table entry = .error e → e.IsRefusal

theorem Extended.cons (hfirst : Extended table r [entry] r')
    (hrest : Extended table r' entries r'') : Extended table r (entry :: entries) r'' where
  file := hrest.file.trans hfirst.file
  fields := by
    rw [hrest.fields, hfirst.fields, hfirst.file, List.flatMap_singleton, List.flatMap_cons,
      List.append_assoc]
  errors := by
    rw [hrest.errors, hfirst.errors, hfirst.file, List.flatMap_singleton, List.flatMap_cons,
      List.append_assoc]
  fileErrors := hrest.fileErrors.trans hfirst.fileErrors
  refused :=
    List.forall_mem_cons.2 ⟨hfirst.refused entry (List.mem_singleton_self _), hrest.refused⟩

/-- **The step.** An entry whose key is `Free` adds what it comes to by itself. -/
theorem extended_of_treats (h : Treats table r entry r') (hkey : textKey? entry = some key)
    (hfree : Free r key) : Extended table r [entry] r' := by
  have hentry := textKey?_eq_some_iff.1 hkey
  cases h with
  | incomplete hnone => cases hentry.symm.trans hnone
  | held hsome hheld =>
    obtain rfl := Option.some.inj (hentry.symm.trans hsome)
    obtain ⟨s, hs, hmem⟩ := holdsKey_iff.1 hheld
    obtain rfl := Value.text.inj hs
    exact absurd hmem hfree.not_stored
  | @stored f v hnew hcompile =>
    refine ⟨rfl, ?_, ?_, rfl, ?_⟩
    · rw [List.flatMap_singleton, ownFields_of_compile hcompile]
      exact map_put_of_not_mem hnew
    · rw [List.flatMap_singleton, ownNotes_of_compile hcompile, List.append_nil]
      rfl
    · intro other hother e he
      obtain rfl := List.mem_singleton.1 hother
      cases hcompile.symm.trans he
  | @noted k refusal reason _ hsome _ hcompile hreason hreject =>
    obtain rfl := Option.some.inj (hentry.symm.trans hsome)
    obtain rfl : .badEntry r.file key refusal.message = reason := Except.ok.inj hreason
    obtain ⟨-, ⟨hnull, -⟩ | ⟨-, rfl⟩⟩ := reject_cases hreject
    · cases hnull
    · refine ⟨rfl, ?_, ?_, rfl, ?_⟩
      · rw [List.flatMap_singleton, ownFields_of_error hcompile, List.append_nil]
        rfl
      · rw [List.flatMap_singleton, ownNotes_of_error hkey hcompile]
        exact note_of_free hfree _
      · intro other hother e he
        obtain rfl := List.mem_singleton.1 hother
        exact ⟨refusal, Except.error.inj (he.symm.trans hcompile)⟩

/-- **The run.** Entries whose keys are `Free` add what they come to, one behind the other. -/
theorem extended_of_runs (h : Runs table r entries r') (hkeyed : TextKeyed entries)
    (hfree : ∀ key ∈ entries.filterMap textKey?, Free r key) : Extended table r entries r' := by
  induction h with
  | nil => exact ⟨rfl, by simp, by simp, rfl, by simp⟩
  | @cons r mid r' entry rest hentry _ ih =>
    obtain ⟨key, hkey, hnew, hrest⟩ := hkeyed.of_cons
    rw [List.filterMap_cons_some hkey] at hfree
    obtain ⟨hfirst, hothers⟩ := List.forall_mem_cons.1 hfree
    refine (extended_of_treats hentry hkey hfirst).cons (ih hrest ?_)
    intro k hk
    refine (hothers k hk).of_treats hentry ?_
    rw [← Bool.not_eq_true, hasKey_eq_true_iff_textKey?, hkey]
    rintro ⟨rfl⟩
    exact hnew hk

/-- What is found under a key after a run from nothing is what `madeFor?` finds in its own entry. -/
theorem lookup_of_textKeyed (h : Runs table r entries r') (hstart : r.keys = [])
    (hkeyed : TextKeyed entries) (hmem : entry ∈ entries) (hkey : textKey? entry = some key) :
    r'.descriptors.lookup key = madeFor? table key entry := by
  have hnone : r.descriptors.lookup key = none := by
    rw [Table.lookup_eq_none_iff]
    show key ∉ r.keys
    simp [hstart]
  rw [lookup_of_runs h, hnone, Option.none_or]
  -- any entry that makes a field for the key is this one
  have honly {other : Value} {f : Field} (hother : other ∈ entries)
      (hmade : madeFor? table key other = some f) : entry = other :=
    eq_of_textKey? hkeyed hmem hother hkey
      (hasKey_eq_true_iff_textKey?.1 (hasKey_of_madeFor? hmade))
  cases hmade : madeFor? table key entry with
  | none =>
    rw [List.findSome?_eq_none_iff]
    intro other hother
    rw [Option.eq_none_iff_forall_ne_some]
    intro f hf
    obtain rfl := honly hother hf
    cases hmade.symm.trans hf
  | some f =>
    have hsome : (entries.findSome? (madeFor? table key)).isSome = true := by
      rw [List.findSome?_isSome_iff]
      exact ⟨entry, hmem, Option.isSome_iff_exists.2 ⟨f, hmade⟩⟩
    obtain ⟨g, hg⟩ := Option.isSome_iff_exists.1 hsome
    obtain ⟨other, hother, hmade'⟩ := List.exists_of_findSome?_eq_some hg
    obtain rfl := honly hother hmade'
    rw [hg, ← hmade', hmade]

/-! ## Whole files -/

theorem load_of_textKeyed (hlisted : listedIn d r.file = .ok entries) (hkeyed : TextKeyed entries) :
    r.load table d = loadEntries table r.cleared [] entries := by
  rw [load_of_listed hlisted]
  exact loadListed_of_no_problems (problems_of_textKeyed (writable_of_listedIn hlisted) hkeyed)

/-- A load of a file that is `TextKeyed` and comes to its end is one of `Runs` from nothing. -/
theorem runs_of_textKeyed {ks : List String} (hlisted : listedIn d r.file = .ok entries)
    (hkeyed : TextKeyed entries) (hload : (r.load table d).2 = .ok ks) :
    Runs table r.cleared entries (r.load table d).1 ∧ ks = (r.load table d).1.keys := by
  rw [load_of_textKeyed hlisted hkeyed] at hload ⊢
  obtain ⟨r', hruns, hend⟩ := runs_of_loadEntries (r := r.cleared) hload
  have hend' : loadEntries table r.cleared [] entries = (r', .ok r'.keys) := hend
  rw [hend'] at hload ⊢
  exact ⟨hruns, (Except.ok.inj hload).symm⟩

theorem free_of_cleared (r : Registry) (key : String) : Free r.cleared key where
  not_stored := List.not_mem_nil
  not_noted := by
    rintro ⟨m, hm⟩
    cases hm

/-- A load of such a file comes to its end exactly if `compileEntry` makes of each entry a field or
    a refusal. -/
theorem load_isOk_iff (hlenient : r.strict = false) (hlisted : listedIn d r.file = .ok entries)
    (hkeyed : TextKeyed entries) :
    (∃ ks, (r.load table d).2 = .ok ks) ↔
      ∀ entry ∈ entries, ∀ e, compileEntry table entry = .error e → e.IsRefusal := by
  constructor
  · rintro ⟨ks, hload⟩
    obtain ⟨hruns, -⟩ := runs_of_textKeyed hlisted hkeyed hload
    exact (extended_of_runs hruns hkeyed fun key _ => free_of_cleared r key).refused
  · intro hrefused
    rw [load_of_textKeyed hlisted hkeyed]
    rcases runs_or_stops table entries r.cleared with
      ⟨r', hruns⟩ | ⟨before, entry, after, mid, e, rfl, hbefore, hstop⟩
    · exact ⟨r'.keys, congrArg Prod.snd (loadEntries_of_runs_all hruns)⟩
    · have hmem : entry ∈ before ++ entry :: after :=
        List.mem_append_right _ (List.mem_cons_self ..)
      obtain ⟨key, hkey⟩ := hkeyed.exists_key hmem
      have hmid : mid.strict = false := (settings_of_runs hbefore).2.trans hlenient
      have hshort : ∀ k, keyOfEntry? entry = some k → ¬ k.HoldsLong := by
        intro k hk
        obtain rfl := Option.some.inj ((textKey?_eq_some_iff.1 hkey).symm.trans hk)
        exact Value.not_holdsLong_text _
      obtain ⟨-, -, -, hcompile, hnot⟩ := faulty_of_stops hmid hshort hstop
      exact absurd (hrefused entry hmem e hcompile) hnot

/-- What is noted under a key is among the `ownNotes` of its own entry. -/
theorem mem_errors_iff_of_extended (h : Extended table r entries r') (hstart : r.errors = [])
    (hkeyed : TextKeyed entries) (hmem : entry ∈ entries) (hkey : textKey? entry = some key) :
    (.text key, message) ∈ r'.errors ↔ (.text key, message) ∈ ownNotes table r.file entry := by
  rw [h.errors, hstart, List.nil_append, List.mem_flatMap]
  constructor
  · rintro ⟨other, hother, hnote⟩
    obtain rfl := eq_of_textKey? hkeyed hmem hother hkey (textKey?_of_mem_ownNotes hnote)
    exact hnote
  · intro hnote
    exact ⟨entry, hmem, hnote⟩

/-- **Entries are loaded independently of one another.** Take a file whose `entries` are
    `TextKeyed`: their keys are texts, no two the same; and a registry `r` that is not strict.  The
    load comes to its end exactly if an empty registry takes or refuses each entry.  Then the keys
    `ks` are those that are stored; the fields are the `ownFields` of the entries, with which an
    empty registry takes them, and the notes are their `ownNotes`, on the entries that it refuses,
    both in the order of the file; and nothing is noted of the file.  So an entry that another such
    file has too, with `entries'`, is stored, judges and is noted there as it is here. -/
theorem entries_load_independently (hlenient : r.strict = false)
    (hlisted : listedIn d r.file = .ok entries) (hkeyed : TextKeyed entries) :
    ((∃ ks, (r.load table d).2 = .ok ks) ↔
      ∀ entry ∈ entries, ∀ e,
        register table (empty r.file false) entry = .error e → e.IsRefusal) ∧
    ∀ ks, (r.load table d).2 = .ok ks →
      ks = (r.load table d).1.keys ∧
      ks = (entries.flatMap (ownFields table r.file)).map (·.key) ∧
      (r.load table d).1.fields = entries.flatMap (ownFields table r.file) ∧
      (r.load table d).1.errors = entries.flatMap (ownNotes table r.file) ∧
      (r.load table d).1.fileErrors = [] ∧
      ∀ d' entries' ks', listedIn d' r.file = .ok entries' → TextKeyed entries' →
        (r.load table d').2 = .ok ks' →
        ∀ entry ∈ entries, entry ∈ entries' → ∀ key, textKey? entry = some key →
          (r.load table d).1.get? key = (r.load table d').1.get? key ∧
          (∀ value, (r.load table d).1.judge key value = (r.load table d').1.judge key value) ∧
          ∀ message, (.text key, message) ∈ (r.load table d).1.errors ↔
            (.text key, message) ∈ (r.load table d').1.errors := by
  constructor
  · simp only [register_eq_error_iff]
    exact load_isOk_iff hlenient hlisted hkeyed
  · intro ks hload
    obtain ⟨hruns, rfl⟩ := runs_of_textKeyed hlisted hkeyed hload
    have hextended := extended_of_runs hruns hkeyed fun key _ => free_of_cleared r key
    have hconsistent := (load_consistent table d r).1
    have hfields : (r.load table d).1.fields = entries.flatMap (ownFields table r.file) :=
      hextended.fields
    refine ⟨rfl, ?_, hfields, hextended.errors, hextended.fileErrors, ?_⟩
    · rw [keys_eq_map_fields hconsistent, hfields]
    · intro d' entries' ks' hlisted' hkeyed' hload' entry hmem hmem' key hkey
      obtain ⟨hruns', -⟩ := runs_of_textKeyed hlisted' hkeyed' hload'
      have hextended' := extended_of_runs hruns' hkeyed' fun key _ => free_of_cleared r key
      have hlookup : (r.load table d).1.descriptors.lookup key =
          (r.load table d').1.descriptors.lookup key :=
        (lookup_of_textKeyed hruns rfl hkeyed hmem hkey).trans
          (lookup_of_textKeyed hruns' rfl hkeyed' hmem' hkey).symm
      refine ⟨?_, ?_, ?_⟩
      · unfold get?
        rw [hlookup]
      · exact judge_eq_of_lookup hconsistent (load_consistent table d' r).1 hlookup
      · intro message
        rw [mem_errors_iff_of_extended hextended rfl hkeyed hmem hkey,
          mem_errors_iff_of_extended hextended' rfl hkeyed' hmem' hkey]

/-- A file with a field whose rules are refused between two that are good. -/
def threeFields : Directory :=
  .holding "f.json" ("[\x7b\"key\": \"a\", \"type\": \"string\", \"validation\": \"min:1\"\x7d, "
    ++ "\x7b\"key\": \"b\", \"type\": \"nope\", \"validation\": \"min:1\"\x7d, "
    ++ "\x7b\"key\": \"c\", \"type\": \"number\"\x7d]")

/-- The file without its first field, and with nothing to refuse in the second. -/
def twoFields : Directory :=
  .holding "f.json" ("[\x7b\"key\": \"b\", \"type\": \"any\"\x7d, "
    ++ "\x7b\"key\": \"c\", \"type\": \"number\"\x7d]")

/-- The parts of the last entry, if all are texts or null. -/
def lastParts (entries : List Value) : Option (List (String × Option String)) :=
  match entries.getLast? with
  | some (.dict parts) => Field.writtenParts? parts
  | _ => none

theorem mem_of_lastParts {written : List (String × Option String)}
    (h : lastParts entries = some written) : .dict (written.map Field.part) ∈ entries := by
  unfold lastParts at h
  split at h
  · rename_i parts hlast
    rw [← Field.eq_of_writtenParts? h]
    exact List.mem_of_getLast? hlast
  · cases h

/-- Only the good fields of `threeFields` are loaded, and what `twoFields` does to the others makes
    no difference to the last one. -/
theorem load_threeFields :
    ∃ entries, listedIn threeFields "f.json" = .ok entries ∧
      ((empty "f.json" false).load .standard threeFields).2 = .ok ["a", "c"] ∧
      ["a", "c"] = (entries.flatMap (ownFields .standard "f.json")).map (·.key) ∧
      ((empty "f.json" false).load .standard threeFields).1.errors =
        entries.flatMap (ownNotes .standard "f.json") ∧
      ((empty "f.json" false).load .standard threeFields).1.get? "c" =
        ((empty "f.json" false).load .standard twoFields).1.get? "c" := by
  have hload : ((empty "f.json" false).load .standard threeFields).2 = .ok ["a", "c"] := by
    decide +kernel
  have hload' : ((empty "f.json" false).load .standard twoFields).2 = .ok ["b", "c"] := by
    decide +kernel
  -- both files have texts for keys, and the same last entry
  have hthree :
      (listedIn threeFields "f.json").map (fun es => (decide (TextKeyed es), lastParts es)) =
        .ok (true, some [("key", some "c"), ("type", some "number")]) := by
    decide +kernel
  have htwo :
      (listedIn twoFields "f.json").map (fun es => (decide (TextKeyed es), lastParts es)) =
        .ok (true, some [("key", some "c"), ("type", some "number")]) := by
    decide +kernel
  obtain ⟨entries, hlisted⟩ := listedIn_of_load hload
  obtain ⟨entries', hlisted'⟩ := listedIn_of_load hload'
  rw [show listedIn threeFields "f.json" = .ok entries from hlisted] at hthree
  rw [show listedIn twoFields "f.json" = .ok entries' from hlisted'] at htwo
  obtain ⟨hkeyed, hlast⟩ := Prod.mk.inj (Except.ok.inj hthree)
  obtain ⟨hkeyed', hlast'⟩ := Prod.mk.inj (Except.ok.inj htwo)
  obtain ⟨-, hends⟩ := entries_load_independently rfl hlisted (of_decide_eq_true hkeyed)
  obtain ⟨-, hkeys, -, herrors, -, hshared⟩ := hends _ hload
  refine ⟨entries, hlisted, hload, hkeys, herrors, ?_⟩
  exact (hshared twoFields entries' _ hlisted' (of_decide_eq_true hkeyed') hload' _
    (mem_of_lastParts hlast) (mem_of_lastParts hlast') "c" (by decide +kernel)).1

end Rulebook.Registry
