/-
  Strict and lenient loads of one file.

  A strict registry stops at the first problem that any other one would note.  For a file that the
  lenient load comes through, whatever the two registries held before:

      the list is not well shaped       the strict load ends with the problems of the list,
                                        and nothing is stored
      every entry makes a field         both loads store the same
      a first entry makes no field      the strict load ends with the problem of this entry,
                                        and the fields of the entries before it are stored

  1. `storeAll`, `runs_of_compiled`: entries that all make fields, each for a key of its own;
  2. `compiled_or_first_failure`: they all do, or there is a first one that does not;
  3. `loadListed_of_first_failure`, `loadListed_strictEnd`: the third case, and all of them;
  4. `strict_load_agrees`: whole files.

  The crux is the third case.  Up to the first failure the two runs store the same, by 1.  From
  there on only the lenient one goes on, and it never overwrites the problem that ended the other,
  because a well-shaped list has each key once.
-/
import Rulebook.Proofs.ListProblems

namespace Rulebook.Registry

variable {table : TypeTable} {d : Directory} {r r' : Registry} {f : Field}
  {v : Option Validator} {entry key : Value} {entries before after : List Value}
  {mades : List (Field × Option Validator)} {e : Fault}

/-! ## Entries that make fields -/

/-- A registry with more fields, those of `mades`, in order. -/
def storeAll (r : Registry) (mades : List (Field × Option Validator)) : Registry :=
  mades.foldl (fun r made => r.store made.1 made.2) r

/-- What `compileEntry` makes of the entries is `mades`. -/
def Makes (table : TypeTable) (entries : List Value) (mades : List (Field × Option Validator)) :
    Prop :=
  List.Forall₂ (fun entry made => compileEntry table entry = .ok made) entries mades

theorem filterMap_key_of_makes (h : Makes table entries mades) :
    entries.filterMap keyOfEntry? = mades.map fun made => .text made.1.key := by
  induction h with
  | nil => rfl
  | cons hentry _ ih =>
    rw [List.filterMap_cons_some (entryKey_of_compile hentry), ih, List.map_cons]

/-- In a list that is `WellShaped` no two of the fields have the same key. -/
theorem WellShaped.nodup_keys (hshape : WellShaped (entries ++ after))
    (h : Makes table entries mades) : (mades.map (·.1.key)).Nodup := by
  have hdistinct := hshape.distinct
  rw [List.filterMap_append, filterMap_key_of_makes h, List.pairwise_append,
    List.pairwise_map] at hdistinct
  rw [List.Nodup, List.pairwise_map]
  refine hdistinct.1.imp ?_
  intro a b hab
  simpa [sameKey_text] using hab

/-- Keys of `mades` that are new stay so when `f`, which has another one, is stored. -/
theorem new_of_store (hfirst : f.key ∉ r.keys) (hother : f.key ∉ mades.map (·.1.key))
    (hnew : ∀ made ∈ mades, made.1.key ∉ r.keys) :
    ∀ made ∈ mades, made.1.key ∉ (r.store f v).keys := by
  intro made hmade hmem
  rw [keys_store hfirst] at hmem
  rcases List.mem_append.1 hmem with hmem | hmem
  · exact hnew made hmade hmem
  · have hsame : made.1.key = f.key := List.mem_singleton.1 hmem
    exact hother (List.mem_map.2 ⟨made, hmade, hsame⟩)

/-- Entries that make fields, each for a key of its own (`hdistinct`) that is new (`hnew`), are run
    through and all stored. -/
theorem runs_of_compiled (h : Makes table entries mades) (hdistinct : (mades.map (·.1.key)).Nodup)
    (hnew : ∀ made ∈ mades, made.1.key ∉ r.keys) : Runs table r entries (r.storeAll mades) := by
  induction h generalizing r with
  | nil => exact .nil
  | @cons entry made rest mades hentry _ ih =>
    obtain ⟨f, v⟩ := made
    obtain ⟨hfirst, hrest⟩ := List.forall_mem_cons.1 hnew
    obtain ⟨hother, hdistinct'⟩ := List.nodup_cons.1 hdistinct
    -- storing the first field leaves the keys of the others free
    exact .cons (.stored hfirst hentry) (ih hdistinct' (new_of_store hfirst hother hrest))

theorem fields_storeAll (hdistinct : (mades.map (·.1.key)).Nodup)
    (hnew : ∀ made ∈ mades, made.1.key ∉ r.keys) :
    (r.storeAll mades).fields = r.fields ++ mades.map (·.1) := by
  induction mades generalizing r with
  | nil => simp [storeAll]
  | cons made mades ih =>
    obtain ⟨f, v⟩ := made
    obtain ⟨hfirst, hrest⟩ := List.forall_mem_cons.1 hnew
    obtain ⟨hother, hdistinct'⟩ := List.nodup_cons.1 hdistinct
    have hstore : (r.store f v).fields = r.fields ++ [f] := map_put_of_not_mem hfirst
    show ((r.store f v).storeAll mades).fields = _
    rw [ih hdistinct' (new_of_store hfirst hother hrest), hstore, List.append_assoc]
    rfl

/-- Storing touches the tables only, so `storeAll` is the same for a `strict` registry. -/
theorem storeAll_strict (strict : Bool) :
    ({ r with strict := strict } : Registry).storeAll mades =
      { r.storeAll mades with strict := strict } := by
  unfold storeAll
  induction mades generalizing r with
  | nil => rfl
  | cons made mades ih => exact ih (r := r.store made.1 made.2)

theorem notes_storeAll :
    (r.storeAll mades).errors = r.errors ∧ (r.storeAll mades).fileErrors = r.fileErrors := by
  unfold storeAll
  induction mades generalizing r with
  | nil => exact ⟨rfl, rfl⟩
  | cons made mades ih => exact ih (r := r.store made.1 made.2)

/-- Entries all make fields, or there is a first one that does not. -/
theorem compiled_or_first_failure (table : TypeTable) (entries : List Value) :
    (∃ mades, Makes table entries mades) ∨
      ∃ before entry after mades e, entries = before ++ entry :: after ∧
        Makes table before mades ∧ compileEntry table entry = .error e := by
  induction entries with
  | nil => exact .inl ⟨[], .nil⟩
  | cons entry rest ih =>
    cases hentry : compileEntry table entry with
    | error e => exact .inr ⟨[], entry, rest, [], e, rfl, .nil, hentry⟩
    | ok made =>
      rcases ih with ⟨mades, hrest⟩ | ⟨before, bad, after, mades, e, rfl, hbefore, hbad⟩
      · exact .inl ⟨made :: mades, .cons hentry hrest⟩
      · exact .inr ⟨entry :: before, bad, after, made :: mades, e, rfl, .cons hentry hbefore, hbad⟩

/-! ## The three cases -/

variable {file : String} {lenient : Registry}

/-- All the messages that are noted, in `errors` or in `fileErrors`. -/
def recorded (r : Registry) : List String := r.errors.map (·.2) ++ r.fileErrors

theorem mem_recorded_of_errors {k : Value} {m : String} (h : (k, m) ∈ r.errors) :
    m ∈ r.recorded :=
  List.mem_append_left _ (List.mem_map.2 ⟨(k, m), h, rfl⟩)

theorem mem_recorded_of_fileErrors {m : String} (h : m ∈ r.fileErrors) : m ∈ r.recorded :=
  List.mem_append_right _ h

/-- In an `empty` registry all keys are new. -/
theorem runs_of_makes (hdistinct : (mades.map (·.1.key)).Nodup) (h : Makes table entries mades)
    (file : String) (strict : Bool) :
    Runs table (empty file strict) entries ((empty file strict).storeAll mades) := by
  refine runs_of_compiled h hdistinct ?_
  intro made _ hmem
  cases hmem

theorem fields_of_makes (hdistinct : (mades.map (·.1.key)).Nodup) (file : String)
    (strict : Bool) :
    ((empty file strict).storeAll mades).fields = mades.map (·.1) := by
  have hfields := fields_storeAll (r := empty file strict) hdistinct (by
    intro made _ hmem
    cases hmem)
  rwa [show (empty file strict).fields = [] from rfl, List.nil_append] at hfields

/-- The key of an entry in a `WellShaped` list is not among those of the entries `before` it. -/
theorem WellShaped.key_not_held (hshape : WellShaped (before ++ entry :: after))
    (hbefore : Makes table before mades) (hkey : keyOfEntry? entry = some key) (file : String)
    (strict : Bool) :
    holdsKey ((empty file strict).storeAll mades) key = false := by
  rw [← Bool.not_eq_true, holdsKey_iff]
  rintro ⟨s, rfl, hmem⟩
  have hdistinct := hshape.distinct
  rw [List.filterMap_append, filterMap_key_of_makes hbefore, List.filterMap_cons_some hkey,
    List.pairwise_append] at hdistinct
  obtain ⟨-, -, hapart⟩ := hdistinct
  -- the keys that are held are those of the fields before the entry
  have hruns := runs_of_makes (hshape.nodup_keys hbefore) hbefore file strict
  have hheld := (mem_keys_of_runs hruns).1 hmem
  rcases hheld with hnone | ⟨entry, hentry, f, hmade⟩
  · cases hnone
  · have hk : keyOfEntry? entry = some (.text s) := hasKey_iff.1 (hasKey_of_madeFor? hmade)
    have hin : Value.text s ∈ before.filterMap keyOfEntry? :=
      List.mem_filterMap.2 ⟨entry, hentry, hk⟩
    rw [filterMap_key_of_makes hbefore] at hin
    have hne := hapart (.text s) hin (.text s) (List.mem_cons_self ..)
    simp [sameKey_text] at hne

/-- The message of `reason` is still `recorded` at the end, if no problem was noted before it
    (`hnone`) and its key does not come again (`hother`). -/
theorem mem_recorded_of_reject {mid noted : Registry} {reason : Reason}
    (hreject : reject mid key reason = .ok noted) (hnone : mid.errors = [])
    (hafter : Runs table noted after lenient)
    (hother : ∀ k ∈ after.filterMap keyOfEntry?, sameKey key k = false) :
    reason.message ∈ lenient.recorded := by
  obtain ⟨-, ⟨-, rfl⟩ | ⟨-, rfl⟩⟩ := reject_cases hreject
  · have hlast : reason.message ∈ mid.fileErrors ++ [reason.message] :=
      List.mem_append_right _ (List.mem_singleton_self _)
    exact mem_recorded_of_fileErrors (fileErrors_of_runs hafter hlast)
  · have hnote : (key, reason.message) ∈ note key reason.message mid.errors := by
      rw [hnone]
      exact List.mem_singleton_self _
    exact mem_recorded_of_errors (mem_errors_of_runs hafter hnote hother)

/-- **The first failure.** Let the entries `before` make fields, and `entry` be the first that does
    not.  A lenient load notes its problem, and keeps it; a strict load ends with the same
    `reason`, and with the fields of the entries `before`. -/
theorem loadListed_of_first_failure (hshape : WellShaped (before ++ entry :: after))
    (hbefore : Makes table before mades) (hfail : compileEntry table entry = .error e)
    (hruns : Runs table (empty file false) (before ++ entry :: after) lenient) :
    ∃ reason, reason.message ∈ lenient.recorded ∧
      loadEntries table (empty file true) [] (before ++ entry :: after) =
        ((empty file true).storeAll mades, .error (.refuse none reason)) := by
  have hnodup := hshape.nodup_keys hbefore
  obtain ⟨key, hkey⟩ := hshape.complete entry (List.mem_append_right _ (List.mem_cons_self ..))
  have hdistinct := hshape.distinct
  rw [List.filterMap_append, List.filterMap_cons_some hkey] at hdistinct
  have hother := (List.pairwise_cons.1 (List.pairwise_append.1 hdistinct).2.1).1
  -- the lenient run comes to the entry with the fields before it, and notes its problem
  obtain ⟨mid, hmid, hrest⟩ := runs_append_iff.1 hruns
  obtain rfl := hmid.unique (runs_of_makes hnodup hbefore file false)
  have hheld := hshape.key_not_held hbefore hkey file false
  cases hrest with
  | @cons _ noted _ _ _ hentry hafter =>
    cases hentry with
    | incomplete hnone => cases hkey.symm.trans hnone
    | held hsome hyes =>
      obtain rfl := Option.some.inj (hkey.symm.trans hsome)
      cases hheld.symm.trans hyes
    | stored _ hcompile => cases hfail.symm.trans hcompile
    | @noted key' refusal reason _ hsome _ hcompile hreason hreject =>
      obtain rfl := Option.some.inj (hkey.symm.trans hsome)
      obtain rfl := Except.error.inj (hfail.symm.trans hcompile)
      refine ⟨reason, mem_recorded_of_reject hreject notes_storeAll.1 hafter hother, ?_⟩
      -- the strict run comes to it too, and words the problem in the same way
      have hfile (strict : Bool) : ((empty file strict).storeAll mades).file = file :=
        (settings_of_runs (runs_of_makes hnodup hbefore file strict)).1
      have hstrict : ((empty file true).storeAll mades).strict = true :=
        (settings_of_runs (runs_of_makes hnodup hbefore file true)).2
      have hrefuse : reject ((empty file true).storeAll mades) key reason =
          .error (.refuse none reason) := by
        unfold reject
        rw [if_pos hstrict]
      rw [hfile false, ← hfile true] at hreason
      have hstop : Stops table ((empty file true).storeAll mades) entry (.refuse none reason) :=
        .rejected hkey (hshape.key_not_held hbefore hkey file true) hcompile hreason hrefuse
      exact loadEntries_of_stops (runs_of_makes hnodup hbefore file true) hstop after

/-- The ends of a strict load, beside the registry `lenient` that the lenient load of the same list
    leaves. -/
inductive StrictEnd (table : TypeTable) (file : String) (entries : List Value)
    (lenient : Registry) : Registry × Except Fault (List String) → Prop
  | misshapen {reason : Reason} :
    ¬ WellShaped entries → reason.message ∈ lenient.recorded →
      StrictEnd table file entries lenient (empty file true, .error (.refuse none reason))
  | complete :
    lenient.recorded = [] →
      StrictEnd table file entries lenient ({ lenient with strict := true }, .ok lenient.keys)
  | failed {before : List Value} {entry : Value} {after : List Value}
      {mades : List (Field × Option Validator)} {e : Fault} {reason : Reason} :
    WellShaped entries → entries = before ++ entry :: after → Makes table before mades →
    compileEntry table entry = .error e → reason.message ∈ lenient.recorded →
      StrictEnd table file entries lenient
        ((empty file true).storeAll mades, .error (.refuse none reason))

/-- **Two loads of one list**: the strict one has one of the ends in `StrictEnd`. -/
theorem loadListed_strictEnd {messages : List String}
    (hproblems : problems sameKey entries = .ok messages)
    (hruns : Runs table ((empty file false).noteFile messages) entries lenient) :
    StrictEnd table file entries lenient (loadListed table (empty file true) entries) := by
  by_cases hshape : WellShaped entries
  · obtain rfl := (problems_eq_nil_iff hproblems).2 hshape
    rw [loadListed_of_no_problems hproblems]
    rcases compiled_or_first_failure table entries with
      ⟨mades, hmakes⟩ | ⟨before, entry, after, mades, e, rfl, hbefore, hfail⟩
    · -- both come through, and one is the other but for being strict
      have hall : WellShaped (entries ++ []) := by rwa [List.append_nil]
      have hnodup : (mades.map (·.1.key)).Nodup := hall.nodup_keys hmakes
      obtain rfl := hruns.unique (runs_of_makes hnodup hmakes file false)
      have hend := loadEntries_of_runs_all (runs_of_makes hnodup hmakes file true)
      rw [show empty file true = { empty file false with strict := true } from rfl,
        storeAll_strict] at hend
      have hnotes : ((empty file false).storeAll mades).errors = [] ∧
          ((empty file false).storeAll mades).fileErrors = [] := notes_storeAll
      have hrecorded : ((empty file false).storeAll mades).recorded = [] := by
        unfold recorded
        rw [hnotes.1, hnotes.2]
        rfl
      show StrictEnd table file entries _
        (loadEntries table { empty file false with strict := true } [] entries)
      exact hend ▸ .complete hrecorded
    · obtain ⟨reason, hmem, hend⟩ := loadListed_of_first_failure hshape hbefore hfail hruns
      rw [hend]
      exact .failed hshape rfl hbefore hfail hmem
  · have hne : messages ≠ [] := fun hnil => hshape ((problems_eq_nil_iff hproblems).1 hnil)
    rw [noteFile_of_ne_nil hne] at hruns
    have hlast : (Reason.badEntries file messages).message ∈
        [(Reason.badEntries file messages).message] := List.mem_singleton_self _
    rw [loadListed_of_strict rfl hne hproblems]
    exact .misshapen hshape (mem_recorded_of_fileErrors (fileErrors_of_runs hruns hlast))

/-! ## Whole files -/

/-- **Strict and lenient loads agree.** Take any file that the load of the registry `lenient` comes
    through (`hload`), and a registry `strict` for the same file (`hfile`), whatever the two hold.
    If the lenient load has `recorded` nothing, the strict one comes through with the same keys and
    leaves the same registry.  If it has `recorded` something, the strict one ends with a refusal
    whose text is among it: with no fields if the list is not `WellShaped`, and else with those of
    the entries before the first that makes none.  Nothing of what the registries held has a part
    in it. -/
theorem strict_load_agrees {lenient strict : Registry} {ks : List String}
    (hlenient : lenient.strict = false) (hstrict : strict.strict = true)
    (hfile : strict.file = lenient.file) (hload : (lenient.load table d).2 = .ok ks) :
    ∃ entries, listedIn d lenient.file = .ok entries ∧
      ((lenient.load table d).1.recorded = [] →
        (strict.load table d).2 = .ok ks ∧
          (strict.load table d).1 = { (lenient.load table d).1 with strict := true }) ∧
      ((lenient.load table d).1.recorded ≠ [] →
        (∃ refusal, (strict.load table d).2 = .error (.refused refusal) ∧
          refusal.message ∈ (lenient.load table d).1.recorded) ∧
        (¬ WellShaped entries → (strict.load table d).1.fields = []) ∧
        (WellShaped entries → ∃ before entry after e, entries = before ++ entry :: after ∧
          List.Forall₂ (fun entry f => ∃ v, compileEntry table entry = .ok (f, v)) before
            (strict.load table d).1.fields ∧
          compileEntry table entry = .error e)) ∧
      (strict.load table d).1.recorded = [] ∧
      strict.load table d = (empty strict.file true).load table d ∧
      lenient.load table d = (empty lenient.file false).load table d := by
  obtain ⟨entries, messages, hlisted, hproblems, hruns, rfl⟩ := runs_of_load hlenient hload
  have hforgets (r : Registry) : r.load table d = (empty r.file r.strict).load table d := rfl
  have hcleared : lenient.cleared = empty lenient.file false := by
    unfold cleared
    rw [hlenient]
  have hstrictLoad : strict.load table d = loadListed table (empty lenient.file true) entries := by
    have hsame : listedIn d strict.file = .ok entries := hfile ▸ hlisted
    rw [load_of_listed hsame]
    unfold cleared
    rw [hstrict, hfile]
  rw [hcleared] at hruns
  have hend := loadListed_strictEnd hproblems hruns
  rw [← hstrictLoad] at hend
  refine ⟨entries, hlisted, ?_, ?_, ?_, hstrict ▸ hforgets strict, hlenient ▸ hforgets lenient⟩
  all_goals
    generalize (lenient.load table d).1 = l at hend
    generalize strict.load table d = s at hend
  · intro hnone
    cases hend with
    | misshapen _ hmem =>
      rw [hnone] at hmem
      cases hmem
    | complete => exact ⟨rfl, rfl⟩
    | failed _ _ _ _ hmem =>
      rw [hnone] at hmem
      cases hmem
  · intro hsome
    cases hend with
    | misshapen hshape hmem => exact ⟨⟨_, rfl, hmem⟩, fun _ => rfl, fun h => absurd h hshape⟩
    | complete hnone => exact absurd hnone hsome
    | @failed before entry after mades e reason hshape hsplit hbefore hfail hmem =>
      refine ⟨⟨_, rfl, hmem⟩, fun h => absurd hshape h, fun _ => ?_⟩
      refine ⟨before, entry, after, e, hsplit, ?_, hfail⟩
      rw [fields_of_makes (WellShaped.nodup_keys (hsplit ▸ hshape) hbefore),
        List.forall₂_map_right_iff]
      exact hbefore.imp fun entry made hmade => ⟨made.2, hmade⟩
  · cases hend with
    | misshapen => rfl
    | complete hnone => exact hnone
    | failed =>
      unfold recorded
      rw [notes_storeAll.1, notes_storeAll.2]
      rfl

/-- A file whose second entry has a number for its key. -/
def numberKey : Directory :=
  .holding "f.json" ("[\x7b\"key\": \"a\", \"type\": \"string\"\x7d, "
    ++ "\x7b\"key\": 7, \"type\": \"string\"\x7d, "
    ++ "\x7b\"key\": \"b\", \"type\": \"string\"\x7d]")

/-- A registry in which something is stored and noted already. -/
def usedRegistry (strict : Bool) : Registry :=
  { empty "f.json" strict with
    descriptors := [("z", ⟨"z", "string", "", none⟩)]
    validators := [("z", none)]
    errors := [(.text "y", "old")]
    fileErrors := ["older"] }

/-- The strict load of `numberKey` stops there, with the first field stored; the other one goes
    on. -/
theorem load_numberKey :
    (∃ refusal, ((usedRegistry true).load .standard numberKey).2 = .error (.refused refusal) ∧
        refusal.message ∈ ((usedRegistry false).load .standard numberKey).1.recorded) ∧
      ((usedRegistry true).load .standard numberKey).1.fields = [⟨"a", "string", "", none⟩] ∧
      ((usedRegistry false).load .standard numberKey).2 = .ok ["a", "b"] := by
  have hload : ((usedRegistry false).load .standard numberKey).2 = .ok ["a", "b"] := by
    decide +kernel
  have hnoted : ((usedRegistry false).load .standard numberKey).1.recorded ≠ [] := by
    decide +kernel
  obtain ⟨entries, hlisted, -, hends, -⟩ :=
    @strict_load_agrees .standard numberKey (usedRegistry false) (usedRegistry true) _ rfl rfl rfl
      hload
  refine ⟨(hends hnoted).1, ?_, hload⟩
  decide +kernel

end Rulebook.Registry
