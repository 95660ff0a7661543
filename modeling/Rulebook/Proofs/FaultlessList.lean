/-
  Lists of entries that load without a problem.

  A load looks for problems in three places: in the list as a whole, in the description that each
  entry is, and in the rules of each description.  A list without any of them is faultless:

      every entry describes a field · no key is there twice · all rules make validators

  1. `Faultless`: such a list, with the fields that it describes;
  2. `faultless_iff_makes`: the same by what its entries make;
  3. `load_of_faultless`: every load of such a list, strict or not, stores just these fields and
     notes nothing;
  4. `faultless_of_recorded`: a lenient load that notes nothing was one of such a list.

  The crux is 4: a problem is never dropped on the way.  If the list is well shaped, there is a
  first entry that makes no field, and what is noted of it is still there at the end.
-/
import Rulebook.Proofs.LenientLoading
import Rulebook.Proofs.StrictLoading

namespace Rulebook

theorem Field.validator?_isOk_iff {table : TypeTable} {f : Field} :
    (∃ v, f.validator? table = .ok v) ↔
      (f.hasRules = true → ∃ v, Validator.build table f.rules f.type = .ok v) := by
  unfold Field.validator?
  cases f.hasRules with
  | false => simp
  | true => cases Validator.build table f.rules f.type <;> simp

namespace Registry

variable {table : TypeTable} {d : Directory} {r : Registry} {entries : List Value}
  {fs : List Field} {mades : List (Field × Option Validator)}

/-! ## Faultless lists -/

/-- Each entry describes its field in `fs`, no two fields have the same key, and the rules of a
    field make a validator, if it has any. -/
structure Faultless (table : TypeTable) (entries : List Value) (fs : List Field) : Prop where
  described : List.Forall₂ (fun entry f => Field.ofValue entry = .ok f) entries fs
  distinct : (fs.map (·.key)).Nodup
  compiled : ∀ f ∈ fs, f.hasRules = true → ∃ v, Validator.build table f.rules f.type = .ok v

theorem described_of_makes (h : Makes table entries mades) :
    List.Forall₂ (fun entry f => Field.ofValue entry = .ok f) entries (mades.map (·.1)) := by
  rw [List.forall₂_map_right_iff]
  exact h.imp fun entry made hmade => (compileEntry_eq_ok_iff.1 hmade).1

theorem compiled_of_makes (h : Makes table entries mades) :
    ∀ made ∈ mades, ∃ v, made.1.validator? table = .ok v := by
  intro made hmade
  obtain ⟨entry, -, hentry⟩ := exists_left_of_mem h hmade
  exact ⟨_, (compileEntry_eq_ok_iff.1 hentry).2⟩

/-- Entries that describe fields (`hdescribed`) with rules that make validators (`hcompiled`) are
    such that `Makes` holds of them. -/
theorem makes_of_described
    (hdescribed : List.Forall₂ (fun entry f => Field.ofValue entry = .ok f) entries fs)
    (hcompiled : ∀ f ∈ fs, ∃ v, f.validator? table = .ok v) :
    ∃ mades, Makes table entries mades ∧ mades.map (·.1) = fs := by
  induction hdescribed with
  | nil => exact ⟨[], .nil, rfl⟩
  | @cons entry f rest fs hentry _ ih =>
    obtain ⟨⟨v, hv⟩, hrest⟩ := List.forall_mem_cons.1 hcompiled
    obtain ⟨mades, hmakes, hfields⟩ := ih hrest
    exact ⟨(f, v) :: mades, .cons (compileEntry_eq_ok_iff.2 ⟨hentry, hv⟩) hmakes,
      congrArg (f :: ·) hfields⟩

theorem faultless_iff_makes :
    Faultless table entries fs ↔
      (fs.map (·.key)).Nodup ∧ ∃ mades, Makes table entries mades ∧ mades.map (·.1) = fs := by
  constructor
  · rintro ⟨hdescribed, hdistinct, hcompiled⟩
    exact ⟨hdistinct, makes_of_described hdescribed fun f hf =>
      Field.validator?_isOk_iff.2 (hcompiled f hf)⟩
  · rintro ⟨hdistinct, mades, hmakes, rfl⟩
    refine ⟨described_of_makes hmakes, hdistinct, ?_⟩
    intro f hf
    obtain ⟨made, hmade, rfl⟩ := List.mem_map.1 hf
    exact Field.validator?_isOk_iff.1 (compiled_of_makes hmakes made hmade)

theorem nodup_of_fields (hdistinct : (fs.map (·.key)).Nodup) (hfields : mades.map (·.1) = fs) :
    (mades.map (·.1.key)).Nodup := by
  rw [← hfields, List.map_map] at hdistinct
  exact hdistinct

/-! ## Loading them -/

theorem entryKey_of_makes (h : Makes table entries mades) :
    ∀ entry ∈ entries, ∃ key, keyOfEntry? entry = some (.text key) := by
  intro entry hmem
  obtain ⟨made, -, hentry⟩ := exists_right_of_mem h hmem
  exact ⟨_, entryKey_of_compile hentry⟩

/-- Entries of which `Makes` holds, with a key of its own for each field, are `WellShaped`. -/
theorem wellShaped_of_makes (h : Makes table entries mades)
    (hdistinct : (mades.map (·.1.key)).Nodup) : WellShaped entries where
  complete := fun entry hentry =>
    let ⟨key, hkey⟩ := entryKey_of_makes h entry hentry
    ⟨.text key, hkey⟩
  distinct := by
    rw [filterMap_key_of_makes h, List.pairwise_map]
    rw [List.Nodup, List.pairwise_map] at hdistinct
    refine hdistinct.imp ?_
    intro a b hab
    simpa [sameKey_text] using hab

/-- What has a text for its key has no `unfitKey?`. -/
theorem unfitKey?_eq_none {entry : Value} {key : String}
    (h : keyOfEntry? entry = some (.text key)) : unfitKey? entry = none := by
  obtain ⟨parts, rfl, hkey, -⟩ := entryKey_eq_some_iff.1 h
  simp [unfitKey?, hkey]

/-- No message about the list is found in such entries. -/
theorem problems_of_makes (hwritable : Writable entries) (h : Makes table entries mades)
    (hdistinct : (mades.map (·.1.key)).Nodup) : problems sameKey entries = .ok [] := by
  refine problems_of_wellShaped hwritable (wellShaped_of_makes h hdistinct) ?_
  intro entry hentry
  obtain ⟨key, hkey⟩ := entryKey_of_makes h entry hentry
  exact unfitKey?_eq_none hkey

/-- **A faultless list is loaded whole**: by any registry, strict or not, with just the fields `fs`
    that it describes, and nothing `recorded`. -/
theorem load_of_faultless (hlisted : listedIn d r.file = .ok entries)
    (h : Faultless table entries fs) :
    (r.load table d).2 = .ok (fs.map (·.key)) ∧ (r.load table d).1.fields = fs ∧
      (r.load table d).1.recorded = [] := by
  obtain ⟨hdistinct, mades, hmakes, hfields⟩ := faultless_iff_makes.1 h
  have hnodup := nodup_of_fields hdistinct hfields
  have hproblems := problems_of_makes (writable_of_listedIn hlisted) hmakes hnodup
  have hload : r.load table d =
      (r.cleared.storeAll mades, .ok (r.cleared.storeAll mades).keys) := by
    rw [load_of_listed hlisted, loadListed_of_no_problems hproblems]
    exact loadEntries_of_runs_all (runs_of_makes hnodup hmakes r.file r.strict)
  have hstored : (r.load table d).1.fields = fs := by
    rw [hload]
    exact (fields_of_makes hnodup r.file r.strict).trans hfields
  have hkeys : (r.load table d).1.keys = fs.map (·.key) := by
    rw [keys_eq_map_fields (load_consistent table d r).1, hstored]
  refine ⟨?_, hstored, ?_⟩
  · rw [← hkeys, hload]
  · rw [hload]
    unfold recorded
    rw [notes_storeAll.1, notes_storeAll.2]
    rfl

/-- **Nothing is dropped**: a lenient load that has `recorded` nothing was one of a list that is
    `Faultless`. -/
theorem faultless_of_recorded {ks : List String} (hlenient : r.strict = false)
    (hload : (r.load table d).2 = .ok ks) (hnone : (r.load table d).1.recorded = []) :
    ∃ entries, listedIn d r.file = .ok entries ∧
      Faultless table entries (r.load table d).1.fields := by
  obtain ⟨entries, messages, hlisted, hproblems, hruns, -⟩ := runs_of_load hlenient hload
  have hcleared : r.cleared = empty r.file false := by
    unfold cleared
    rw [hlenient]
  rw [hcleared] at hruns
  refine ⟨entries, hlisted, ?_⟩
  -- a problem of the list would be noted among those of the file
  have hmessages : messages = [] := by
    by_contra hne
    rw [noteFile_of_ne_nil hne] at hruns
    have hnoted := mem_recorded_of_fileErrors
      (fileErrors_of_runs hruns (List.mem_append_right _ (List.mem_singleton_self _)))
    rw [hnone] at hnoted
    cases hnoted
  obtain rfl := hmessages
  have hshape : WellShaped entries := (problems_eq_nil_iff hproblems).1 rfl
  rcases compiled_or_first_failure table entries with
    ⟨mades, hmakes⟩ | ⟨before, entry, after, mades, e, rfl, hbefore, hfail⟩
  · have hall : WellShaped (entries ++ []) := by rwa [List.append_nil]
    have hnodup := hall.nodup_keys hmakes
    rw [hruns.unique (runs_of_makes hnodup hmakes r.file false), fields_of_makes hnodup]
    refine faultless_iff_makes.2 ⟨?_, mades, hmakes, rfl⟩
    rwa [List.map_map]
  · obtain ⟨reason, hnoted, -⟩ := loadListed_of_first_failure hshape hbefore hfail hruns
    rw [hnone] at hnoted
    cases hnoted

end Registry

end Rulebook
