/-
  The registry is an ordered map from keys to fields.

  It keeps two tables, the fields and their validators, and changes both at every step.  Seen from
  outside there is one list of fields:

      m ── load ──▸ whatever was compiled          m ── unregister ──▸ m without the key
      m ── register ──▸ a field replaced where it stands, or put at the end, or m

  1. `RowsAgree`, `Consistent`: the two tables, row by row, and no key twice;
  2. `Step`, `Answer`, `step`, `run`: what can be asked of a registry, one thing after the other;
  3. `Specified`: each step on the list of fields alone;
  4. `step_consistent`, `run_consistent`: consistency is preserved by every step, also by a load
     that stops halfway, and so holds after every run;
  5. `step_specified`: each step of a consistent registry is the one on its list of fields.

  The crux is `judge`: the validator that was compiled when the field arrived gives the outcome
  that compiling the rules anew would give.  That is `RowsAgree`, and needs the tables in step.
-/
import Rulebook.Proofs.Unanswered
import Rulebook.Registry.Load

namespace Rulebook

/-! ## Two tables in step -/

namespace Registry

/-- A row of the one table and a row of the other: the same key, the field's own, and the validator
    that `Field.validator?` makes of the field's rules. -/
structure RowsAgree (table : TypeTable) (field : String × Field)
    (validator : String × Option Validator) : Prop where
  key_eq : validator.1 = field.1
  own_key : field.2.key = field.1
  compiled : field.2.validator? table = .ok validator.2

/-- The tables of `r` agree row by row, and no key is there twice. -/
structure Consistent (table : TypeTable) (r : Registry) : Prop where
  rows : List.Forall₂ (RowsAgree table) r.descriptors r.validators
  distinct : r.keys.Nodup

variable {table : TypeTable} {fs : Table Field} {vs : Table (Option Validator)} {f : Field}
  {v : Option Validator} {r r' : Registry}

theorem keys_eq_of_rows (h : List.Forall₂ (RowsAgree table) fs vs) :
    Table.keys vs = Table.keys fs := by
  unfold Table.keys
  induction h with
  | nil => rfl
  | cons hrow _ ih => rw [List.map_cons, List.map_cons, hrow.key_eq, ih]

theorem own_key_of_rows (h : List.Forall₂ (RowsAgree table) fs vs) :
    ∀ row ∈ fs, row.2.key = row.1 := by
  intro row hrow
  obtain ⟨_, -, hagree⟩ := exists_right_of_mem h hrow
  exact hagree.own_key

theorem compiled_of_rows (h : List.Forall₂ (RowsAgree table) fs vs) :
    ∀ row ∈ fs, ∃ v, row.2.validator? table = .ok v := by
  intro row hrow
  obtain ⟨_, -, hagree⟩ := exists_right_of_mem h hrow
  exact ⟨_, hagree.compiled⟩

/-- Storing the field `f` and its validator `v` keeps the tables in step. -/
theorem rows_put (h : List.Forall₂ (RowsAgree table) fs vs)
    (hv : f.validator? table = .ok v) :
    List.Forall₂ (RowsAgree table) (Table.put f.key f fs) (Table.put f.key v vs) := by
  have hrow : RowsAgree table (f.key, f) (f.key, v) := ⟨rfl, rfl, hv⟩
  induction h with
  | nil => exact .cons hrow .nil
  | @cons field validator fs vs hfirst hrest ih =>
    unfold Table.put
    -- rows in step have one key, so both tables store at the same place
    rw [hfirst.key_eq]
    by_cases hkey : field.1 = f.key
    · rw [if_pos hkey, if_pos hkey]
      exact .cons hrow hrest
    · rw [if_neg hkey, if_neg hkey]
      exact .cons hfirst ih

/-- Removing `key` from both tables keeps them in step. -/
theorem rows_erase (h : List.Forall₂ (RowsAgree table) fs vs) (key : String) :
    List.Forall₂ (RowsAgree table) (Table.erase fs key) (Table.erase vs key) := by
  unfold Table.erase
  induction h with
  | nil => exact .nil
  | @cons field validator fs vs hfirst hrest ih =>
    rw [List.filter_cons, List.filter_cons, hfirst.key_eq]
    by_cases hkey : (field.1 != key) = true
    · rw [if_pos hkey, if_pos hkey]
      exact .cons hfirst ih
    · rw [if_neg hkey, if_neg hkey]
      exact ih

/-- Where the tables are in step, `key` leads to nothing in both, or to a field `f` and the
    validator `v` that its rules make. -/
theorem lookup_of_rows (h : List.Forall₂ (RowsAgree table) fs vs) (key : String) :
    (key ∉ Table.keys fs ∧ fs.lookup key = none) ∨
      ∃ f v, (key, f) ∈ fs ∧ f.key = key ∧ f.validator? table = .ok v ∧
        fs.lookup key = some f ∧ vs.lookup key = some v := by
  induction h with
  | nil => exact .inl ⟨by simp [Table.keys], rfl⟩
  | @cons field validator fs vs hfirst hrest ih =>
    obtain ⟨k, f⟩ := field
    obtain ⟨k', v⟩ := validator
    obtain rfl : k' = k := hfirst.key_eq
    by_cases hkey : key = k'
    · obtain rfl := hkey
      refine .inr ⟨f, v, List.mem_cons_self .., hfirst.own_key, hfirst.compiled, ?_, ?_⟩
      · rw [List.lookup_cons_self]
      · rw [List.lookup_cons_self]
    · have hne : (key == k') = false := by simpa using hkey
      simp only [List.lookup_cons, hne]
      rcases ih with ⟨hnot, hnone⟩ | ⟨g, w, hmem, hg, hw, hfield, hvalidator⟩
      · refine .inl ⟨?_, hnone⟩
        simp only [Table.keys, List.map_cons, List.mem_cons, not_or]
        exact ⟨hkey, hnot⟩
      · exact .inr ⟨g, w, List.mem_cons_of_mem _ hmem, hg, hw, hfield, hvalidator⟩

/-! ## Consistency -/

theorem consistent_empty (table : TypeTable) (file : String) (strict : Bool) :
    Consistent table (empty file strict) := ⟨.nil, List.nodup_nil⟩

/-- A registry `r'` with the tables of one that is `Consistent` is so, too. -/
theorem Consistent.of_tables_eq (h : Consistent table r) (hf : r'.descriptors = r.descriptors)
    (hv : r'.validators = r.validators) : Consistent table r' := by
  refine ⟨?_, ?_⟩
  · rw [hf, hv]
    exact h.rows
  · unfold keys
    rw [hf]
    exact h.distinct

/-- A key that leads to the same field in `r` and in `r'` is judged alike by both: the field's
    rules make only one validator. -/
theorem judge_eq_of_lookup (h : Consistent table r) (h' : Consistent table r') {key : String}
    (hlookup : r.descriptors.lookup key = r'.descriptors.lookup key) (value : Value) :
    r.judge key value = r'.judge key value := by
  unfold judge
  rcases lookup_of_rows h.rows key with ⟨-, hnone⟩ | ⟨f, v, -, -, hv, hfield, hvalidator⟩
  · rw [← hlookup, hnone]
  · rcases lookup_of_rows h'.rows key with
      ⟨-, hnone'⟩ | ⟨f', v', -, -, hv', hfield', hvalidator'⟩
    · cases hfield.symm.trans (hlookup.trans hnone')
    · obtain rfl : f = f' := Option.some.inj (hfield.symm.trans (hlookup.trans hfield'))
      obtain rfl : v = v' := Except.ok.inj (hv.symm.trans hv')
      rw [hfield, hfield', hvalidator, hvalidator']

theorem registerField_eq_ok_iff :
    registerField table r f = .ok r' ↔
      ∃ v, f.validator? table = .ok v ∧
        r' = { r with
          descriptors := Table.put f.key f r.descriptors
          validators := Table.put f.key v r.validators } := by
  unfold registerField
  cases f.validator? table with
  | error e => simp
  | ok v => simp [eq_comm]

theorem Consistent.registerField (h : Consistent table r)
    (hr : registerField table r f = .ok r') : Consistent table r' := by
  obtain ⟨v, hv, rfl⟩ := registerField_eq_ok_iff.1 hr
  refine ⟨rows_put h.rows hv, ?_⟩
  show (Table.keys (Table.put f.key f r.descriptors)).Nodup
  rw [Table.keys_put]
  -- the keys are the old ones, or these and one that is not among them
  by_cases hmem : f.key ∈ Table.keys r.descriptors
  · rw [if_pos hmem]
    exact h.distinct
  · rw [if_neg hmem]
    refine List.nodup_append.2 ⟨h.distinct, by simp, ?_⟩
    rintro key hkey _ hlast rfl
    obtain rfl := List.mem_singleton.1 hlast
    exact hmem hkey

theorem register_eq_ok_iff {description : Value} :
    register table r description = .ok (r', f) ↔
      Field.ofValue description = .ok f ∧ registerField table r f = .ok r' := by
  unfold register
  cases Field.ofValue description with
  | error e => simp
  | ok g =>
    dsimp only
    cases hg : registerField table r g with
    | error e =>
      constructor
      · intro h
        cases h
      · rintro ⟨h, hr⟩
        obtain rfl := Except.ok.inj h
        cases hg.symm.trans hr
    | ok r'' =>
      constructor
      · intro h
        obtain ⟨rfl, rfl⟩ := Prod.mk.inj (Except.ok.inj h)
        exact ⟨rfl, hg⟩
      · rintro ⟨h, hr⟩
        obtain rfl := Except.ok.inj h
        obtain rfl := Except.ok.inj (hg.symm.trans hr)
        rfl

theorem Consistent.unregister (h : Consistent table r) (key : String) :
    Consistent table (r.unregister key).1 := by
  unfold Registry.unregister
  by_cases hmem : r.keys.contains key = true
  · rw [if_pos hmem]
    refine ⟨rows_erase h.rows key, ?_⟩
    show (Table.keys (Table.erase r.descriptors key)).Nodup
    rw [Table.keys_erase]
    exact h.distinct.filter _
  · rw [if_neg hmem]
    exact h

/-! ## Loading -/

/-- Noting a problem, as `reject` does, touches neither table. -/
theorem tables_of_reject {key : Value} {reason : Reason} (h : reject r key reason = .ok r') :
    r'.descriptors = r.descriptors ∧ r'.validators = r.validators := by
  unfold reject at h
  split at h
  · cases h
  · split at h
    · obtain rfl := Except.ok.inj h
      exact ⟨rfl, rfl⟩
    · obtain rfl := Except.ok.inj h
      exact ⟨rfl, rfl⟩

theorem tables_of_rejectEntry {key : Value} {refusal : Refusal}
    (h : rejectEntry r key refusal = .ok r') :
    r'.descriptors = r.descriptors ∧ r'.validators = r.validators := by
  unfold rejectEntry at h
  split at h
  · cases h
  · exact tables_of_reject h

/-- The key that `Field.readKey` reads is what the description has under that name. -/
theorem get?_of_readKey {entries : List (Value × Value)} {key : String}
    (h : Field.readKey entries = .ok key) : Value.get? entries "key" = some (.text key) := by
  unfold Field.readKey at h
  split at h
  · rename_i s hs
    unfold Field.readText at hs
    split at h
    · cases h
    · obtain rfl := Except.ok.inj h
      split at hs
      · cases hs
      · rename_i hget
        obtain rfl := Except.ok.inj hs
        exact hget
      · cases hs
  · cases h

theorem readKey_of_read {description : Value} (h : Field.read description = .ok f) :
    ∃ entries, description = .dict entries ∧ Field.readKey entries = .ok f.key := by
  unfold Field.read at h
  split at h
  · rename_i entries
    split at h
    · rename_i hkey _ _ _
      obtain rfl := Except.ok.inj h
      exact ⟨entries, rfl, hkey⟩
    · cases h
  · cases h

/-- What `Field.ofValue` makes of a description is what `Field.read` reads of it. -/
theorem read_of_ofValue {description : Value} (h : Field.ofValue description = .ok f) :
    Field.read description = .ok f := by
  unfold Field.ofValue at h
  split at h
  · rename_i hread
    obtain rfl := Except.ok.inj h
    exact hread
  · cases h

/-- The field `f` that an entry describes has the key that `keyOfEntry?` finds in the entry. -/
theorem key_of_ofValue {entry key : Value} (hkey : keyOfEntry? entry = some key)
    (hf : Field.ofValue entry = .ok f) : key = .text f.key := by
  obtain ⟨entries, rfl, hentries⟩ := readKey_of_read (read_of_ofValue hf)
  unfold keyOfEntry? at hkey
  dsimp only at hkey
  split at hkey
  · exact Option.some.inj (hkey.symm.trans (get?_of_readKey hentries))
  · cases hkey

theorem keys_of_registerField (hr : registerField table r f = .ok r') (hnew : f.key ∉ r.keys) :
    r'.keys = r.keys ++ [f.key] := by
  obtain ⟨v, -, rfl⟩ := registerField_eq_ok_iff.1 hr
  show Table.keys (Table.put f.key f r.descriptors) = _
  rw [Table.keys_put]
  exact if_neg hnew

/-- **Entries, one after the other**: whether they are stored, passed over or stop the load,
    `loadEntries` leaves a `Consistent` registry, and the keys `loaded` are those that are there. -/
theorem loadEntries_consistent (entries : List Value) {loaded : List String}
    (h : Consistent table r) (hloaded : loaded = r.keys) :
    Consistent table (loadEntries table r loaded entries).1 ∧
      ∀ ks, (loadEntries table r loaded entries).2 = .ok ks →
        ks = (loadEntries table r loaded entries).1.keys := by
  induction entries generalizing r loaded with
  | nil =>
    refine ⟨h, ?_⟩
    intro ks hks
    obtain rfl := Except.ok.inj hks
    exact hloaded
  | cons entry rest ih =>
    unfold loadEntries
    split
    · exact ih h hloaded
    · rename_i key hkey
      split
      · exact ih h hloaded
      · rename_i hheld
        split
        · -- stored at the end: an entry of a key that is there would have been passed over
          rename_i r' f hr
          obtain ⟨hf, hput⟩ := register_eq_ok_iff.1 hr
          obtain rfl := key_of_ofValue hkey hf
          have hnew : f.key ∉ r.keys := by simpa [holdsKey] using hheld
          refine ih (h.registerField hput) ?_
          rw [keys_of_registerField hput hnew, hloaded]
        · split
          · -- refused and noted, and on with the next
            rename_i r' hreject
            obtain ⟨hfields, hvalidators⟩ := tables_of_rejectEntry hreject
            refine ih (h.of_tables_eq hfields hvalidators) ?_
            rw [hloaded]
            unfold keys
            rw [hfields]
          · -- a strict load stops here, with what was stored before
            refine ⟨h, ?_⟩
            intro ks hks
            cases hks
        · refine ⟨h, ?_⟩
          intro ks hks
          cases hks

theorem loadValue_consistent {value : Value} (h : Consistent table r) (hnone : r.keys = []) :
    Consistent table (loadValue table r value).1 ∧
      ∀ ks, (loadValue table r value).2 = .ok ks → ks = (loadValue table r value).1.keys := by
  unfold loadValue
  split
  · exact ⟨h, by simp⟩
  · rename_i entries _
    split
    · exact ⟨h, by simp⟩
    · exact loadEntries_consistent entries h hnone.symm
    · split
      · exact ⟨h, by simp⟩
      · rename_i r' hreject
        obtain ⟨hfields, hvalidators⟩ := tables_of_reject hreject
        refine loadEntries_consistent entries (h.of_tables_eq hfields hvalidators) ?_
        unfold keys
        rw [hfields]
        exact hnone.symm

/-- **A load**, of any file and however it ends, leaves the registry `Consistent`. -/
theorem load_consistent (table : TypeTable) (d : Directory) (r : Registry) :
    Consistent table (r.load table d).1 ∧
      ∀ ks, (r.load table d).2 = .ok ks → ks = (r.load table d).1.keys := by
  have hcleared : Consistent table r.cleared := consistent_empty table r.file r.strict
  unfold load
  split
  · refine ⟨hcleared, ?_⟩
    intro ks hks
    obtain rfl := Except.ok.inj hks
    rfl
  · exact ⟨hcleared, by simp⟩
  · split
    · exact ⟨hcleared, by simp⟩
    · exact loadValue_consistent hcleared rfl

/-! ## Steps and runs -/

/-- What can be asked of a registry.  A field arrives as a value that describes it (`register`), or
    as itself (`registerField`). -/
inductive Step
  | load (d : Directory)
  | register (description : Value)
  | registerField (f : Field)
  | unregister (key : String)
  | get (key : String)
  | list
  | judge (key : String) (value : Value)

/-- What a registry answers to a `Step`. -/
inductive Answer
  | loaded (keys : Except Fault (List String))
  | registered (f : Except Fault Field)
  | unregistered (found : Bool)
  | got (f : Option Field)
  | listed (fields : List Field)
  | judged (outcome : Except Fault (Option Outcome))

/-- One step, and the answer to it. -/
def step (table : TypeTable) (r : Registry) : Step → Registry × Answer
  | .load d => ((r.load table d).1, .loaded (r.load table d).2)
  | .register description =>
    match register table r description with
    | .ok (r', f) => (r', .registered (.ok f))
    | .error e => (r, .registered (.error e))
  | .registerField f =>
    match registerField table r f with
    | .ok r' => (r', .registered (.ok f))
    | .error e => (r, .registered (.error e))
  | .unregister key => ((r.unregister key).1, .unregistered (r.unregister key).2)
  | .get key => (r, .got ((r.get? key).map (·.field)))
  | .list => (r, .listed r.fields)
  | .judge key value => (r, .judged (r.judge key value))

/-- What is left of a registry after `steps`. -/
def run (table : TypeTable) (r : Registry) (steps : List Step) : Registry :=
  steps.foldl (fun r s => (step table r s).1) r

/-- **The step** keeps a registry `Consistent`. -/
theorem step_consistent (h : Consistent table r) (s : Step) :
    Consistent table (step table r s).1 := by
  cases s with
  | load d => exact (load_consistent table d r).1
  | register description =>
    unfold step
    dsimp only
    split
    · rename_i hr
      exact h.registerField (register_eq_ok_iff.1 hr).2
    · exact h
  | registerField f =>
    unfold step
    dsimp only
    split
    · rename_i hr
      exact h.registerField hr
    · exact h
  | unregister key => exact h.unregister key
  | get _ => exact h
  | list => exact h
  | judge _ _ => exact h

/-- **The run** keeps a registry `Consistent`. -/
theorem run_consistent (steps : List Step) (h : Consistent table r) :
    Consistent table (run table r steps) := by
  unfold run
  induction steps generalizing r with
  | nil => exact h
  | cons s steps ih => exact ih (step_consistent h s)

/-! ## The map -/

/-- The field that a step brings, or the fault for which it brings none. -/
inductive Brings : Step → Except Fault Field → Prop
  | described (description : Value) : Brings (.register description) (Field.ofValue description)
  | itself (f : Field) : Brings (.registerField f) (.ok f)

/-- A step on an ordered map, given as the list `m` of its fields: the map after it, and the
    answer. -/
inductive Specified (table : TypeTable) (m : List Field) : Step → List Field → Answer → Prop
  | loaded {d : Directory} {fs : List Field} {result : Except Fault (List String)} :
    (∀ f ∈ fs, ∃ v, f.validator? table = .ok v) → (fs.map (·.key)).Nodup →
    (∀ ks, result = .ok ks → ks = fs.map (·.key)) →
      Specified table m (.load d) fs (.loaded result)
  | undescribed {s : Step} {e : Fault} :
    Brings s (.error e) → Specified table m s m (.registered (.error e))
  | uncompiled {s : Step} {f : Field} {e : Fault} :
    Brings s (.ok f) → f.validator? table = .error e →
      Specified table m s m (.registered (.error e))
  | replaced {s : Step} {before after : List Field} {f g : Field} {v : Option Validator} :
    Brings s (.ok f) → f.validator? table = .ok v → m = before ++ g :: after → g.key = f.key →
      Specified table m s (before ++ f :: after) (.registered (.ok f))
  | appended {s : Step} {f : Field} {v : Option Validator} :
    Brings s (.ok f) → f.validator? table = .ok v → f.key ∉ m.map (·.key) →
      Specified table m s (m ++ [f]) (.registered (.ok f))
  | unregistered {key : String} :
    Specified table m (.unregister key) (m.filter (·.key != key))
      (.unregistered ((m.map (·.key)).contains key))
  | got {key : String} : Specified table m (.get key) m (.got (m.find? (·.key == key)))
  | listed : Specified table m .list m (.listed m)
  | unknown {key : String} {value : Value} :
    key ∉ m.map (·.key) →
      Specified table m (.judge key value) m (.judged (.error (.unknownField key)))
  | judged {f : Field} {value : Value} :
    f ∈ m → Specified table m (.judge f.key value) m (.judged (f.judge table value))

theorem keys_eq_map_fields (h : Consistent table r) : r.keys = r.fields.map (·.key) := by
  unfold keys fields Table.keys
  rw [List.map_map]
  exact List.map_congr_left fun row hrow => (own_key_of_rows h.rows row hrow).symm

/-- Storing `f` under a key that is there replaces the field `g` that has it. -/
theorem map_put_of_mem (hown : ∀ row ∈ fs, row.2.key = row.1) (hmem : f.key ∈ Table.keys fs) :
    ∃ before g after, fs.map (·.2) = before ++ g :: after ∧ g.key = f.key ∧
      (Table.put f.key f fs).map (·.2) = before ++ f :: after := by
  induction fs with
  | nil => simp [Table.keys] at hmem
  | cons row fs ih =>
    obtain ⟨hrow, hrest⟩ := List.forall_mem_cons.1 hown
    unfold Table.put
    by_cases hkey : row.1 = f.key
    · rw [if_pos hkey]
      exact ⟨[], row.2, fs.map (·.2), rfl, hrow.trans hkey, rfl⟩
    · rw [if_neg hkey]
      have hmem' : f.key ∈ Table.keys fs := by
        rcases List.mem_cons.1 hmem with he | he
        · exact absurd he.symm hkey
        · exact he
      obtain ⟨before, g, after, hsplit, hg, hput⟩ := ih hrest hmem'
      exact ⟨row.2 :: before, g, after, by simp [hsplit], hg, by simp [hput]⟩

/-- Storing `f` under a new key puts it at the end. -/
theorem map_put_of_not_mem (hnew : f.key ∉ Table.keys fs) :
    (Table.put f.key f fs).map (·.2) = fs.map (·.2) ++ [f] := by
  induction fs with
  | nil => rfl
  | cons row fs ih =>
    simp only [Table.keys, List.map_cons, List.mem_cons, not_or] at hnew
    unfold Table.put
    rw [if_neg (fun he => hnew.1 he.symm), List.map_cons, ih hnew.2]
    rfl

/-- Removing `key` removes the field that has it. -/
theorem map_erase (hown : ∀ row ∈ fs, row.2.key = row.1) (key : String) :
    (Table.erase fs key).map (·.2) = (fs.map (·.2)).filter (·.key != key) := by
  have hsame : ∀ row ∈ fs, (row.1 != key) = (row.2.key != key) := by
    intro row hrow
    rw [hown row hrow]
  unfold Table.erase
  rw [List.filter_map, List.filter_congr hsame]
  rfl

theorem lookup_eq_find? (hown : ∀ row ∈ fs, row.2.key = row.1) (key : String) :
    fs.lookup key = (fs.map (·.2)).find? (·.key == key) := by
  induction fs with
  | nil => rfl
  | cons row fs ih =>
    obtain ⟨hrow, hrest⟩ := List.forall_mem_cons.1 hown
    obtain ⟨k, f⟩ := row
    obtain rfl : f.key = k := hrow
    rw [List.map_cons, List.find?_cons, List.lookup_cons, ih hrest, Bool.beq_comm]

/-- A field `f` that a step `Brings` is stored, or refused with the registry left as it is; either
    is `Specified`. -/
theorem registerField_specified {s : Step} (h : Consistent table r) (hs : Brings s (.ok f)) :
    (∃ r', registerField table r f = .ok r' ∧
        Specified table r.fields s r'.fields (.registered (.ok f))) ∨
      ∃ e, registerField table r f = .error e ∧
        Specified table r.fields s r.fields (.registered (.error e)) := by
  cases hv : f.validator? table with
  | error e =>
    refine .inr ⟨e, ?_, .uncompiled hs hv⟩
    unfold registerField
    rw [hv]
  | ok v =>
    refine .inl ⟨_, registerField_eq_ok_iff.2 ⟨v, hv, rfl⟩, ?_⟩
    -- in place of a field that has the key, or else at the end
    by_cases hmem : f.key ∈ r.keys
    · obtain ⟨before, g, after, hsplit, hg, hput⟩ := map_put_of_mem (own_key_of_rows h.rows) hmem
      have hfields : r.fields = before ++ g :: after := hsplit
      show Specified table r.fields s ((Table.put f.key f r.descriptors).map (·.2)) _
      rw [hput]
      exact .replaced hs hv hfields hg
    · show Specified table r.fields s ((Table.put f.key f r.descriptors).map (·.2)) _
      rw [map_put_of_not_mem hmem]
      rw [keys_eq_map_fields h] at hmem
      exact .appended hs hv hmem

/-- A judgement by `key` is `Specified`: it has the outcome that the field's rules give, read
    anew. -/
theorem judge_specified (h : Consistent table r) (key : String) (value : Value) :
    Specified table r.fields (.judge key value) r.fields (.judged (r.judge key value)) := by
  unfold judge
  rcases lookup_of_rows h.rows key with ⟨hnot, hnone⟩ | ⟨f, v, hmem, rfl, hv, hfield, hvalidator⟩
  · rw [hnone]
    refine .unknown ?_
    rw [← keys_eq_map_fields h]
    exact hnot
  · have hfields : f ∈ r.fields := List.mem_map.2 ⟨(f.key, f), hmem, rfl⟩
    -- the validator in the table is the one that compiling the rules anew gives
    have houtcome : f.judge table value = .ok none ∧ v = none ∨
        ∃ w, f.judge table value = f.outcome w value ∧ v = some w := by
      unfold Field.judge
      rw [hv]
      cases v with
      | none => exact .inl ⟨rfl, rfl⟩
      | some w => exact .inr ⟨w, rfl, rfl⟩
    rw [hfield, hvalidator]
    rcases houtcome with ⟨hjudge, rfl⟩ | ⟨w, hjudge, rfl⟩
    · show Specified table r.fields (.judge f.key value) r.fields (.judged (.ok none))
      rw [← hjudge]
      exact .judged hfields
    · show Specified table r.fields (.judge f.key value) r.fields (.judged (f.outcome w value))
      rw [← hjudge]
      exact .judged hfields

theorem load_specified (table : TypeTable) (d : Directory) (r : Registry) :
    Specified table r.fields (.load d) (r.load table d).1.fields
      (.loaded (r.load table d).2) := by
  obtain ⟨hload, hkeys⟩ := load_consistent table d r
  have hdistinct := hload.distinct
  rw [keys_eq_map_fields hload] at hdistinct hkeys
  refine .loaded ?_ hdistinct hkeys
  intro f hf
  obtain ⟨row, hrow, rfl⟩ := List.mem_map.1 hf
  exact compiled_of_rows hload.rows row hrow

theorem unregister_specified (h : Consistent table r) (key : String) :
    Specified table r.fields (.unregister key) (r.unregister key).1.fields
      (.unregistered (r.unregister key).2) := by
  have hfound : (r.unregister key).2 = (r.fields.map (·.key)).contains key := by
    rw [← keys_eq_map_fields h]
    unfold unregister
    cases r.keys.contains key <;> rfl
  have hfields : (r.unregister key).1.fields = r.fields.filter (·.key != key) := by
    unfold unregister
    split
    · exact map_erase (own_key_of_rows h.rows) key
    · -- the key is not there, and nothing is removed
      rename_i hnot
      have hall : ∀ f ∈ r.fields, (f.key != key) = true := by
        intro f hf
        rw [bne_iff_ne]
        rintro rfl
        rw [keys_eq_map_fields h, List.contains_iff_mem] at hnot
        exact hnot (List.mem_map.2 ⟨f, hf, rfl⟩)
      exact (List.filter_eq_self.2 hall).symm
  rw [hfound, hfields]
  exact .unregistered

theorem get_specified (h : Consistent table r) (key : String) :
    Specified table r.fields (.get key) r.fields (.got ((r.get? key).map (·.field))) := by
  have hgot : (r.get? key).map (·.field) = r.fields.find? (·.key == key) := by
    unfold get? fields
    rw [← lookup_eq_find? (own_key_of_rows h.rows) key, Option.map_map]
    exact Option.map_id'
  rw [hgot]
  exact .got

/-- **Each step of a consistent registry** is `Specified` on its list of fields. -/
theorem step_specified (h : Consistent table r) (s : Step) :
    Specified table r.fields s (step table r s).1.fields (step table r s).2 := by
  cases s with
  | load d => exact load_specified table d r
  | register description =>
    unfold step register
    dsimp only
    cases hf : Field.ofValue description with
    | error e =>
      have hbrings : Brings (.register description) (.error e) := hf ▸ .described description
      exact .undescribed hbrings
    | ok f =>
      have hbrings : Brings (.register description) (.ok f) := hf ▸ .described description
      rcases registerField_specified h hbrings with ⟨r', hr, hspec⟩ | ⟨e, hr, hspec⟩
      · simp only [hr]
        exact hspec
      · simp only [hr]
        exact hspec
  | registerField f =>
    unfold step
    dsimp only
    rcases registerField_specified h (.itself f) with ⟨r', hr, hspec⟩ | ⟨e, hr, hspec⟩
    · rw [hr]
      exact hspec
    · rw [hr]
      exact hspec
  | unregister key => exact unregister_specified h key
  | get key => exact get_specified h key
  | list => exact .listed
  | judge key value => exact judge_specified h key value

/-! ## What is left of a run -/

theorem outcome_error_ofValue {w : Validator} {value : Value} {e : Fault}
    (h : f.outcome w value = .error e) : e.OfValue := by
  unfold Field.outcome at h
  split at h
  · rename_i hjudge
    obtain rfl := Except.error.inj h
    exact Validator.judge_error_ofValue hjudge
  · cases h
  · cases h

/-- The fault `unknownField` is that of a key that is not there; no judgement ends that way. -/
theorem judge_unknownField_iff (h : Consistent table r) {key unknown : String} {value : Value} :
    r.judge key value = .error (.unknownField unknown) ↔ unknown = key ∧ key ∉ r.keys := by
  unfold judge
  rcases lookup_of_rows h.rows key with ⟨hnot, hnone⟩ | ⟨f, v, hmem, rfl, -, hfield, hvalidator⟩
  · rw [hnone]
    constructor
    · intro hunknown
      exact ⟨(Fault.unknownField.inj (Except.error.inj hunknown)).symm, hnot⟩
    · rintro ⟨rfl, -⟩
      rfl
  · have hkey : f.key ∈ r.keys := List.mem_map.2 ⟨(f.key, f), hmem, rfl⟩
    rw [hfield, hvalidator]
    constructor
    · -- a judgement fails only for what the value is, and no value is an unknown key
      intro hunknown
      cases v with
      | none => cases hunknown
      | some w => cases outcome_error_ofValue hunknown
    · rintro ⟨-, hnot⟩
      exact absurd hkey hnot

/-- A step that brings a field and is refused leaves everything as it was. -/
theorem step_of_refused {s : Step} {e : Fault} (h : (step table r s).2 = .registered (.error e)) :
    (step table r s).1 = r := by
  cases s with
  | register description =>
    unfold step at h ⊢
    dsimp only at h ⊢
    split at h
    · cases h
    · rfl
  | registerField f =>
    unfold step at h ⊢
    dsimp only at h ⊢
    split at h
    · cases h
    · rfl
  | _ => cases h

/-- **The registry is an ordered map.** Let `r` be an empty registry after any `steps`, loads that
    fail halfway among them.  Both tables have the same keys, none of them twice, and each field is
    under its own.  The `next` step is as `Specified` on `r.fields`; if it is a field refused,
    nothing has changed; and `judge` calls a key unknown exactly if it is not among `r.keys`. -/
theorem run_ordered_map (table : TypeTable) (file : String) (strict : Bool) (steps : List Step)
    (next : Step) :
    let r := run table (empty file strict) steps
    Table.keys r.validators = Table.keys r.descriptors ∧ (Table.keys r.descriptors).Nodup ∧
      (∀ row ∈ r.descriptors, row.2.key = row.1) ∧
      Specified table r.fields next (step table r next).1.fields (step table r next).2 ∧
      (∀ e, (step table r next).2 = .registered (.error e) → (step table r next).1 = r) ∧
      ∀ (key unknown : String) (value : Value),
        r.judge key value = .error (.unknownField unknown) ↔ unknown = key ∧ key ∉ r.keys := by
  intro r
  have h : Consistent table r := run_consistent steps (consistent_empty table file strict)
  refine ⟨keys_eq_of_rows h.rows, h.distinct, own_key_of_rows h.rows, step_specified h next, ?_, ?_⟩
  · intro e he
    exact step_of_refused he
  · intro key unknown value
    exact judge_unknownField_iff h

end Registry

end Rulebook
