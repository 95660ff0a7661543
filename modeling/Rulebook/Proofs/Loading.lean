/-
  A load, entry by entry.

  A load reads the list of entries that a file holds, looks the list over as a whole, and then
  works through the entries from the front.  Each entry is passed over, stored or noted, and then
  the next one is up; or it stops the load:

      r ── passed over ──▸ r              r ── stored ──▸ r with its field
      r ── noted ──▸ r with a note        r ── stops ──▸ no more

  1. `listedIn`, `loadListed`, `load_of_listed`: the entries of a file, and the load of a list;
  2. `compileEntry`: the field that an entry makes, and the validator of its rules;
  3. `Treats`, `Stops`: all that can become of one entry, and `treats_or_stops` that one does;
  4. `Runs`: entries worked through one after the other, and `runs_or_stops` for any list of them;
  5. `Runs.preserves`: what every entry preserves, a run preserves, such as the settings and what
     is noted of the file;
  6. `lookup_of_runs`: under each key a run stores the first field that the entries make for it;
  7. `runs_of_load`: a load that comes to its end is a run through all the entries of the file.

  What holds of every load is proved for one entry by the cases of `Treats`, and for a run by
  `Runs.preserves` or by induction on `Runs`.  The keys that a load reports need no account of
  their own: they are the keys that are stored.
-/
import Rulebook.Proofs.OrderedMap
import Rulebook.Proofs.Refusal

namespace Rulebook

/-! ## Tables -/

namespace Table

variable {α : Type}

/-- What `put` stores under `key` is found under it, and nothing else changes. -/
theorem lookup_put (key k : String) (a : α) (t : Table α) :
    (put key a t).lookup k = if k = key then some a else t.lookup k := by
  induction t with
  | nil =>
    by_cases hk : k = key
    · simp [put, hk]
    · simp [put, hk]
  | cons row rows ih =>
    obtain ⟨first, b⟩ := row
    unfold put
    by_cases hfirst : first = key
    · obtain rfl := hfirst
      by_cases hk : k = first
      · simp [hk]
      · have hne : (k == first) = false := by simpa using hk
        simp [hk, List.lookup_cons, hne]
    · rw [if_neg hfirst, List.lookup_cons, List.lookup_cons, ih]
      by_cases hk : k = first
      · obtain rfl := hk
        simp [hfirst]
      · have hne : (k == first) = false := by simpa using hk
        rw [hne]

theorem mem_keys_iff {key : String} {t : Table α} :
    key ∈ keys t ↔ ∃ a, t.lookup key = some a := by
  unfold keys
  induction t with
  | nil => simp
  | cons row rows ih =>
    obtain ⟨first, b⟩ := row
    rw [List.map_cons, List.mem_cons, ih, List.lookup_cons]
    by_cases hkey : key = first
    · simp [hkey]
    · have hne : (key == first) = false := by simpa using hkey
      simp [hkey, hne]

theorem lookup_eq_none_iff {key : String} {t : Table α} : t.lookup key = none ↔ key ∉ keys t := by
  rw [Option.eq_none_iff_forall_ne_some, mem_keys_iff, not_exists]

end Table

/-- A directory with one file, named `file`, of this `text`. -/
def Directory.holding (file text : String) : Directory := .write .empty file text.toUTF8.toList

namespace Registry

variable {table : TypeTable} {d : Directory} {r r' r'' : Registry} {f : Field}
  {v : Option Validator} {entry key : Value} {entries before after : List Value} {e : Fault}

/-! ## What a file lists -/

/-- The entries that `file` lists, none if there is no file; or the fault for which it lists
    none. -/
def listedIn (d : Directory) (file : String) : Except Fault (List Value) :=
  match d.look file with
  | .nothing => .ok []
  | .directory => .error (.directory file)
  | .file bytes =>
    match readFile file bytes with
    | .error e => .error e
    | .ok value =>
      match entriesOf? value with
      | none => .error (.refuse none (.noList file))
      | some entries => .ok entries

/-- Loads a list of entries into a registry without fields. -/
def loadListed (table : TypeTable) (r : Registry) (entries : List Value) :
    Registry × Except Fault (List String) :=
  match problems sameKey entries with
  | .error e => (r, .error e)
  | .ok [] => loadEntries table r [] entries
  | .ok messages =>
    match rejectFile r messages with
    | .error e => (r, .error e)
    | .ok r' => loadEntries table r' [] entries

/-- A load is `loadListed` of the list in the file. -/
theorem load_of_listed (h : listedIn d r.file = .ok entries) :
    r.load table d = loadListed table r.cleared entries := by
  unfold listedIn at h
  unfold load
  cases hlook : d.look r.file with
  | nothing =>
    rw [hlook] at h
    obtain rfl := Except.ok.inj h
    rfl
  | directory =>
    rw [hlook] at h
    cases h
  | file bytes =>
    rw [hlook] at h
    dsimp only at h ⊢
    cases hread : readFile r.file bytes with
    | error e =>
      rw [hread] at h
      cases h
    | ok value =>
      rw [hread] at h
      dsimp only at h ⊢
      unfold loadValue loadListed
      cases hentries : entriesOf? value with
      | none =>
        rw [hentries] at h
        cases h
      | some listed =>
        rw [hentries] at h
        obtain rfl := Except.ok.inj h
        rfl

/-- A file that lists nothing ends the load, with nothing loaded. -/
theorem load_of_not_listed (h : listedIn d r.file = .error e) :
    r.load table d = (r.cleared, .error e) := by
  unfold listedIn at h
  unfold load
  cases hlook : d.look r.file with
  | nothing =>
    rw [hlook] at h
    cases h
  | directory =>
    rw [hlook] at h
    obtain rfl := Except.error.inj h
    rfl
  | file bytes =>
    rw [hlook] at h
    dsimp only at h ⊢
    cases hread : readFile r.file bytes with
    | error e' =>
      rw [hread] at h
      obtain rfl := Except.error.inj h
      rfl
    | ok value =>
      rw [hread] at h
      dsimp only at h ⊢
      unfold loadValue
      cases hentries : entriesOf? value with
      | none =>
        rw [hentries] at h
        obtain rfl := Except.error.inj h
        rfl
      | some listed =>
        rw [hentries] at h
        cases h

theorem listedIn_of_load {ks : List String} (h : (r.load table d).2 = .ok ks) :
    ∃ entries, listedIn d r.file = .ok entries := by
  cases hlisted : listedIn d r.file with
  | ok entries => exact ⟨entries, rfl⟩
  | error e =>
    rw [load_of_not_listed hlisted] at h
    cases h

/-! ## One entry -/

/-- The field that an entry makes, and the validator of its rules. -/
def compileEntry (table : TypeTable) (entry : Value) : Except Fault (Field × Option Validator) :=
  match Field.ofValue entry with
  | .error e => .error e
  | .ok f =>
    match f.validator? table with
    | .ok v => .ok (f, v)
    | .error e => .error e

/-- A registry with one more field `f`, whose validator is `v`. -/
def store (r : Registry) (f : Field) (v : Option Validator) : Registry :=
  { r with
    descriptors := Table.put f.key f r.descriptors
    validators := Table.put f.key v r.validators }

theorem compileEntry_eq_ok_iff :
    compileEntry table entry = .ok (f, v) ↔
      Field.ofValue entry = .ok f ∧ f.validator? table = .ok v := by
  unfold compileEntry
  cases Field.ofValue entry with
  | error e => simp
  | ok g =>
    dsimp only
    cases hg : g.validator? table with
    | error e =>
      constructor
      · intro h
        cases h
      · rintro ⟨h, hv⟩
        obtain rfl := Except.ok.inj h
        cases hg.symm.trans hv
    | ok w =>
      constructor
      · intro h
        obtain ⟨rfl, rfl⟩ := Prod.mk.inj (Except.ok.inj h)
        exact ⟨rfl, hg⟩
      · rintro ⟨h, hv⟩
        obtain rfl := Except.ok.inj h
        obtain rfl := Except.ok.inj (hg.symm.trans hv)
        rfl

/-- An entry is registered by storing what `compileEntry` makes of it. -/
theorem register_eq :
    register table r entry =
      match compileEntry table entry with
      | .ok (f, v) => .ok (r.store f v, f)
      | .error e => .error e := by
  unfold register registerField compileEntry
  cases Field.ofValue entry with
  | error e => rfl
  | ok f =>
    dsimp only
    cases f.validator? table <;> rfl

theorem get?_type_of_read (h : Field.read entry = .ok f) :
    ∃ parts, entry = .dict parts ∧ Value.get? parts "key" = some (.text f.key) ∧
      (Value.get? parts "type").isSome := by
  unfold Field.read at h
  split at h
  · rename_i parts
    split at h
    · rename_i key type _ _ hkey htype _ _
      obtain rfl := Except.ok.inj h
      refine ⟨parts, rfl, get?_of_readKey hkey, ?_⟩
      unfold Field.readText at htype
      split at htype
      · cases htype
      · rename_i hget
        rw [hget]
        rfl
      · cases htype
    · cases h
  · cases h

/-- An entry has a key for `keyOfEntry?`, whatever it is, exactly if it is an object with both
    parts. -/
theorem entryKey_eq_some_iff :
    keyOfEntry? entry = some key ↔
      ∃ parts, entry = .dict parts ∧ Value.get? parts "key" = some key ∧
        (Value.get? parts "type").isSome := by
  cases entry with
  | dict parts =>
    unfold keyOfEntry? missingParts requiredParts
    cases hkey : Value.get? parts "key" with
    | none => simp [hkey]
    | some k =>
      cases htype : Value.get? parts "type" with
      | none => simp [htype]
      | some t => simp [hkey, htype]
  | _ => simp [ keyOfEntry?]

/-- The field `f` that `Field.ofValue` makes of an entry has the entry's key. -/
theorem entryKey_of_ofValue (h : Field.ofValue entry = .ok f) :
    keyOfEntry? entry = some (.text f.key) := by
  obtain ⟨parts, rfl, hkey, htype⟩ := get?_type_of_read (read_of_ofValue h)
  exact entryKey_eq_some_iff.2 ⟨parts, rfl, hkey, htype⟩

/-- So has the field `f` that `compileEntry` makes. -/
theorem entryKey_of_compile (h : compileEntry table entry = .ok (f, v)) :
    keyOfEntry? entry = some (.text f.key) :=
  entryKey_of_ofValue (compileEntry_eq_ok_iff.1 h).1

theorem holdsKey_iff : holdsKey r key = true ↔ ∃ s, key = .text s ∧ s ∈ r.keys := by
  cases key <;> simp [holdsKey]

theorem keys_store (hnew : f.key ∉ r.keys) : (r.store f v).keys = r.keys ++ [f.key] := by
  show Table.keys (Table.put f.key f r.descriptors) = _
  rw [Table.keys_put]
  exact if_neg hnew

/-- What becomes of a registry `r` through an entry that does not stop the load: `r` itself if the
    entry has no key (`incomplete`) or one that is taken (`held`), `r` with the entry's field, or
    `r` with its problem noted. -/
inductive Treats (table : TypeTable) (r : Registry) (entry : Value) : Registry → Prop
  | incomplete : keyOfEntry? entry = none → Treats table r entry r
  | held {key : Value} :
    keyOfEntry? entry = some key → holdsKey r key = true → Treats table r entry r
  | stored {f : Field} {v : Option Validator} :
    f.key ∉ r.keys → compileEntry table entry = .ok (f, v) → Treats table r entry (r.store f v)
  | noted {key : Value} {refusal : Refusal} {reason : Reason} {r' : Registry} :
    keyOfEntry? entry = some key → holdsKey r key = false →
    compileEntry table entry = .error (.refused refusal) →
    entryReason r.file key refusal = .ok reason → reject r key reason = .ok r' →
      Treats table r entry r'

/-- How an entry stops a load: its rules make neither a validator nor a refusal (`faulty`), or it
    is refused and the reason cannot be worded (`unworded`), or the load is strict. -/
inductive Stops (table : TypeTable) (r : Registry) (entry : Value) : Fault → Prop
  | faulty {key : Value} {e : Fault} :
    keyOfEntry? entry = some key → holdsKey r key = false →
    compileEntry table entry = .error e → ¬ e.IsRefusal → Stops table r entry e
  | unworded {key : Value} {refusal : Refusal} {e : Fault} :
    keyOfEntry? entry = some key → holdsKey r key = false →
    compileEntry table entry = .error (.refused refusal) →
    entryReason r.file key refusal = .error e → Stops table r entry e
  | rejected {key : Value} {refusal : Refusal} {reason : Reason} {e : Fault} :
    keyOfEntry? entry = some key → holdsKey r key = false →
    compileEntry table entry = .error (.refused refusal) →
    entryReason r.file key refusal = .ok reason → reject r key reason = .error e →
      Stops table r entry e

/-- **One entry**: `Treats` says what becomes of it, or `Stops` does. -/
theorem treats_or_stops (table : TypeTable) (r : Registry) (entry : Value) :
    (∃ r', Treats table r entry r') ∨ ∃ e, Stops table r entry e := by
  cases hkey : keyOfEntry? entry with
  | none => exact .inl ⟨r, .incomplete hkey⟩
  | some key =>
    cases hheld : holdsKey r key with
    | true => exact .inl ⟨r, .held hkey hheld⟩
    | false =>
      cases hcompile : compileEntry table entry with
      | ok made =>
        -- what makes a field has the field's key, so that key is a text and free
        obtain ⟨f, v⟩ := made
        obtain rfl : key = .text f.key :=
          Option.some.inj (hkey.symm.trans (entryKey_of_compile hcompile))
        have hnew : f.key ∉ r.keys := by simpa [holdsKey] using hheld
        exact .inl ⟨_, .stored hnew hcompile⟩
      | error e =>
        by_cases href : e.IsRefusal
        · obtain ⟨refusal, rfl⟩ := href
          cases hreason : entryReason r.file key refusal with
          | error e => exact .inr ⟨e, .unworded hkey hheld hcompile hreason⟩
          | ok reason =>
            cases hreject : reject r key reason with
            | error e => exact .inr ⟨e, .rejected hkey hheld hcompile hreason hreject⟩
            | ok r' => exact .inl ⟨r', .noted hkey hheld hcompile hreason hreject⟩
        · exact .inr ⟨e, .faulty hkey hheld hcompile href⟩

theorem loadEntries_cons_of_treats (h : Treats table r entry r') (rest : List Value) :
    loadEntries table r r.keys (entry :: rest) = loadEntries table r' r'.keys rest := by
  rw [loadEntries]
  cases h with
  | incomplete hkey => rw [hkey]
  | held hkey hheld =>
    rw [hkey]
    dsimp only
    rw [if_pos hheld]
  | @stored f v hnew hcompile =>
    have hheld : ¬ holdsKey r (.text f.key) = true := by simpa [holdsKey] using hnew
    rw [entryKey_of_compile hcompile]
    dsimp only
    rw [if_neg hheld, register_eq, hcompile, keys_store hnew]
  | @noted key refusal _ _ hkey hheld hcompile hreason hreject =>
    -- the keys do not change with a note
    have hkeys : r'.keys = r.keys := congrArg Table.keys (tables_of_reject hreject).1
    have hentry : rejectEntry r key refusal = .ok r' := by
      unfold rejectEntry
      rw [hreason]
      exact hreject
    rw [hkey]
    dsimp only
    rw [if_neg (by simp [hheld]), register_eq, hcompile]
    dsimp only
    rw [hentry, hkeys]

theorem loadEntries_cons_of_stops (h : Stops table r entry e) (loaded : List String)
    (rest : List Value) : loadEntries table r loaded (entry :: rest) = (r, .error e) := by
  rw [loadEntries]
  cases h with
  | faulty hkey hheld hcompile hnot =>
    rw [hkey]
    dsimp only
    rw [if_neg (by simp [hheld]), register_eq, hcompile]
    dsimp only
    -- only a refusal would be noted, and this fault is none
    split
    · rename_i heq
      cases heq
    · rename_i heq
      cases heq
      exact absurd ⟨_, rfl⟩ hnot
    · rename_i heq
      cases heq
      rfl
  | @unworded key refusal _ hkey hheld hcompile hreason =>
    have hentry : rejectEntry r key refusal = .error e := by
      unfold rejectEntry
      rw [hreason]
    rw [hkey]
    dsimp only
    rw [if_neg (by simp [hheld]), register_eq, hcompile]
    dsimp only
    rw [hentry]
  | @rejected key refusal _ _ hkey hheld hcompile hreason hreject =>
    have hentry : rejectEntry r key refusal = .error e := by
      unfold rejectEntry
      rw [hreason]
      exact hreject
    rw [hkey]
    dsimp only
    rw [if_neg (by simp [hheld]), register_eq, hcompile]
    dsimp only
    rw [hentry]

/-! ## Runs -/

/-- Entries that are worked through one after the other, without stopping the load. -/
inductive Runs (table : TypeTable) : Registry → List Value → Registry → Prop
  | nil {r : Registry} : Runs table r [] r
  | cons {r r' r'' : Registry} {entry : Value} {rest : List Value} :
    Treats table r entry r' → Runs table r' rest r'' → Runs table r (entry :: rest) r''

/-- A load of entries goes on where `Runs` through the first of them, `before`, ends. -/
theorem loadEntries_of_runs (h : Runs table r before r') (rest : List Value) :
    loadEntries table r r.keys (before ++ rest) = loadEntries table r' r'.keys rest := by
  induction h with
  | nil => rfl
  | cons hentry _ ih => rw [List.cons_append, loadEntries_cons_of_treats hentry, ih]

/-- **Any entries**: `Runs` goes through them, or one of them `Stops` the load after a run of those
    before it. -/
theorem runs_or_stops (table : TypeTable) (entries : List Value) (r : Registry) :
    (∃ r', Runs table r entries r') ∨
      ∃ before entry after r' e, entries = before ++ entry :: after ∧ Runs table r before r' ∧
        Stops table r' entry e := by
  -- each entry finds the registry as the one before it leaves it
  induction entries generalizing r with
  | nil => exact .inl ⟨r, .nil⟩
  | cons entry rest ih =>
    rcases treats_or_stops table r entry with ⟨r', hentry⟩ | ⟨e, hstop⟩
    · rcases ih r' with ⟨r'', hrest⟩ | ⟨before, bad, after, r'', e, rfl, hbefore, hstop⟩
      · exact .inl ⟨r'', .cons hentry hrest⟩
      · exact .inr ⟨entry :: before, bad, after, r'', e, rfl, .cons hentry hbefore, hstop⟩
    · exact .inr ⟨[], entry, rest, r, e, rfl, .nil, hstop⟩

theorem loadEntries_of_runs_all (h : Runs table r entries r') :
    loadEntries table r r.keys entries = (r', .ok r'.keys) := by
  have hload := loadEntries_of_runs h []
  rwa [List.append_nil] at hload

theorem loadEntries_of_stops (h : Runs table r before r') (hstop : Stops table r' entry e)
    (after : List Value) :
    loadEntries table r r.keys (before ++ entry :: after) = (r', .error e) := by
  rw [loadEntries_of_runs h, loadEntries_cons_of_stops hstop]

/-- A load of entries that comes to its end is one of `Runs`. -/
theorem runs_of_loadEntries {ks : List String}
    (h : (loadEntries table r r.keys entries).2 = .ok ks) :
    ∃ r', Runs table r entries r' ∧ loadEntries table r r.keys entries = (r', .ok r'.keys) := by
  rcases runs_or_stops table entries r with
    ⟨r', hruns⟩ | ⟨before, entry, after, r', e, rfl, hbefore, hstop⟩
  · exact ⟨r', hruns, loadEntries_of_runs_all hruns⟩
  · rw [loadEntries_of_stops hbefore hstop] at h
    cases h

/-- There is one way through entries at most: `r'` and `r''` are the same. -/
theorem Runs.unique (h : Runs table r entries r') (h' : Runs table r entries r'') : r' = r'' := by
  have hsame : (r', Except.ok r'.keys) = (r'', Except.ok r''.keys) :=
    (loadEntries_of_runs_all h).symm.trans (loadEntries_of_runs_all h')
  exact congrArg Prod.fst hsame

/-- A run through entries is one through `before`, and from there through `after`. -/
theorem runs_append_iff :
    Runs table r (before ++ after) r'' ↔
      ∃ r', Runs table r before r' ∧ Runs table r' after r'' := by
  constructor
  · intro h
    induction before generalizing r with
    | nil => exact ⟨r, .nil, h⟩
    | cons entry rest ih =>
      cases h with
      | cons hentry hrest =>
        obtain ⟨mid, hmid, hafter⟩ := ih hrest
        exact ⟨mid, .cons hentry hmid, hafter⟩
  · rintro ⟨r', hbefore, hafter⟩
    induction hbefore with
    | nil => exact hafter
    | cons hentry _ ih => exact .cons hentry (ih hafter)

/-! ## What a run leaves as it was -/

/-- A problem that does not stop the load is noted: among `fileErrors` if the key is null, else
    under its key in `errors`. -/
theorem reject_cases {reason : Reason} (h : reject r key reason = .ok r') :
    r.strict = false ∧
      (key = .null ∧ r' = { r with fileErrors := r.fileErrors ++ [reason.message] } ∨
        key ≠ .null ∧ r' = { r with errors := note key reason.message r.errors }) := by
  unfold reject at h
  split at h
  · cases h
  · rename_i hstrict
    refine ⟨by simpa using hstrict, ?_⟩
    split at h
    · exact .inl ⟨rfl, (Except.ok.inj h).symm⟩
    · rename_i hkey
      exact .inr ⟨hkey, (Except.ok.inj h).symm⟩

/-- What every entry preserves (`hstep`), a run preserves. -/
theorem Runs.preserves {P : Registry → Prop}
    (hstep : ∀ r entry r', entry ∈ entries → Treats table r entry r' → P r → P r')
    (h : Runs table r entries r') (hr : P r) : P r' := by
  induction h with
  | nil => exact hr
  | cons hentry _ ih =>
    refine ih ?_ (hstep _ _ _ (List.mem_cons_self ..) hentry hr)
    exact fun r entry r' hmem => hstep r entry r' (List.mem_cons_of_mem _ hmem)

theorem settings_of_treats (h : Treats table r entry r') :
    r'.file = r.file ∧ r'.strict = r.strict := by
  cases h with
  | incomplete => exact ⟨rfl, rfl⟩
  | held => exact ⟨rfl, rfl⟩
  | stored => exact ⟨rfl, rfl⟩
  | noted _ _ _ _ hreject =>
    obtain ⟨-, ⟨-, rfl⟩ | ⟨-, rfl⟩⟩ := reject_cases hreject
    · exact ⟨rfl, rfl⟩
    · exact ⟨rfl, rfl⟩

theorem settings_of_runs (h : Runs table r entries r') :
    r'.file = r.file ∧ r'.strict = r.strict := by
  refine Runs.preserves (P := fun s => s.file = r.file ∧ s.strict = r.strict) ?_ h ⟨rfl, rfl⟩
  intro s entry s' _ hentry hs
  obtain ⟨hfile, hstrict⟩ := settings_of_treats hentry
  exact ⟨hfile.trans hs.1, hstrict.trans hs.2⟩

/-- A message among `fileErrors` stays there. -/
theorem fileErrors_of_treats (h : Treats table r entry r') {message : String}
    (hm : message ∈ r.fileErrors) : message ∈ r'.fileErrors := by
  cases h with
  | incomplete => exact hm
  | held => exact hm
  | stored => exact hm
  | noted _ _ _ _ hreject =>
    obtain ⟨-, ⟨-, rfl⟩ | ⟨-, rfl⟩⟩ := reject_cases hreject
    · exact List.mem_append_left _ hm
    · exact hm

theorem fileErrors_of_runs (h : Runs table r entries r') {message : String}
    (hm : message ∈ r.fileErrors) : message ∈ r'.fileErrors :=
  h.preserves (fun _ _ _ _ hentry => fileErrors_of_treats hentry) hm

/-! ## What a run stores -/

/-- The field that an entry makes for `key`, if it makes one. -/
def madeFor? (table : TypeTable) (key : String) (entry : Value) : Option Field :=
  match compileEntry table entry with
  | .ok (f, _) => if f.key = key then some f else none
  | .error _ => none

theorem madeFor?_eq_some_iff {key : String} :
    madeFor? table key entry = some f ↔
      ∃ v, compileEntry table entry = .ok (f, v) ∧ f.key = key := by
  unfold madeFor?
  cases hcompile : compileEntry table entry with
  | error e => simp
  | ok made =>
    obtain ⟨g, w⟩ := made
    dsimp only
    constructor
    · intro h
      split at h
      · rename_i hkey
        obtain rfl := Option.some.inj h
        exact ⟨w, rfl, hkey⟩
      · cases h
    · rintro ⟨v, h, hkey⟩
      obtain ⟨rfl, rfl⟩ := Prod.mk.inj (Except.ok.inj h)
      exact if_pos hkey

theorem madeFor?_eq_none {key : String}
    (h : ∀ f v, compileEntry table entry = .ok (f, v) → f.key ≠ key) :
    madeFor? table key entry = none := by
  rw [Option.eq_none_iff_forall_ne_some]
  intro f hf
  obtain ⟨v, hcompile, hkey⟩ := madeFor?_eq_some_iff.1 hf
  exact h f v hcompile hkey

/-- An entry stores the field that `madeFor?` finds in it, unless there is one for its key. -/
theorem lookup_of_treats (h : Treats table r entry r') (key : String) :
    r'.descriptors.lookup key = (r.descriptors.lookup key).or (madeFor? table key entry) := by
  cases h with
  | incomplete hentry =>
    have hmade : madeFor? table key entry = none := by
      refine madeFor?_eq_none ?_
      intro f v hcompile
      cases hentry.symm.trans (entryKey_of_compile hcompile)
    rw [hmade, Option.or_none]
  | held hentry hheld =>
    obtain ⟨s, rfl, hs⟩ := holdsKey_iff.1 hheld
    -- the key that the entry has is taken, and no other one is made by it
    by_cases hkey : key = s
    · obtain rfl := hkey
      obtain ⟨g, hg⟩ := Table.mem_keys_iff.1 hs
      rw [hg, Option.some_or]
    · have hmade : madeFor? table key entry = none := by
        refine madeFor?_eq_none ?_
        rintro f v hcompile rfl
        cases hentry.symm.trans (entryKey_of_compile hcompile)
        exact hkey rfl
      rw [hmade, Option.or_none]
  | @stored f v hnew hcompile =>
    show (Table.put f.key f r.descriptors).lookup key = _
    rw [Table.lookup_put]
    by_cases hkey : key = f.key
    · obtain rfl := hkey
      have habsent : r.descriptors.lookup f.key = none := Table.lookup_eq_none_iff.2 hnew
      rw [if_pos rfl, habsent, Option.none_or, madeFor?_eq_some_iff.2 ⟨v, hcompile, rfl⟩]
    · have hmade : madeFor? table key entry = none := by
        refine madeFor?_eq_none ?_
        rintro g w hg rfl
        obtain ⟨rfl, -⟩ := Prod.mk.inj (Except.ok.inj (hcompile.symm.trans hg))
        exact hkey rfl
      rw [if_neg hkey, hmade, Option.or_none]
  | noted _ _ hcompile _ hreject =>
    have hmade : madeFor? table key entry = none := by
      refine madeFor?_eq_none ?_
      intro f v hok
      cases hcompile.symm.trans hok
    rw [(tables_of_reject hreject).1, hmade, Option.or_none]

/-- **What is stored** by a run: under each key the first field that `madeFor?` finds in an entry,
    unless there was one before. -/
theorem lookup_of_runs (h : Runs table r entries r') (key : String) :
    r'.descriptors.lookup key =
      (r.descriptors.lookup key).or (entries.findSome? (madeFor? table key)) := by
  induction h with
  | nil => rw [List.findSome?_nil, Option.or_none]
  | @cons r r' r'' entry rest hentry _ ih =>
    rw [ih, lookup_of_treats hentry, Option.or_assoc, List.findSome?_cons]
    cases madeFor? table key entry <;> rfl

/-- The keys that are there after a run are those from before and those for which `madeFor?` finds
    a field in an entry. -/
theorem mem_keys_of_runs (h : Runs table r entries r') {key : String} :
    key ∈ r'.keys ↔ key ∈ r.keys ∨ ∃ entry ∈ entries, ∃ f, madeFor? table key entry = some f := by
  have hmade : (∃ f, entries.findSome? (madeFor? table key) = some f) ↔
      ∃ entry ∈ entries, ∃ f, madeFor? table key entry = some f := by
    rw [← Option.isSome_iff_exists, List.findSome?_isSome_iff]
    simp only [Option.isSome_iff_exists]
  show key ∈ Table.keys r'.descriptors ↔ key ∈ Table.keys r.descriptors ∨ _
  rw [Table.mem_keys_iff, Table.mem_keys_iff, lookup_of_runs h, ← hmade]
  cases r.descriptors.lookup key <;> simp

/-! ## Whole loads -/

/-- A registry in which problems of the file as a whole are noted, if there are any. -/
def noteFile (r : Registry) : List String → Registry
  | [] => r
  | messages =>
    { r with fileErrors := r.fileErrors ++ [(Reason.badEntries r.file messages).message] }

theorem noteFile_of_ne_nil {messages : List String} (h : messages ≠ []) :
    r.noteFile messages =
      { r with fileErrors := r.fileErrors ++ [(Reason.badEntries r.file messages).message] } := by
  cases messages with
  | nil => exact absurd rfl h
  | cons => rfl

theorem keys_noteFile (messages : List String) : (r.noteFile messages).keys = r.keys := by
  cases messages <;> rfl

/-- A list of which `problems` finds nothing wrong is worked through from the front. -/
theorem loadListed_of_no_problems (h : problems sameKey entries = .ok []) :
    loadListed table r entries = loadEntries table r [] entries := by
  unfold loadListed
  rw [h]

/-- If the load is not strict (`hlenient`), the `messages` about the list are noted first. -/
theorem loadListed_of_lenient {messages : List String} (hlenient : r.strict = false)
    (h : problems sameKey entries = .ok messages) :
    loadListed table r entries = loadEntries table (r.noteFile messages) [] entries := by
  unfold loadListed
  rw [h]
  cases messages with
  | nil => rfl
  | cons m ms =>
    have hreject : rejectFile r (m :: ms) = .ok (r.noteFile (m :: ms)) := by
      unfold rejectFile reject
      rw [if_neg (by simp [hlenient])]
      rfl
    dsimp only
    rw [hreject]

/-- A strict load (`hstrict`) ends with the `messages` about the list, if there are any. -/
theorem loadListed_of_strict {messages : List String} (hstrict : r.strict = true)
    (hne : messages ≠ []) (h : problems sameKey entries = .ok messages) :
    loadListed table r entries =
      (r, .error (.refuse none (.badEntries r.file messages))) := by
  unfold loadListed
  rw [h]
  cases messages with
  | nil => exact absurd rfl hne
  | cons m ms =>
    have hreject : rejectFile r (m :: ms) =
        .error (.refuse none (.badEntries r.file (m :: ms))) := by
      unfold rejectFile reject
      rw [if_pos hstrict]
    dsimp only
    rw [hreject]

theorem loadListed_of_error (h : problems sameKey entries = .error e) :
    loadListed table r entries = (r, .error e) := by
  unfold loadListed
  rw [h]

/-- **A load that is not strict and comes to its end** is one of `Runs` through all the entries,
    after the `messages` about the list are noted by `noteFile`. -/
theorem runs_of_load {ks : List String} (hlenient : r.strict = false)
    (hload : (r.load table d).2 = .ok ks) :
    ∃ entries messages, listedIn d r.file = .ok entries ∧
      problems sameKey entries = .ok messages ∧
      Runs table (r.cleared.noteFile messages) entries (r.load table d).1 ∧
      ks = (r.load table d).1.keys := by
  obtain ⟨entries, hlisted⟩ := listedIn_of_load hload
  rw [load_of_listed hlisted] at hload ⊢
  cases hproblems : problems sameKey entries with
  | error e =>
    rw [loadListed_of_error hproblems] at hload
    cases hload
  | ok messages =>
    have hcleared : r.cleared.strict = false := hlenient
    have hkeys : (r.cleared.noteFile messages).keys = [] := keys_noteFile messages
    rw [loadListed_of_lenient hcleared hproblems, ← hkeys] at hload ⊢
    obtain ⟨r', hruns, hend⟩ := runs_of_loadEntries hload
    rw [hend] at hload ⊢
    exact ⟨entries, messages, hlisted, hproblems, hruns, (Except.ok.inj hload).symm⟩

end Registry

end Rulebook
