/-
  A registry can be written out and loaded again.

  The fields of a registry, each written as the value that describes it, make a file that loads
  into the same registry:

      registry ── its fields as values ──▸ file ── load ──▸ the same fields and the same judgements

  It does not matter how the registry came to be, whether the parts of a value are written in
  their order, or what the other registry held before.

  1. `Dumps`, `ofValue_of_dumps`: a value that has just the parts of a field describes that field;
  2. `Named`, `run_named`: all keys of a registry have a character, whatever was done with it;
  3. `faultless_of_dumps`: the fields of a registry make a faultless list;
  4. `judge_eq_of_fields`: the fields decide every judgement;
  5. `reload_agrees`: the round trip.

  The crux is that all a load asks of a list holds of every registry: 2 for the descriptions, and
  `Consistent` for the keys and the rules.
-/
import Mathlib.Data.List.Nodup
import Rulebook.Proofs.FaultlessList

namespace Rulebook

/-! ## A field as a value -/

namespace Field

variable {f : Field} {entry : Value} {written : List (String × Option String)} {name : String}
  {v : Option String}

/-- The parts of a field by name: texts, and no text where there are no rules. -/
def rows (f : Field) : List (String × Option String) :=
  [("key", some f.key), ("type", some f.type), ("label", some f.label), ("validation", f.rules)]

/-- A part in an object, as a name and what is under it. -/
def part (row : String × Option String) : Value × Value := (.text row.1, row.2.elim .null .text)

/-- An object with just the `rows` of the field, in any order. -/
def Dumps (entry : Value) (f : Field) : Prop :=
  ∃ written : List (String × Option String), written.Perm f.rows ∧ entry = .dict (written.map part)

/-- So is a field written as a value, by `Field.toValue`. -/
theorem dumps_toValue (f : Field) : Dumps f.toValue f := by
  refine ⟨f.rows, .refl _, ?_⟩
  unfold toValue
  cases hrules : f.rules <;> simp [rows, part, hrules]

/-- The parts of an object by name, if it has texts for names, and texts or nothing under them. -/
def writtenParts? : List (Value × Value) → Option (List (String × Option String))
  | [] => some []
  | (.text name, .text s) :: rest => (writtenParts? rest).map ((name, some s) :: ·)
  | (.text name, .null) :: rest => (writtenParts? rest).map ((name, none) :: ·)
  | _ :: _ => none

theorem writtenParts?_map_part (written : List (String × Option String)) :
    writtenParts? (written.map part) = some written := by
  induction written with
  | nil => rfl
  | cons row rest ih =>
    obtain ⟨name, _ | s⟩ := row
    · simp [part, writtenParts?, ih]
    · simp [part, writtenParts?, ih]

theorem eq_of_writtenParts? {entries : List (Value × Value)}
    (h : writtenParts? entries = some written) : entries = written.map part := by
  fun_induction writtenParts? entries generalizing written
  case case1 =>
    cases h
    rfl
  case case2 ih | case3 ih =>
    obtain ⟨rest, hrest, rfl⟩ := Option.map_eq_some_iff.1 h
    rw [ih hrest]
    rfl
  case case4 => cases h

/-- Whether an object `Dumps` a field can be computed. -/
def isDump (entry : Value) (f : Field) : Bool :=
  match entry with
  | .dict entries => (writtenParts? entries).any fun written => decide (written.Perm f.rows)
  | _ => false

theorem isDump_iff : isDump entry f = true ↔ Dumps entry f := by
  constructor
  · intro h
    cases entry with
    | dict entries =>
      cases hwritten : writtenParts? entries with
      | none => simp [isDump, hwritten] at h
      | some written =>
        refine ⟨written, ?_, congrArg Value.dict (eq_of_writtenParts? hwritten)⟩
        simpa [isDump, hwritten] using h
    | _ => cases h
  · rintro ⟨written, hperm, rfl⟩
    simp [isDump, writtenParts?_map_part, hperm]

instance : Decidable (Dumps entry f) := decidable_of_iff _ isDump_iff

/-- A part is found under its `name`, if no other one has it. -/
theorem get?_map_part (hdistinct : (written.map (·.1)).Nodup) (hmem : (name, v) ∈ written) :
    Value.get? (written.map part) name = some (v.elim .null .text) := by
  have hlookup : Value.get? (written.map part) name =
      (written.find? (·.1 == name)).map fun row => row.2.elim .null .text := by
    unfold Value.get?
    rw [List.find?_map, Option.map_map]
    congr 1
    refine congrArg (List.find? · written) (funext fun row => ?_)
    show (name == row.1) = (row.1 == name)
    rw [Bool.beq_comm]
  have hfind : written.find? (·.1 == name) = some (name, v) := by
    cases hfind : written.find? (·.1 == name) with
    | none => simpa using List.find?_eq_none.1 hfind _ hmem
    | some row =>
      have hname : row.1 = name := by simpa using List.find?_some hfind
      exact congrArg some
        (List.inj_on_of_nodup_map hdistinct (List.mem_of_find?_eq_some hfind) hmem hname)
  rw [hlookup, hfind]
  rfl

/-- **What a field is written as describes it**: `ofValue` reads `f` from an object that `Dumps`
    it, if its key is not empty. -/
theorem ofValue_of_dumps (hkey : f.key ≠ "") (h : Dumps entry f) : ofValue entry = .ok f := by
  obtain ⟨written, hperm, rfl⟩ := h
  have hdistinct : (written.map (·.1)).Nodup := by
    rw [(hperm.map _).nodup_iff]
    simp [rows]
  have hget {name : String} {v : Option String} (hmem : (name, v) ∈ f.rows) :
      Value.get? (written.map part) name = some (v.elim .null .text) :=
    get?_map_part hdistinct (hperm.mem_iff.2 hmem)
  have hgetKey : Value.get? (written.map part) "key" = some (.text f.key) :=
    hget (v := some f.key) (by simp [rows])
  have hgetType : Value.get? (written.map part) "type" = some (.text f.type) :=
    hget (v := some f.type) (by simp [rows])
  have hgetLabel : Value.get? (written.map part) "label" = some (.text f.label) :=
    hget (v := some f.label) (by simp [rows])
  have hgetRules : Value.get? (written.map part) "validation" = some (f.rules.elim .null .text) :=
    hget (by simp [rows])
  have hreadKey : readKey (written.map part) = .ok f.key := by
    simp [readKey, readText, hgetKey, hkey]
  have hreadType : readText (written.map part) "type" = .ok f.type := by
    simp [readText, hgetType]
  have hreadLabel : readLabel (written.map part) = .ok f.label := by
    simp [readLabel, hgetLabel]
  have hreadRules : readRules (written.map part) = .ok f.rules := by
    unfold readRules
    rw [hgetRules]
    cases f.rules <;> rfl
  simp [ofValue, read, hreadKey, hreadType, hreadLabel, hreadRules]

end Field

/-! ## What holds of every registry -/

namespace Registry

variable {table : TypeTable} {d : Directory} {r r' : Registry} {f : Field} {entries : List Value}
  {fs : Table Field}

/-- No key that is stored is empty. -/
def Named (r : Registry) : Prop := ∀ f ∈ r.fields, f.key ≠ ""

theorem named_of_no_keys (h : r.keys = []) : Named r := by
  intro f hf
  have hrows : r.descriptors = [] := List.map_eq_nil_iff.1 h
  unfold fields at hf
  rw [hrows] at hf
  cases hf

/-- A field `f` that a value describes has a key that is not empty. -/
theorem key_ne_of_ofValue {description : Value} (h : Field.ofValue description = .ok f) :
    f.key ≠ "" := by
  obtain ⟨parts, -, hkey⟩ := readKey_of_read (read_of_ofValue h)
  unfold Field.readKey at hkey
  split at hkey
  · split at hkey
    · cases hkey
    · rename_i hfull
      cases hkey
      simpa using hfull
  · cases hkey

theorem mem_of_mem_put {row : String × Field} (h : row ∈ Table.put f.key f fs) :
    row = (f.key, f) ∨ row ∈ fs := by
  induction fs with
  | nil => exact .inl (List.mem_singleton.1 h)
  | cons first rest ih =>
    unfold Table.put at h
    split at h
    · rcases List.mem_cons.1 h with rfl | hrest
      · exact .inl rfl
      · exact .inr (List.mem_cons_of_mem _ hrest)
    · rcases List.mem_cons.1 h with rfl | hrest
      · exact .inr (List.mem_cons_self ..)
      · exact (ih hrest).imp_right (List.mem_cons_of_mem _)

theorem Named.store (h : Named r) (hf : f.key ≠ "") (v : Option Validator) :
    Named (r.store f v) := by
  intro g hg
  obtain ⟨row, hrow, rfl⟩ := List.mem_map.1 hg
  rcases mem_of_mem_put hrow with rfl | hold
  · exact hf
  · exact h _ (List.mem_map_of_mem hold)

theorem Named.registerField (h : Named r) (hf : f.key ≠ "")
    (hr : registerField table r f = .ok r') : Named r' := by
  obtain ⟨v, -, rfl⟩ := registerField_eq_ok_iff.1 hr
  exact h.store hf v

theorem Named.unregister (h : Named r) (key : String) : Named (r.unregister key).1 := by
  unfold Registry.unregister
  split
  · intro f hf
    obtain ⟨row, hrow, rfl⟩ := List.mem_map.1 hf
    exact h _ (List.mem_map_of_mem (List.mem_filter.1 hrow).1)
  · exact h

theorem Named.treats (h : Named r) {entry : Value} (hentry : Treats table r entry r') :
    Named r' := by
  cases hentry with
  | incomplete => exact h
  | held => exact h
  | stored _ hcompile => exact h.store (key_ne_of_ofValue (compileEntry_eq_ok_iff.1 hcompile).1) _
  | noted _ _ _ _ hreject =>
    intro f hf
    unfold fields at hf
    rw [(tables_of_reject hreject).1] at hf
    exact h f hf

/-- Entries leave a registry `Named`, whether they come to their end or one of them stops the
    load. -/
theorem Named.loadEntries (h : Named r) (entries : List Value) :
    Named (loadEntries table r r.keys entries).1 := by
  have hruns {r' : Registry} {passed : List Value} (hr : Runs table r passed r') : Named r' :=
    hr.preserves (fun _ _ _ _ hentry hs => hs.treats hentry) h
  rcases runs_or_stops table entries r with
    ⟨r', hall⟩ | ⟨before, entry, after, r', e, rfl, hbefore, hstop⟩
  · rw [loadEntries_of_runs_all hall]
    exact hruns hall
  · rw [loadEntries_of_stops hbefore hstop]
    exact hruns hbefore

/-- A load starts from nothing, and so leaves a registry that is `Named`. -/
theorem named_of_load (table : TypeTable) (d : Directory) (r : Registry) :
    Named (r.load table d).1 := by
  have hcleared : Named r.cleared := named_of_no_keys rfl
  cases hlisted : listedIn d r.file with
  | error e =>
    rw [load_of_not_listed hlisted]
    exact hcleared
  | ok entries =>
    rw [load_of_listed hlisted]
    unfold loadListed
    split
    · exact hcleared
    · exact hcleared.loadEntries entries
    · split
      · exact hcleared
      · rename_i r' hreject
        have hkeys : r'.keys = [] := congrArg Table.keys (tables_of_reject hreject).1
        rw [← hkeys]
        exact (named_of_no_keys hkeys).loadEntries entries

/-- **The step** leaves a registry `Named`, if a field that arrives as itself has a key (`hs`). -/
theorem step_named (h : Named r) {s : Step} (hs : ∀ f, s = .registerField f → f.key ≠ "") :
    Named (step table r s).1 := by
  cases s with
  | load d => exact named_of_load table d r
  | register description =>
    unfold step
    dsimp only
    split
    · rename_i hr
      obtain ⟨hf, hput⟩ := register_eq_ok_iff.1 hr
      exact h.registerField (key_ne_of_ofValue hf) hput
    · exact h
  | registerField f =>
    unfold step
    dsimp only
    split
    · rename_i hr
      exact h.registerField (hs f rfl) hr
    · exact h
  | unregister key => exact h.unregister key
  | get _ => exact h
  | list => exact h
  | judge _ _ => exact h

/-- **The run** does so, too, if all such fields have one (`hsteps`). -/
theorem run_named (h : Named r) {steps : List Step}
    (hsteps : ∀ f, .registerField f ∈ steps → f.key ≠ "") : Named (run table r steps) := by
  unfold run
  induction steps generalizing r with
  | nil => exact h
  | cons s steps ih =>
    refine ih (step_named h ?_) ?_
    · rintro f rfl
      exact hsteps f (List.mem_cons_self ..)
    · intro f hf
      exact hsteps f (List.mem_cons_of_mem _ hf)

/-! ## The round trip -/

theorem described_of_dumps {fields : List Field} (hnamed : ∀ f ∈ fields, f.key ≠ "")
    (hdump : List.Forall₂ Field.Dumps entries fields) :
    List.Forall₂ (fun entry f => Field.ofValue entry = .ok f) entries fields := by
  induction hdump with
  | nil => exact .nil
  | cons hentry _ ih =>
    obtain ⟨hfirst, hrest⟩ := List.forall_mem_cons.1 hnamed
    exact .cons (Field.ofValue_of_dumps hfirst hentry) (ih hrest)

/-- **The fields of a registry**, each in an object that `Dumps` it, are a list that is
    `Faultless`. -/
theorem faultless_of_dumps (h : Consistent table r) (hnamed : Named r)
    (hdump : List.Forall₂ Field.Dumps entries r.fields) : Faultless table entries r.fields where
  described := described_of_dumps hnamed hdump
  distinct := keys_eq_map_fields h ▸ h.distinct
  compiled := by
    intro f hf
    obtain ⟨row, hrow, rfl⟩ := List.mem_map.1 hf
    exact Field.validator?_isOk_iff.1 (compiled_of_rows h.rows row hrow)

/-- Registries with the same `fields` judge alike. -/
theorem judge_eq_of_fields (h : Consistent table r) (h' : Consistent table r')
    (hfields : r.fields = r'.fields) (key : String) (value : Value) :
    r.judge key value = r'.judge key value := by
  refine judge_eq_of_lookup h h' ?_ value
  rw [lookup_eq_find? (own_key_of_rows h.rows), lookup_eq_find? (own_key_of_rows h'.rows)]
  exact congrArg (List.find? (·.key == key)) hfields

/-- **A registry can be written out and loaded again.** Take a registry `r` after any `steps`,
    loads that fail halfway among them, where a field that arrives as itself has a key (`hsteps`).
    Any registry `other` that loads a file whose entries each are what `Dumps` one of the fields,
    in their order (`hdump`), comes through, with the same keys in the same order and the same
    fields, and gives every value the same judgement as `r`. -/
theorem reload_agrees {file : String} {strict : Bool} {steps : List Step} {other : Registry}
    (hsteps : ∀ f, .registerField f ∈ steps → f.key ≠ "")
    (hlisted : listedIn d other.file = .ok entries)
    (hdump : List.Forall₂ Field.Dumps entries (run table (empty file strict) steps).fields) :
    let r := run table (empty file strict) steps
    (other.load table d).2 = .ok r.keys ∧ (other.load table d).1.keys = r.keys ∧
      (other.load table d).1.fields = r.fields ∧
      ∀ key value, (other.load table d).1.judge key value = r.judge key value := by
  intro r
  have h : Consistent table r := run_consistent steps (consistent_empty table file strict)
  have hnamed : Named r := run_named (named_of_no_keys rfl) hsteps
  obtain ⟨hload, hfields, -⟩ := load_of_faultless hlisted (faultless_of_dumps h hnamed hdump)
  obtain ⟨hloaded, hkeys⟩ := load_consistent table d other
  rw [← keys_eq_map_fields h] at hload
  exact ⟨hload, (hkeys _ hload).symm, hfields, judge_eq_of_fields hloaded h hfields⟩

/-- A registry is loaded, a field is removed, and one of another type arrives under its key. -/
def editedSteps : List Step :=
  [.load (.holding "f.json" ("[\x7b\"key\": \"a\", \"type\": \"string\"\x7d, "
      ++ "\x7b\"key\": \"b\", \"type\": \"number\", \"validation\": \"max:9\"\x7d]")),
    .unregister "a", .registerField ⟨"a", "any", "A", none⟩]

/-- The fields after `editedSteps`, each as an object, with the parts in another order. -/
def writtenOut : Directory :=
  .holding "f.json" ("\x7b\"fields\":["
    ++ "\x7b\"key\":\"b\",\"type\":\"number\",\"label\":\"\",\"validation\":\"max:9\"\x7d,"
    ++ "\x7b\"validation\":null,\"label\":\"A\",\"type\":\"any\",\"key\":\"a\"\x7d]\x7d")

/-- A used registry that loads `writtenOut` is like the one that was written out. -/
theorem reload_editedSteps :
    (run .standard (empty "f.json" false) editedSteps).keys = ["b", "a"] ∧
      ((usedRegistry true).load .standard writtenOut).2 = .ok ["b", "a"] ∧
      ∀ key value, ((usedRegistry true).load .standard writtenOut).1.judge key value =
        (run .standard (empty "f.json" false) editedSteps).judge key value := by
  have hfields : (run .standard (empty "f.json" false) editedSteps).fields =
      [⟨"b", "number", "", some "max:9"⟩, ⟨"a", "any", "A", none⟩] := by
    decide +kernel
  have hkeys : (run .standard (empty "f.json" false) editedSteps).keys = ["b", "a"] := by
    rw [keys_eq_map_fields (run_consistent editedSteps (consistent_empty _ _ _)), hfields]
    rfl
  have hsteps : ∀ f, .registerField f ∈ editedSteps → f.key ≠ "" := by
    intro f hf
    simp only [editedSteps, List.mem_cons, List.not_mem_nil, or_false, reduceCtorEq, false_or,
      Step.registerField.injEq] at hf
    simp [hf]
  have hdump : (listedIn writtenOut "f.json").map (fun entries =>
      decide (List.Forall₂ Field.Dumps entries
        [⟨"b", "number", "", some "max:9"⟩, ⟨"a", "any", "A", none⟩])) = .ok true := by
    decide +kernel
  refine ⟨hkeys, ?_⟩
  cases hlisted : listedIn writtenOut "f.json" with
  | error e =>
    rw [hlisted] at hdump
    cases hdump
  | ok entries =>
    rw [hlisted] at hdump
    have hwritten := of_decide_eq_true (Except.ok.inj hdump)
    rw [← hfields] at hwritten
    have hfile : (usedRegistry true).file = "f.json" := rfl
    rw [← hfile] at hlisted
    obtain ⟨hload, -, -, hjudge⟩ := reload_agrees hsteps hlisted hwritten
    exact ⟨hkeys ▸ hload, hjudge⟩

end Registry

end Rulebook
