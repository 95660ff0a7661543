/-
  Where the problems of a lenient load are filed.

  The problems of single entries are meant to be found under their keys, and those of the file as a
  whole in a list of their own.  A problem that comes without a key is one of the file:

      of the file                 no key       with those of the file
      of an entry with key `a`    `a`          under `a`
      of an entry with key 7      7            under 7
      of an entry with key null   null         with those of the file

  The last line is not meant: null is how it is told that there is no key.

  1. `nullNote?`: the note on an entry whose key is null;
  2. `Filed`: a key is that of a field, or of a problem;
  3. `fileErrors_of_treats_eq`, `filed_of_treats`, `noneUnderNull_of_treats`: what one entry files,
     and where;
  4. `fileErrors_of_runs_eq`, `filed_of_runs`, `not_filed_null`: what a run files;
  5. `FileLevel`, `fileLevel_of_mem_problemsFrom`: the problems of the list are of entries that are
     no object or lack a part, and of entries whose key an earlier one has;
  6. `filed_by_key_iff`: whole files.

  The crux of 4 is that what is filed is not undone by a later entry (`filed_mono`): a key that has
  a field keeps it, and a note gives way only to one that is filed in its place.
-/
import Rulebook.Proofs.LenientLoading

namespace Rulebook.Registry

variable {table : TypeTable} {d : Directory} {r r' : Registry} {entry key : Value}
  {entries known : List Value} {messages : List String} {message : String}

/-! ## Null -/

/-- Nothing but null is the same key as null, for `sameKey`. -/
theorem sameKey_null_iff : sameKey key .null = true ↔ key = .null := by
  cases key <;> simp [sameKey, Value.same, Value.place?]

/-- An entry whose key is null makes no field: `compileEntry` refuses it. -/
theorem compileEntry_of_null (hkey : keyOfEntry? entry = some .null) :
    ∃ refusal, compileEntry table entry = .error (.refused refusal) := by
  cases hcompile : compileEntry table entry with
  | ok made =>
    obtain ⟨f, v⟩ := made
    cases hkey.symm.trans (entryKey_of_compile hcompile)
  | error e =>
    by_cases hrefusal : e.IsRefusal
    · obtain ⟨refusal, rfl⟩ := hrefusal
      exact ⟨refusal, rfl⟩
    · obtain ⟨f, hread, -⟩ := compileEntry_not_refused_iff.1 ⟨hcompile, hrefusal⟩
      cases hkey.symm.trans (entryKey_of_ofValue hread)

/-- The note on an entry whose key is null. -/
def nullNote? (table : TypeTable) (file : String) (entry : Value) : Option String :=
  match keyOfEntry? entry, compileEntry table entry with
  | some .null, .error (.refused refusal) =>
    some (Reason.badEntry file "None" refusal.message).message
  | _, _ => none

theorem nullNote?_of_null {file : String} {refusal : Refusal}
    (hkey : keyOfEntry? entry = some .null)
    (hcompile : compileEntry table entry = .error (.refused refusal)) :
    nullNote? table file entry =
      some (Reason.badEntry file "None" refusal.message).message := by
  unfold nullNote?
  rw [hkey, hcompile]

theorem nullNote?_eq_none_iff {file : String} :
    nullNote? table file entry = none ↔ keyOfEntry? entry ≠ some .null := by
  constructor
  · intro hnone hkey
    obtain ⟨refusal, hcompile⟩ := @compileEntry_of_null table _ hkey
    rw [nullNote?_of_null hkey hcompile] at hnone
    cases hnone
  · intro hkey
    unfold nullNote?
    split
    · rename_i hnull _
      exact absurd hnull hkey
    · rfl

/-! ## One entry -/

/-- A field is stored under `key`, or a problem is noted under it or under an equal one. -/
def Filed (r : Registry) (key : Value) : Prop :=
  holdsKey r key = true ∨ ∃ k m, (k = key ∨ sameKey k key = true) ∧ (k, m) ∈ r.errors

/-- An entry adds to `fileErrors` its `nullNote?`. -/
theorem fileErrors_of_treats_eq (h : Treats table r entry r') :
    r'.fileErrors = r.fileErrors ++ (nullNote? table r.file entry).toList := by
  have hother (hkey : keyOfEntry? entry ≠ some .null) :
      r.fileErrors ++ (nullNote? table r.file entry).toList = r.fileErrors := by
    rw [nullNote?_eq_none_iff.2 hkey, Option.toList_none, List.append_nil]
  cases h with
  | incomplete hnone => rw [hother (by simp [hnone])]
  | held hkey hheld =>
    obtain ⟨s, rfl, -⟩ := holdsKey_iff.1 hheld
    rw [hother (by simp [hkey])]
  | stored _ hcompile =>
    rw [hother (by simp [entryKey_of_compile hcompile])]
    rfl
  | noted hkey _ hcompile hreason hreject =>
    obtain ⟨-, ⟨rfl, rfl⟩ | ⟨hne, rfl⟩⟩ := reject_cases hreject
    · obtain rfl := Except.ok.inj hreason
      rw [nullNote?_of_null hkey hcompile]
      rfl
    · rw [hother (by simp [hkey, hne])]

/-- A key that is `Filed` stays so. -/
theorem filed_mono (h : Treats table r entry r') (hfiled : Filed r key) : Filed r' key := by
  rcases hfiled with hheld | ⟨k, m, hk, hmem⟩
  · obtain ⟨s, rfl, hs⟩ := holdsKey_iff.1 hheld
    exact .inl (holdsKey_iff.2 ⟨s, rfl, (mem_keys_of_runs (.cons h .nil)).2 (.inl hs)⟩)
  · obtain ⟨m', hm'⟩ := note_of_treats h ⟨m, hmem⟩
    exact .inr ⟨k, m', hk, hm'⟩

/-- The key of an entry is `Filed`, unless it is null. -/
theorem filed_of_treats (h : Treats table r entry r') (hkey : keyOfEntry? entry = some key)
    (hne : key ≠ .null) : Filed r' key := by
  cases h with
  | incomplete hnone => cases hnone.symm.trans hkey
  | held hkey' hheld =>
    obtain rfl := Option.some.inj (hkey'.symm.trans hkey)
    exact .inl hheld
  | @stored f v hnew hcompile =>
    obtain rfl := Option.some.inj ((entryKey_of_compile hcompile).symm.trans hkey)
    refine .inl (holdsKey_iff.2 ⟨f.key, rfl, ?_⟩)
    rw [keys_store hnew]
    exact List.mem_append_right _ (List.mem_singleton_self _)
  | noted hkey' _ _ _ hreject =>
    obtain rfl := Option.some.inj (hkey'.symm.trans hkey)
    obtain ⟨-, ⟨hnull, -⟩ | ⟨-, rfl⟩⟩ := reject_cases hreject
    · exact absurd hnull hne
    · obtain ⟨k, hk, hmem⟩ := mem_note_new _ _ r.errors
      exact .inr ⟨k, _, hk, hmem⟩

theorem key_of_mem_note {k : Value} {m : String} {notes : List (Value × String)}
    (h : (k, m) ∈ note key message notes) : k = key ∨ ∃ m', (k, m') ∈ notes := by
  rcases note_cases key message notes with hlast | ⟨front, k', m', back, rfl, -, hplace⟩
  · rw [hlast] at h
    rcases List.mem_append.1 h with hold | hnew
    · exact .inr ⟨m, hold⟩
    · exact .inl (Prod.mk.inj (List.mem_singleton.1 hnew)).1
  · rw [hplace] at h
    rcases List.mem_append.1 h with hfront | hback
    · exact .inr ⟨m, List.mem_append_left _ hfront⟩
    · rcases List.mem_cons.1 hback with hrow | hback
      · obtain ⟨rfl, -⟩ := Prod.mk.inj hrow
        exact .inr ⟨m', List.mem_append_right _ (List.mem_cons_self ..)⟩
      · exact .inr ⟨m, List.mem_append_right _ (List.mem_cons_of_mem _ hback)⟩

/-- No problem is noted under null. -/
def NoneUnderNull (r : Registry) : Prop := ∀ k m, (k, m) ∈ r.errors → k ≠ .null

theorem noneUnderNull_of_treats (h : Treats table r entry r') (hnone : NoneUnderNull r) :
    NoneUnderNull r' := by
  cases h with
  | incomplete => exact hnone
  | held => exact hnone
  | stored => exact hnone
  | noted _ _ _ _ hreject =>
    obtain ⟨-, ⟨-, rfl⟩ | ⟨hne, rfl⟩⟩ := reject_cases hreject
    · exact hnone
    · intro k m hmem
      rcases key_of_mem_note hmem with rfl | ⟨m', hold⟩
      · exact hne
      · exact hnone k m' hold

/-- Then null is not `Filed`, for there is no field under it either. -/
theorem NoneUnderNull.not_filed (h : NoneUnderNull r) : ¬ Filed r .null := by
  rintro (hheld | ⟨k, m, hk, hmem⟩)
  · cases hheld
  · exact h k m hmem (hk.elim id sameKey_null_iff.1)

/-! ## Runs -/

/-- **A run adds to the problems of the file** the `nullNote?` of each entry whose key is null, in
    their order, and nothing else. -/
theorem fileErrors_of_runs_eq (h : Runs table r entries r') :
    r'.fileErrors = r.fileErrors ++ entries.filterMap (nullNote? table r.file) := by
  induction h with
  | nil => rw [List.filterMap_nil, List.append_nil]
  | @cons r mid r' entry rest hentry hrest ih =>
    rw [ih, fileErrors_of_treats_eq hentry, (settings_of_treats hentry).1, List.append_assoc]
    cases hnote : nullNote? table r.file entry with
    | none => rw [List.filterMap_cons_none hnote]; rfl
    | some note => rw [List.filterMap_cons_some hnote]; rfl

/-- **A run files the key of each entry**, so that it is `Filed`, unless it is null. -/
theorem filed_of_runs (h : Runs table r entries r') (hmem : entry ∈ entries)
    (hkey : keyOfEntry? entry = some key) (hne : key ≠ .null) : Filed r' key := by
  induction h with
  | nil => cases hmem
  | cons hentry hrest ih =>
    rcases List.mem_cons.1 hmem with rfl | hmem
    · exact hrest.preserves (fun _ _ _ _ hlater => filed_mono hlater)
        (filed_of_treats hentry hkey hne)
    · exact ih hmem

/-- A run files nothing under null. -/
theorem not_filed_null (h : Runs table r entries r') (hnone : NoneUnderNull r) :
    ¬ Filed r' .null :=
  (h.preserves (fun _ _ _ _ hentry => noneUnderNull_of_treats hentry) hnone).not_filed

/-! ## Problems of the list -/

/-- A problem of the list `entries`: of an entry that is no object or lacks a part, or of an entry
    that is compared by the same key as one before it, in which case the message has that key's
    `text`. -/
inductive FileLevel (entries : List Value) : String → Prop
  | own {before after : List Value} {entry : Value} {message : String} :
    entries = before ++ entry :: after → message ∈ ownProblems before.length entry →
      FileLevel entries message
  | repeated {before after : List Value} {earlier entry k key : Value} {text : String} :
    entries = before ++ entry :: after → earlier ∈ before → comparedKey? earlier = some k →
      comparedKey? entry = some key → sameKey k key = true → key.asText = .ok text →
      FileLevel entries ("Duplicate field key: '" ++ text ++ "'")

/-- A message about `key` tells that one of the keys `known` is the same. -/
theorem mem_duplicateProblem {same : Value → Value → Bool}
    (h : duplicateProblem same known key = .ok messages) (hmem : message ∈ messages) :
    ∃ k ∈ known, same k key = true ∧
      ∃ text, key.asText = .ok text ∧ message = "Duplicate field key: '" ++ text ++ "'" := by
  unfold duplicateProblem at h
  split at h
  · cases h
  · split at h
    · rename_i hknown
      obtain ⟨k, hk, hsame⟩ := List.any_eq_true.1 hknown
      refine ⟨k, hk, hsame, ?_⟩
      split at h
      · rename_i text htext
        obtain rfl := Except.ok.inj h
        exact ⟨text, htext, List.mem_singleton.1 hmem⟩
      · cases h
    · obtain rfl := Except.ok.inj h
      cases hmem

/-- From any entry on, where the keys `known` are those that the entries `before` are compared by:
    the problems are of the list. -/
theorem fileLevel_of_mem_problemsFrom {before : List Value}
    (hknown : known = before.filterMap comparedKey?)
    (h : problemsFrom sameKey before.length known entries = .ok messages)
    (hmem : message ∈ messages) : FileLevel (before ++ entries) message := by
  induction entries generalizing before known messages with
  | nil =>
    obtain rfl := Except.ok.inj h
    cases hmem
  | cons entry rest ih =>
    obtain ⟨duplicate, more, hduplicate, hmore, rfl⟩ := problemsFrom_cons_eq_ok_iff.1 h
    rcases List.mem_append.1 hmem with hmem | hlater
    · rcases List.mem_append.1 hmem with hown | hrepeated
      · exact .own rfl hown
      · cases hkey : comparedKey? entry with
        | none =>
          rw [hkey] at hduplicate
          obtain rfl := Except.ok.inj hduplicate
          cases hrepeated
        | some key =>
          rw [hkey] at hduplicate
          obtain ⟨k, hk, hsame, text, htext, rfl⟩ := mem_duplicateProblem hduplicate hrepeated
          rw [hknown] at hk
          obtain ⟨earlier, hearlier, hk⟩ := List.mem_filterMap.1 hk
          exact .repeated rfl hearlier hk hkey hsame htext
    · rw [List.append_cons]
      refine ih ?_ (by rwa [List.length_append]) hlater
      rw [List.filterMap_append, hknown]
      cases hkey : comparedKey? entry <;> simp [hkey]

/-- What is noted of the list, as one message about all `messages`. -/
def listNote (file : String) : List String → List String
  | [] => []
  | messages => [(Reason.badEntries file messages).message]

theorem fileErrors_noteFile (messages : List String) :
    (r.noteFile messages).fileErrors = r.fileErrors ++ listNote r.file messages := by
  cases messages with
  | nil => exact (List.append_nil _).symm
  | cons => rfl

theorem errors_noteFile (messages : List String) : (r.noteFile messages).errors = r.errors := by
  cases messages <;> rfl

theorem file_noteFile (messages : List String) : (r.noteFile messages).file = r.file := by
  cases messages <;> rfl

/-! ## Whole files -/

/-- **What is filed where** by a load that is not strict (`hlenient`) and comes to its end
    (`hload`).  The key of every entry with both parts is `Filed`, except for null.  The problems
    of the file, `fileErrors`, are the `listNote`, if there is something wrong with the list, and
    the `nullNote?` of each entry whose key is null.  So all keys are filed and all problems of the
    file are `FileLevel` ones exactly if no key is null. -/
theorem filed_by_key_iff {ks : List String} (hlenient : r.strict = false)
    (hload : (r.load table d).2 = .ok ks) :
    ∃ entries messages, listedIn d r.file = .ok entries ∧
      problems sameKey entries = .ok messages ∧
      (∀ message ∈ messages, FileLevel entries message) ∧
      (∀ entry ∈ entries, ∀ key, keyOfEntry? entry = some key →
        (Filed (r.load table d).1 key ↔ key ≠ .null)) ∧
      (r.load table d).1.fileErrors =
        listNote r.file messages ++ entries.filterMap (nullNote? table r.file) ∧
      ((∀ entry ∈ entries, ∀ key, keyOfEntry? entry = some key →
            Filed (r.load table d).1 key) ∧
          (r.load table d).1.fileErrors = listNote r.file messages ↔
        ∀ entry ∈ entries, keyOfEntry? entry ≠ some .null) := by
  obtain ⟨entries, messages, hlisted, hproblems, hruns, -⟩ := runs_of_load hlenient hload
  have hfiled : ∀ entry ∈ entries, ∀ key, keyOfEntry? entry = some key →
      (Filed (r.load table d).1 key ↔ key ≠ .null) := by
    intro entry hmem key hkey
    constructor
    · rintro hkeyed rfl
      refine not_filed_null hruns ?_ hkeyed
      intro k m hnote
      rw [errors_noteFile] at hnote
      cases hnote
    · exact filed_of_runs hruns hmem hkey
  have hnotes : (r.load table d).1.fileErrors =
      listNote r.file messages ++ entries.filterMap (nullNote? table r.file) := by
    rw [fileErrors_of_runs_eq hruns, fileErrors_noteFile, file_noteFile]
    rfl
  refine ⟨entries, messages, hlisted, hproblems, ?_, hfiled, hnotes, ?_⟩
  · intro message hmem
    show FileLevel ([] ++ entries) message
    exact fileLevel_of_mem_problemsFrom rfl hproblems hmem
  · constructor
    · rintro ⟨hall, -⟩ entry hmem hnull
      exact (hfiled entry hmem .null hnull).1 (hall entry hmem .null hnull) rfl
    · intro hnull
      refine ⟨?_, ?_⟩
      · rintro entry hmem key hkey
        refine (hfiled entry hmem key hkey).2 ?_
        rintro rfl
        exact hnull entry hmem hkey
      · have hnone : entries.filterMap (nullNote? table r.file) = [] := by
          rw [List.filterMap_eq_nil_iff]
          exact fun entry hmem => nullNote?_eq_none_iff.2 (hnull entry hmem)
        rw [hnotes, hnone, List.append_nil]

/-- A file with one key that is no text and one that is. -/
def keyedFile : Directory :=
  .holding "f.json" ("[\x7b\"key\": 7, \"type\": \"string\"\x7d, "
    ++ "\x7b\"key\": \"b\", \"type\": \"string\"\x7d]")

/-- Both keys of `keyedFile` are `Filed`, and nothing else is wrong with the file. -/
theorem filed_keyedFile :
    ((empty "f.json" false).load .standard keyedFile).2 = .ok ["b"] ∧
      ∃ entries messages, listedIn keyedFile "f.json" = .ok entries ∧
        problems sameKey entries = .ok messages ∧
        (∀ entry ∈ entries, ∀ key, keyOfEntry? entry = some key →
          Filed ((empty "f.json" false).load .standard keyedFile).1 key) ∧
        ((empty "f.json" false).load .standard keyedFile).1.fileErrors =
          listNote "f.json" messages := by
  have hload : ((empty "f.json" false).load .standard keyedFile).2 = .ok ["b"] := by
    decide +kernel
  have hkinds : (listedIn keyedFile "f.json").map
      (·.all fun entry => ( keyOfEntry? entry).map Value.kindName != some "NoneType") =
        .ok true := by decide +kernel
  obtain ⟨entries, messages, (hlisted : listedIn keyedFile "f.json" = .ok entries), hproblems, -, -,
    -, hall⟩ := @filed_by_key_iff .standard keyedFile (empty "f.json" false) ["b"] rfl hload
  have hnull : ∀ entry ∈ entries, keyOfEntry? entry ≠ some .null := by
    intro entry hmem hkey
    rw [hlisted] at hkinds
    have hkind := List.all_eq_true.1 (Except.ok.inj hkinds) entry hmem
    rw [hkey] at hkind
    cases hkind
  obtain ⟨hfiled, hnotes⟩ := hall.2 hnull
  exact ⟨hload, entries, messages, hlisted, hproblems, hfiled, hnotes⟩

theorem eq_null_of_kindName (h : key.kindName = "NoneType") : key = .null := by
  cases key with
  | null => rfl
  | _ => simp [Value.kindName] at h

/-- A file with one entry, whose key is null. -/
def nullFile : Directory :=
  .holding "f.json" "[\x7b\"key\": null, \"type\": \"string\"\x7d]"

/-- The key in `nullFile` is not `Filed`, and its problem is one of the file. -/
theorem load_nullFile :
    ∃ entry, listedIn nullFile "f.json" = .ok [entry] ∧ keyOfEntry? entry = some .null ∧
      ((empty "f.json" false).load .standard nullFile).2 = .ok [] ∧
      ¬ Filed ((empty "f.json" false).load .standard nullFile).1 .null ∧
      ((empty "f.json" false).load .standard nullFile).1.fileErrors =
        ["Field 'None' in f.json: invalid field descriptor: 1 validation error for "
          ++ "FieldDescriptor\nkey\n  Input should be a valid string [type=string_type, "
          ++ "input_type=NoneType]"] := by
  have hload : ((empty "f.json" false).load .standard nullFile).2 = .ok [] := by decide +kernel
  have hkinds : (listedIn nullFile "f.json").map
      (·.map fun entry => ( keyOfEntry? entry).map Value.kindName) = .ok [some "NoneType"] := by
    decide +kernel
  obtain ⟨entries, (hlisted : listedIn nullFile "f.json" = .ok entries)⟩ := listedIn_of_load hload
  rw [hlisted] at hkinds
  obtain ⟨entry, rfl, hkind⟩ := List.map_eq_singleton_iff.1 (Except.ok.inj hkinds)
  obtain ⟨key, hkey, hnone⟩ := Option.map_eq_some_iff.1 hkind
  obtain rfl := eq_null_of_kindName hnone
  refine ⟨entry, hlisted, hkey, hload, ?_, by decide +kernel⟩
  have hempty : ((empty "f.json" false).load .standard nullFile).1.errors.isEmpty = true := by
    decide +kernel
  rintro (hheld | ⟨k, m, -, hmem⟩)
  · cases hheld
  · rw [List.isEmpty_iff.1 hempty] at hmem
    cases hmem

end Rulebook.Registry
