/-
  What is wrong with a list of entries as a whole.

  The list is looked over once, with the keys of the entries before each one at hand.  There are
  three ways in which it ends:

      nothing is wrong         every entry is an object with both parts, no key is there twice
      something is wrong       some entry is not, or some key is
      no answer                the key of some object is a list or an object itself

  1. `ownProblems`, `comparedKey?`, `problemsFrom_cons`: what one entry adds, by itself and by its
     key;
  2. `WellShaped`: a list of entries with which nothing is wrong;
  3. `problems_eq_nil_iff`: the list is well shaped exactly if no problem is found;
  4. `mem_problemsFrom_of_own`, `mem_problemsFrom_of_repeated`: each entry that is wrong is found;
  5. `unfitKey?`, `problems_eq_error_iff`: the lists without an answer, as long as all keys can be
     written.

  All are proved for the entries from one on, where the keys before it are any list: `Fresh`
  is what 3 says of these, and 5 does not depend on them.
-/
import Rulebook.Proofs.FirstEntry

namespace Rulebook.Registry

variable {entry key : Value} {entries known : List Value} {parts : List (Value × Value)}
  {messages : List String} {e : Fault}

/-! ## One entry -/

/-- What is wrong with an entry by itself, at `index`. -/
def ownProblems (index : Nat) : Value → List String
  | .dict parts => missingProblem index parts
  | _ => ["Field " ++ index.repr ++ " is not an object"]

/-- The key that `entry` is compared by: an object without a key counts as one whose key is the
    empty text, and what is no object has none. -/
def comparedKey? : Value → Option Value
  | .dict parts => some ((Value.get? parts "key").getD (.text ""))
  | _ => none

theorem comparedKey?_of_entryKey (h : keyOfEntry? entry = some key) :
    comparedKey? entry = some key := by
  obtain ⟨parts, rfl, hkey, -⟩ := entryKey_eq_some_iff.1 h
  rw [comparedKey?, hkey, Option.getD_some]

theorem missingProblem_eq_nil_iff {index : Nat} :
    missingProblem index parts = [] ↔ ∃ key, keyOfEntry? (.dict parts) = some key := by
  unfold missingProblem
  cases hmissing : missingParts parts with
  | nil =>
    have hkey : (Value.get? parts "key").isSome := by
      by_contra hnone
      have hmem : "key" ∈ missingParts parts := by
        simp only [Option.not_isSome_iff_eq_none] at hnone
        simp [missingParts, requiredParts, hnone]
      rw [hmissing] at hmem
      cases hmem
    obtain ⟨key, hkey⟩ := Option.isSome_iff_exists.1 hkey
    have hentry : keyOfEntry? (.dict parts) = some key := by
      unfold keyOfEntry?
      dsimp only
      rw [hmissing]
      exact hkey
    simp [hentry]
  | cons part rest =>
    have hentry : keyOfEntry? (.dict parts) = none := by
      unfold keyOfEntry?
      dsimp only
      rw [hmissing]
      rfl
    simp [hentry]

theorem ownProblems_eq_nil_iff {index : Nat} :
    ownProblems index entry = [] ↔ ∃ key, keyOfEntry? entry = some key := by
  cases entry with
  | dict parts => exact missingProblem_eq_nil_iff
  | _ => exact iff_of_false (List.cons_ne_nil _ _) (fun ⟨_, hkey⟩ => by cases hkey)

/-- **The step**: `problemsFrom` finds the `ownProblems` of `entry`, those about the key that it is
    compared by, and those behind it, where this key is known. -/
theorem problemsFrom_cons (same : Value → Value → Bool) (index : Nat) :
    problemsFrom same index known (entry :: entries) =
      match (comparedKey? entry).elim (.ok []) (duplicateProblem same known) with
      | .error e => .error e
      | .ok duplicate =>
        match problemsFrom same (index + 1) (known ++ (comparedKey? entry).toList) entries with
        | .ok more => .ok (ownProblems index entry ++ duplicate ++ more)
        | .error e => .error e := by
  cases entry with
  | dict parts => rfl
  | _ =>
    simp only [problemsFrom, comparedKey?, Option.elim_none, Option.toList_none, List.append_nil]
    rfl

theorem problemsFrom_cons_eq_ok_iff {same : Value → Value → Bool} {index : Nat} :
    problemsFrom same index known (entry :: entries) = .ok messages ↔
      ∃ duplicate more,
        (comparedKey? entry).elim (.ok []) (duplicateProblem same known) = .ok duplicate ∧
        problemsFrom same (index + 1) (known ++ (comparedKey? entry).toList) entries = .ok more ∧
        messages = ownProblems index entry ++ duplicate ++ more := by
  rw [problemsFrom_cons]
  cases (comparedKey? entry).elim (.ok []) (duplicateProblem same known) with
  | error e => simp
  | ok duplicate =>
    cases problemsFrom same (index + 1) (known ++ (comparedKey? entry).toList) entries <;>
      simp [eq_comm]

/-! ## Nothing is wrong -/

/-- Every entry is an object with both required parts, and no two have the same key. -/
structure WellShaped (entries : List Value) : Prop where
  complete : ∀ entry ∈ entries, ∃ key, keyOfEntry? entry = some key
  distinct : (entries.filterMap keyOfEntry?).Pairwise fun a b => sameKey a b = false

/-- Every entry has a key for `keyOfEntry?` that is none of `known`. -/
def Fresh (known entries : List Value) : Prop :=
  ∀ entry ∈ entries, ∃ key, keyOfEntry? entry = some key ∧ ∀ k ∈ known, sameKey k key = false

theorem fresh_nil_iff :
    Fresh [] entries ↔ ∀ entry ∈ entries, ∃ key, keyOfEntry? entry = some key := by
  simp [Fresh]

/-- Behind an entry with `key`, that is one more that must not come again. -/
theorem fresh_snoc_iff :
    Fresh (known ++ [key]) entries ↔
      Fresh known entries ∧ ∀ k ∈ entries.filterMap keyOfEntry?, sameKey key k = false := by
  unfold Fresh
  constructor
  · intro h
    refine ⟨?_, ?_⟩
    · intro entry hentry
      obtain ⟨k, hk, hfresh⟩ := h entry hentry
      exact ⟨k, hk, fun j hj => hfresh j (List.mem_append_left _ hj)⟩
    · intro k hk
      obtain ⟨entry, hentry, hkey⟩ := List.mem_filterMap.1 hk
      obtain ⟨k', hk', hfresh⟩ := h entry hentry
      obtain rfl := Option.some.inj (hkey.symm.trans hk')
      exact hfresh key (List.mem_append_right _ (List.mem_singleton_self key))
  · rintro ⟨hknown, hkey⟩ entry hentry
    obtain ⟨k, hk, hfresh⟩ := hknown entry hentry
    refine ⟨k, hk, fun j hj => ?_⟩
    rcases List.mem_append.1 hj with hj | hj
    · exact hfresh j hj
    · obtain rfl := List.mem_singleton.1 hj
      exact hkey k (List.mem_filterMap.2 ⟨entry, hentry, hk⟩)

theorem duplicateProblem_eq_nil_iff {same : Value → Value → Bool}
    (h : duplicateProblem same known key = .ok messages) :
    messages = [] ↔ ∀ k ∈ known, same k key = false := by
  unfold duplicateProblem at h
  split at h
  · cases h
  · split at h
    · rename_i hknown
      have hne : messages ≠ [] := by
        split at h
        · obtain rfl := Except.ok.inj h
          simp
        · cases h
      obtain ⟨k, hk, hsame⟩ := List.any_eq_true.1 hknown
      constructor
      · intro hnil
        exact absurd hnil hne
      · intro hall
        rw [hall k hk] at hsame
        cases hsame
    · rename_i hknown
      obtain rfl := Except.ok.inj h
      simpa using hknown

/-- From any entry on: `problemsFrom` finds nothing exactly if all keys are `Fresh`, and none comes
    twice. -/
theorem problemsFrom_eq_nil_iff {index : Nat}
    (h : problemsFrom sameKey index known entries = .ok messages) :
    messages = [] ↔ Fresh known entries ∧
      (entries.filterMap keyOfEntry?).Pairwise fun a b => sameKey a b = false := by
  induction entries generalizing index known messages with
  | nil =>
    obtain rfl := Except.ok.inj h
    simp [Fresh]
  | cons entry rest ih =>
    obtain ⟨duplicate, more, hduplicate, hmore, rfl⟩ := problemsFrom_cons_eq_ok_iff.1 h
    -- no part is missing, the key is new, and behind it that key is one more that is known
    rw [List.append_eq_nil_iff, List.append_eq_nil_iff, ih hmore, ownProblems_eq_nil_iff]
    constructor
    · rintro ⟨⟨⟨key, hkey⟩, hnone⟩, hfresh, hdistinct⟩
      rw [comparedKey?_of_entryKey hkey] at hduplicate hfresh
      obtain ⟨hknown, hother⟩ := fresh_snoc_iff.1 hfresh
      have hnew := (duplicateProblem_eq_nil_iff hduplicate).1 hnone
      refine ⟨List.forall_mem_cons.2 ⟨⟨key, hkey, hnew⟩, hknown⟩, ?_⟩
      rw [List.filterMap_cons_some hkey]
      exact List.pairwise_cons.2 ⟨hother, hdistinct⟩
    · rintro ⟨hfresh, hdistinct⟩
      obtain ⟨⟨key, hkey, hnew⟩, hknown⟩ := List.forall_mem_cons.1 hfresh
      rw [List.filterMap_cons_some hkey] at hdistinct
      obtain ⟨hother, hrest⟩ := List.pairwise_cons.1 hdistinct
      rw [comparedKey?_of_entryKey hkey] at hduplicate ⊢
      exact ⟨⟨⟨key, hkey⟩, (duplicateProblem_eq_nil_iff hduplicate).2 hnew⟩,
        fresh_snoc_iff.2 ⟨hknown, hother⟩, hrest⟩

/-- **Nothing is wrong with a list** for `problems` exactly if it is `WellShaped`. -/
theorem problems_eq_nil_iff (h : problems sameKey entries = .ok messages) :
    messages = [] ↔ WellShaped entries := by
  rw [problemsFrom_eq_nil_iff h, fresh_nil_iff]
  constructor
  · rintro ⟨hcomplete, hdistinct⟩
    exact ⟨hcomplete, hdistinct⟩
  · rintro ⟨hcomplete, hdistinct⟩
    exact ⟨hcomplete, hdistinct⟩

/-! ## What is found

  The problems of the list name each entry that is wrong: by its index if it is no object or
  lacks a part, by its key if an earlier entry has that. -/

/-- The kind of an object's key, where that is a list or an object itself and so no key. -/
def unfitKey? : Value → Option String
  | .dict parts =>
    match Value.get? parts "key" with
    | some (.list _) => some "list"
    | some (.dict _) => some "dict"
    | _ => none
  | _ => none

/-- The keys of the entries can be written: none of them holds a number with too many digits, which
    would be `HoldsLong`. -/
def Writable (entries : List Value) : Prop :=
  ∀ parts, Value.dict parts ∈ entries → ∀ key, Value.get? parts "key" = some key →
    ¬ key.HoldsLong

/-- The kind that `unfitKey?` gives is that of the key that the entry is compared by, if this is
    not fit to be a key. -/
theorem unfitKey?_eq_some_iff {kind : String} :
    unfitKey? entry = some kind ↔
      ∃ key, comparedKey? entry = some key ∧ key.isKey = false ∧ kind = key.kindName := by
  cases entry with
  | dict parts =>
    simp only [unfitKey?, comparedKey?, Option.some.injEq, exists_eq_left']
    cases Value.get? parts "key" with
    | none => simp [Value.isKey]
    | some key => cases key <;> simp [Value.isKey, Value.kindName, eq_comm]
  | _ => simp [unfitKey?, comparedKey?]

/-- A key that can be written (`hshort`) has no answer from `duplicateProblem` only if it is unfit,
    by `isKey`. -/
theorem duplicateProblem_eq_error_iff {same : Value → Value → Bool} (hshort : ¬ key.HoldsLong) :
    duplicateProblem same known key = .error e ↔
      key.isKey = false ∧ e = .notAKey key.kindName := by
  have hwritten : ∃ text, key.asText = .ok text := by
    cases htext : key.asText with
    | ok text => exact ⟨text, rfl⟩
    | error limit => exact absurd (Value.asText_isError_iff.1 ⟨limit, htext⟩) hshort
  obtain ⟨text, htext⟩ := hwritten
  unfold duplicateProblem
  rw [htext]
  cases hkind : key.isKey with
  | false => simp [eq_comm]
  | true => by_cases hknown : known.any (same · key) = true <;> simp [hknown]

theorem Writable.comparedKey? (h : Writable (entry :: entries))
    (hkey : comparedKey? entry = some key) : ¬ key.HoldsLong := by
  cases entry with
  | dict parts =>
    obtain rfl := Option.some.inj hkey
    cases hget : Value.get? parts "key" with
    | none =>
      intro hlong
      cases hlong
    | some key => exact h parts (List.mem_cons_self ..) key hget
  | _ => cases hkey

/-- About the key of an entry there is no answer exactly if it is unfit, by `unfitKey?`. -/
theorem comparedProblem_eq_error_iff {same : Value → Value → Bool}
    (hshort : Writable (entry :: entries)) :
    (comparedKey? entry).elim (.ok []) (duplicateProblem same known) = .error e ↔
      ∃ kind, unfitKey? entry = some kind ∧ e = .notAKey kind := by
  simp only [unfitKey?_eq_some_iff]
  cases hkey : comparedKey? entry with
  | none => simp
  | some key =>
    rw [Option.elim_some, duplicateProblem_eq_error_iff (hshort.comparedKey? hkey)]
    simp

/-- From any entry on: the first key that is unfit, by `unfitKey?`, leaves `problemsFrom` without
    an answer. -/
theorem problemsFrom_eq_error_iff {same : Value → Value → Bool} {index : Nat}
    (hshort : Writable entries) :
    problemsFrom same index known entries = .error e ↔
      ∃ kind, entries.findSome? unfitKey? = some kind ∧ e = .notAKey kind := by
  induction entries generalizing index known with
  | nil => simp [problemsFrom]
  | cons entry rest ih =>
    have hrest : Writable rest := fun parts hmem => hshort parts (List.mem_cons_of_mem _ hmem)
    rw [problemsFrom_cons, List.findSome?_cons]
    cases hduplicate : (comparedKey? entry).elim (.ok []) (duplicateProblem same known) with
    | error e' =>
      -- the first unfit key is met before anything is said about the entries behind it
      obtain ⟨kind, hkind, rfl⟩ := (comparedProblem_eq_error_iff hshort).1 hduplicate
      rw [hkind]
      simp [eq_comm]
    | ok duplicate =>
      have hfit : unfitKey? entry = none := by
        rw [Option.eq_none_iff_forall_ne_some]
        intro kind hkind
        cases hduplicate.symm.trans ((comparedProblem_eq_error_iff hshort).2 ⟨kind, hkind, rfl⟩)
      rw [hfit]
      dsimp only
      rw [← ih hrest]
      cases problemsFrom same (index + 1) (known ++ (comparedKey? entry).toList) rest <;> simp

/-- **A list has no answer** from `problems` exactly if some key is unfit, and the first such key
    is to blame. -/
theorem problems_eq_error_iff {same : Value → Value → Bool} (hshort : Writable entries) :
    problems same entries = .error e ↔
      ∃ kind, entries.findSome? unfitKey? = some kind ∧ e = .notAKey kind :=
  problemsFrom_eq_error_iff hshort

/-- **Nothing is wrong, and there is an answer**, where a list is `WellShaped` and no entry has an
    `unfitKey?`. -/
theorem problems_of_wellShaped (hwritable : Writable entries) (hshape : WellShaped entries)
    (hfit : ∀ entry ∈ entries, unfitKey? entry = none) : problems sameKey entries = .ok [] := by
  cases hproblems : problems sameKey entries with
  | ok messages =>
    obtain rfl := (problems_eq_nil_iff hproblems).2 hshape
    rfl
  | error e =>
    obtain ⟨kind, hkind, -⟩ := (problems_eq_error_iff hwritable).1 hproblems
    obtain ⟨entry, hentry, hunfit⟩ := List.exists_of_findSome?_eq_some hkind
    cases (hfit entry hentry).symm.trans hunfit

end Rulebook.Registry
