/-
  The report on a list of entries, message by message.

  Each entry has its own part of the report: what is wrong with it by itself, and then whether its
  key was there before.  The keys are texts here.

      no object           not an object
      key missing         missing keys: ['key']
      type missing        missing keys: ['type']
      both missing        missing keys: ['key', 'type']
      key there before    Duplicate field key

  There are two ways to tell what the key of an entry is.  An object without a key has none, or it
  counts as one whose key is the empty text.  By the first way two such objects have nothing in
  common; by the second, which is what is done, the later one repeats the key of the earlier one,
  and the report is of an empty key that nobody wrote.

  1. `givenKey?`, `countedKey?`: the two ways;
  2. `ownReport`, `report`, `reports`: the part of an entry, and the whole report, for any way to
     tell the keys;
  3. `problems_eq_reports`: the problems of a list are the report with the keys that count;
  4. `Confused`, `confused_of_counted`, `reports_eq_iff`: two entries one of which has no key, and
     both of which count as having the empty one.  Where there are no two such entries, and only
     there, both ways come to the same report;
  5. `problems_eq_report_iff`: all of it, for any list of which the keys are texts.

  The crux of 4 is that entries without confusion stay so from the front: if a key is the empty text
  and an earlier entry has none, no entry before can have it either, so that the report gains a
  message.
-/
import Mathlib.Data.List.Pairwise
import Rulebook.Proofs.ListProblems

namespace Rulebook.Registry

open Rulebook.Text

variable {entry other : Value} {entries before : List Value} {key : String}
  {keyOf? : Value → Option String} {same : Value → Value → Bool}

/-! ## Keys -/

/-- The key of an object, if it has one that is a text. -/
def givenKey? : Value → Option String
  | .dict parts =>
    match Value.get? parts "key" with
    | some (.text key) => some key
    | _ => none
  | _ => none

/-- The same as `givenKey?`, where an object without a key counts as one whose key is the empty
    text. -/
def countedKey? : Value → Option String
  | .dict parts =>
    match (Value.get? parts "key").getD (.text "") with
    | .text key => some key
    | _ => none
  | _ => none

/-- The key of an object is a text, if it has one. -/
def keyIsText : Value → Bool
  | .dict parts =>
    match Value.get? parts "key" with
    | none => true
    | some (.text _) => true
    | some _ => false
  | _ => true

/-- Every key in an object is a text. -/
def TextKeys (entries : List Value) : Prop := ∀ entry ∈ entries, keyIsText entry = true

instance : DecidablePred TextKeys := fun entries =>
  inferInstanceAs (Decidable (∀ entry ∈ entries, keyIsText entry = true))

theorem countedKey?_of_given (h : givenKey? entry = some key) : countedKey? entry = some key := by
  unfold givenKey? at h
  split at h
  · rename_i parts
    split at h
    · rename_i hget
      obtain rfl := Option.some.inj h
      simp [countedKey?, hget]
    · cases h
  · cases h

/-- A key that counts, for `countedKey?`, and is not empty is there, for `givenKey?`. -/
theorem givenKey?_of_counted (h : countedKey? entry = some key) (hne : key ≠ "") :
    givenKey? entry = some key := by
  unfold countedKey? at h
  split at h
  · rename_i parts
    cases hget : Value.get? parts "key" with
    | none =>
      rw [hget] at h
      exact absurd (Option.some.inj h).symm hne
    | some k =>
      rw [hget, Option.getD_some] at h
      unfold givenKey?
      dsimp only
      rw [hget]
      cases k <;> exact h
  · cases h

/-- The key that `countedKey?` finds is the one that `givenKey?` finds, if it finds one. -/
theorem eq_of_given {k : String} (h : countedKey? entry = some key)
    (hk : givenKey? entry = some k) : k = key :=
  Option.some.inj ((countedKey?_of_given hk).symm.trans h)

theorem TextKeys.of_cons (h : TextKeys (entry :: entries)) : TextKeys entries :=
  fun other hmem => h other (List.mem_cons_of_mem _ hmem)

/-- The key that an entry is compared by is the one that `countedKey?` finds, as a text. -/
theorem TextKeys.comparedKey?_eq (h : TextKeys (entry :: entries)) :
    comparedKey? entry = (countedKey? entry).map .text := by
  cases entry with
  | dict parts =>
    have htext := h _ (List.mem_cons_self ..)
    unfold keyIsText at htext
    dsimp only at htext
    split at htext
    · rename_i hget
      simp [comparedKey?, countedKey?, hget]
    · rename_i s hget
      simp [comparedKey?, countedKey?, hget]
    · cases htext
  | _ => rfl

/-! ## The report -/

/-- What is wrong with an entry by itself, at `index`. -/
def ownReport (index : Nat) : Value → List String
  | .dict parts =>
    match Value.get? parts "key", Value.get? parts "type" with
    | some _, some _ => []
    | none, some _ => ["Field " ++ index.repr ++ " missing keys: ['key']"]
    | some _, none => ["Field " ++ index.repr ++ " missing keys: ['type']"]
    | none, none => ["Field " ++ index.repr ++ " missing keys: ['key', 'type']"]
  | _ => ["Field " ++ index.repr ++ " is not an object"]

/-- The message about the key of an entry, if one of the entries `before` it has the same. -/
def repeatReport (keyOf? : Value → Option String) (before : List Value) (entry : Value) :
    List String :=
  match keyOf? entry with
  | none => []
  | some key =>
    if some key ∈ before.map keyOf? then ["Duplicate field key: '" ++ key ++ "'"] else []

/-- The part of one entry in the report, behind the entries `before` it. -/
def report (keyOf? : Value → Option String) (before : List Value) (entry : Value) : List String :=
  ownReport before.length entry ++ repeatReport keyOf? before entry

/-- The report on entries, in their order, with the keys that `keyOf?` finds. -/
def reports (keyOf? : Value → Option String) (before : List Value) : List Value → List String
  | [] => []
  | entry :: rest => report keyOf? before entry ++ reports keyOf? (before ++ [entry]) rest

/-- An entry has the key, by `keyOf?`, of one of those `before` it. -/
def Repeats (keyOf? : Value → Option String) (before : List Value) (entry : Value) : Prop :=
  ∃ key, keyOf? entry = some key ∧ some key ∈ before.map keyOf?

theorem ownProblems_eq_ownReport (index : Nat) (entry : Value) :
    ownProblems index entry = ownReport index entry := by
  cases entry with
  | dict parts =>
    have htexts : " missing keys: " ++ Value.bracketed "[" [quoted "key"] "]" =
          " missing keys: ['key']" ∧
        " missing keys: " ++ Value.bracketed "[" [quoted "type"] "]" =
          " missing keys: ['type']" ∧
        " missing keys: " ++ Value.bracketed "[" [quoted "key", quoted "type"] "]" =
          " missing keys: ['key', 'type']" := by decide +kernel
    show missingProblem index parts = _
    unfold missingProblem missingParts requiredParts ownReport
    cases hkey : Value.get? parts "key" <;> cases htype : Value.get? parts "type" <;>
      simp [hkey, htype, String.append_assoc, htexts]
  | _ => rfl

theorem repeatReport_of_known (hkey : keyOf? entry = some key)
    (h : some key ∈ before.map keyOf?) :
    repeatReport keyOf? before entry = ["Duplicate field key: '" ++ key ++ "'"] := by
  unfold repeatReport
  rw [hkey]
  exact if_pos h

theorem repeatReport_of_new (h : ¬ Repeats keyOf? before entry) :
    repeatReport keyOf? before entry = [] := by
  unfold repeatReport
  split
  · rfl
  · rename_i key hkey
    exact if_neg fun hmem => h ⟨key, hkey, hmem⟩

/-! ## The problems of a list -/

/-- Texts are the same key, for either way to compare, if they are the same text. -/
theorem same_text (hsame : same = Value.same ∨ same = sameKey) (s t : String) :
    same (.text s) (.text t) = (s == t) := by
  rcases hsame with rfl | rfl
  · rfl
  · rfl

/-- A text that `duplicateProblem` looks up among texts comes again if it is one of them. -/
theorem duplicateProblem_text (hsame : same = Value.same ∨ same = sameKey)
    (hkey : countedKey? entry = some key) :
    duplicateProblem same ((before.filterMap countedKey?).map .text) (.text key) =
      .ok (repeatReport countedKey? before entry) := by
  have hknown : ((before.filterMap countedKey?).map Value.text).any (same · (.text key)) = true ↔
      some key ∈ before.map countedKey? := by
    rw [List.any_map, List.any_eq_true, List.mem_map]
    simp only [Function.comp_apply, same_text hsame, beq_iff_eq, exists_eq_right,
      List.mem_filterMap]
  have hfit : (Value.text key).isKey = true := rfl
  unfold duplicateProblem
  by_cases hmem : some key ∈ before.map countedKey?
  · rw [if_neg (by simp [hfit]), if_pos (hknown.2 hmem), repeatReport_of_known hkey hmem]
    rfl
  · rw [if_neg (by simp [hfit]), if_neg (fun h => hmem (hknown.1 h)), repeatReport_of_new]
    rintro ⟨k, hk, hrepeated⟩
    obtain rfl := Option.some.inj (hkey.symm.trans hk)
    exact hmem hrepeated

/-- From any entry on, `problemsFrom` gives the `reports` with the keys that count. -/
theorem problemsFrom_eq_reports (hsame : same = Value.same ∨ same = sameKey)
    (h : TextKeys entries) (before : List Value) :
    problemsFrom same before.length ((before.filterMap countedKey?).map .text) entries =
      .ok (reports countedKey? before entries) := by
  induction entries generalizing before with
  | nil => rfl
  | cons entry rest ih =>
    have hrest := ih h.of_cons (before ++ [entry])
    rw [List.length_append, List.length_singleton, List.filterMap_append, List.map_append] at hrest
    have hkeys : ((countedKey? entry).map Value.text).toList =
        ([entry].filterMap countedKey?).map .text := by
      cases hkey : countedKey? entry <;> simp [hkey]
    refine problemsFrom_cons_eq_ok_iff.2 ⟨repeatReport countedKey? before entry,
      reports countedKey? (before ++ [entry]) rest, ?_, ?_, ?_⟩
    · rw [h.comparedKey?_eq]
      cases hkey : countedKey? entry with
      | none =>
        rw [repeatReport_of_new]
        · rfl
        · rintro ⟨key, hsome, -⟩
          cases hkey.symm.trans hsome
      | some key => exact duplicateProblem_text hsame hkey
    · rwa [h.comparedKey?_eq, hkeys]
    · rw [ownProblems_eq_ownReport]
      rfl

/-- **The problems of a list** are the `reports` with the keys that count, those of
    `countedKey?`. -/
theorem problems_eq_reports (hsame : same = Value.same ∨ same = sameKey) (h : TextKeys entries) :
    problems same entries = .ok (reports countedKey? [] entries) :=
  problemsFrom_eq_reports hsame h []

/-! ## Confusion -/

/-- Two entries count as having the empty key, and one of them has none. -/
def Confused (entry other : Value) : Prop :=
  countedKey? entry = some "" ∧ countedKey? other = some "" ∧
    (givenKey? entry = none ∨ givenKey? other = none)

instance : DecidableRel Confused := fun entry other =>
  inferInstanceAs (Decidable (countedKey? entry = some "" ∧ countedKey? other = some "" ∧
    (givenKey? entry = none ∨ givenKey? other = none)))

theorem Confused.symm (h : Confused entry other) : Confused other entry :=
  ⟨h.2.1, h.1, h.2.2.symm⟩

/-- A key that is there and is repeated, by `givenKey?`, counts, too, by `countedKey?`. -/
theorem Repeats.counted (h : Repeats givenKey? before entry) :
    ∃ key, repeatReport givenKey? before entry = ["Duplicate field key: '" ++ key ++ "'"] ∧
      repeatReport countedKey? before entry = ["Duplicate field key: '" ++ key ++ "'"] := by
  obtain ⟨key, hkey, hmem⟩ := h
  obtain ⟨other, hother, hotherkey⟩ := List.mem_map.1 hmem
  exact ⟨key, repeatReport_of_known hkey hmem,
    repeatReport_of_known (countedKey?_of_given hkey)
      (List.mem_map.2 ⟨other, hother, countedKey?_of_given hotherkey⟩)⟩

/-- A key that counts and is repeated, but not where it is there, is the empty one, and it is
    repeated because the entry is `Confused` with another. -/
theorem confused_of_counted (hcounted : Repeats countedKey? before entry)
    (hgiven : ¬ Repeats givenKey? before entry) :
    countedKey? entry = some "" ∧ ∃ other ∈ before, Confused other entry := by
  obtain ⟨key, hkey, hmem⟩ := hcounted
  obtain ⟨other, hother, hotherkey⟩ := List.mem_map.1 hmem
  have hempty : key = "" := by
    by_contra hne
    exact hgiven ⟨key, givenKey?_of_counted hkey hne,
      List.mem_map.2 ⟨other, hother, givenKey?_of_counted hotherkey hne⟩⟩
  obtain rfl := hempty
  refine ⟨hkey, other, hother, hotherkey, hkey, ?_⟩
  -- if both had the empty key, the one would repeat that of the other
  by_contra hboth
  rw [not_or, ← ne_eq, ← ne_eq, Option.ne_none_iff_exists', Option.ne_none_iff_exists'] at hboth
  obtain ⟨⟨k, hk⟩, k', hk'⟩ := hboth
  obtain rfl := eq_of_given hotherkey hk
  obtain rfl := eq_of_given hkey hk'
  exact hgiven ⟨"", hk', List.mem_map.2 ⟨other, hother, hk⟩⟩

/-- By the keys that count nothing gets lost of `repeatReport`, and what there is more is about the
    empty key. -/
theorem repeatReport_cases (before : List Value) (entry : Value) :
    repeatReport givenKey? before entry = repeatReport countedKey? before entry ∨
      repeatReport givenKey? before entry = [] ∧
        repeatReport countedKey? before entry = ["Duplicate field key: ''"] ∧
        ∃ other ∈ before, Confused other entry := by
  by_cases hgiven : Repeats givenKey? before entry
  · obtain ⟨key, hreport, hcounted⟩ := hgiven.counted
    exact .inl (hreport.trans hcounted.symm)
  · rw [repeatReport_of_new hgiven]
    by_cases hcounted : Repeats countedKey? before entry
    · obtain ⟨hempty, hconfused⟩ := confused_of_counted hcounted hgiven
      obtain ⟨key, hkey, hmem⟩ := hcounted
      obtain rfl := Option.some.inj (hempty.symm.trans hkey)
      exact .inr ⟨rfl, repeatReport_of_known hkey hmem, hconfused⟩
    · exact .inl (repeatReport_of_new hcounted).symm

/-- **One entry** has the same part in both reports exactly if it is not `Confused` with an entry
    of `before`, as long as these are not confused with one another. -/
theorem report_eq_iff (hbefore : before.Pairwise fun a b => ¬ Confused a b) :
    report givenKey? before entry = report countedKey? before entry ↔
      ∀ other ∈ before, ¬ Confused other entry := by
  unfold report
  rw [List.append_cancel_left_eq]
  constructor
  · intro hsame other hother hconfused
    have hcounted : repeatReport countedKey? before entry ≠ [] := by
      rw [repeatReport_of_known hconfused.2.1 (List.mem_map.2 ⟨other, hother, hconfused.1⟩)]
      exact List.cons_ne_nil _ _
    rw [← hsame] at hcounted
    -- the entry has its key, and so has one before it; then the other one has none
    have hrepeats : Repeats givenKey? before entry := by
      by_contra hnew
      exact hcounted (repeatReport_of_new hnew)
    obtain ⟨k, hk, hmem⟩ := hrepeats
    obtain rfl := eq_of_given hconfused.2.1 hk
    obtain ⟨third, hthird, hthirdkey⟩ := List.mem_map.1 hmem
    have hnone : givenKey? other = none := hconfused.2.2.resolve_right (by simp [hk])
    have hne : other ≠ third := by
      rintro rfl
      cases hnone.symm.trans hthirdkey
    have hsymm : Std.Symm fun a b => ¬ Confused a b := ⟨fun a b hab hba => hab hba.symm⟩
    exact hbefore.forall hother hthird hne
      ⟨hconfused.1, countedKey?_of_given hthirdkey, .inl hnone⟩
  · intro hclear
    rcases repeatReport_cases before entry with hsame | ⟨-, -, other, hother, hconfused⟩
    · exact hsame
    · exact absurd hconfused (hclear other hother)

theorem report_sublist (before : List Value) (entry : Value) :
    (report givenKey? before entry).Sublist (report countedKey? before entry) := by
  refine List.Sublist.append (List.Sublist.refl _) ?_
  rcases repeatReport_cases before entry with hsame | ⟨hgiven, -⟩
  · rw [hsame]
  · rw [hgiven]
    exact List.nil_sublist _

theorem reports_sublist (before entries : List Value) :
    (reports givenKey? before entries).Sublist (reports countedKey? before entries) := by
  induction entries generalizing before with
  | nil => exact List.Sublist.refl _
  | cons entry rest ih => exact (report_sublist before entry).append (ih _)

/-- What there is more in the report by `countedKey?` is about the empty key. -/
theorem reports_filter (before entries : List Value) :
    (reports countedKey? before entries).filter (· ≠ "Duplicate field key: ''") =
      (reports givenKey? before entries).filter (· ≠ "Duplicate field key: ''") := by
  induction entries generalizing before with
  | nil => rfl
  | cons entry rest ih =>
    unfold reports report
    simp only [List.filter_append, ih]
    rcases repeatReport_cases before entry with hsame | ⟨hgiven, hcounted, -⟩
    · rw [hsame]
    · rw [hgiven, hcounted]
      rfl

/-- Both reports on `entry` and those behind it are the same exactly if each entry has the same
    part in both. -/
theorem reports_cons_eq_iff :
    reports givenKey? before (entry :: entries) = reports countedKey? before (entry :: entries) ↔
      report givenKey? before entry = report countedKey? before entry ∧
        reports givenKey? (before ++ [entry]) entries =
          reports countedKey? (before ++ [entry]) entries := by
  constructor
  · intro h
    unfold reports at h
    -- neither part is longer in the first report, so neither is shorter
    have hfirst := (report_sublist before entry).length_le
    have hrest := (reports_sublist (before ++ [entry]) entries).length_le
    have hlength := congrArg List.length h
    rw [List.length_append, List.length_append] at hlength
    exact List.append_inj h (by omega)
  · rintro ⟨hentry, hrest⟩
    unfold reports
    rw [hentry, hrest]

/-- **Both reports are the same** exactly if no two entries are `Confused`. -/
theorem reports_eq_iff (hbefore : before.Pairwise fun a b => ¬ Confused a b) :
    reports givenKey? before entries = reports countedKey? before entries ↔
      (before ++ entries).Pairwise fun a b => ¬ Confused a b := by
  induction entries generalizing before with
  | nil =>
    rw [List.append_nil]
    exact ⟨fun _ => hbefore, fun _ => rfl⟩
  | cons entry rest ih =>
    have hnext : (before ++ [entry]).Pairwise (fun a b => ¬ Confused a b) ↔
        report givenKey? before entry = report countedKey? before entry := by
      rw [report_eq_iff hbefore, List.pairwise_append]
      simp [hbefore]
    rw [reports_cons_eq_iff, ← hnext, List.append_cons before entry rest]
    constructor
    · rintro ⟨hclear, hrest⟩
      exact (ih hclear).1 hrest
    · intro hall
      have hclear := (List.pairwise_append.1 hall).1
      exact ⟨hclear, (ih hclear).2 hall⟩

/-! ## Any list -/

/-- **What the problems of a list are**, for every list that has `TextKeys` and for either way to
    compare keys: the `reports` by `countedKey?`.  The `reports` by `givenKey?`, the key that is
    there, are part of it, and all else in it is about the empty key; and they are all of it
    exactly if no two entries are `Confused`. -/
theorem problems_eq_report_iff (hsame : same = Value.same ∨ same = sameKey)
    (h : TextKeys entries) :
    problems same entries = .ok (reports countedKey? [] entries) ∧
      (reports givenKey? [] entries).Sublist (reports countedKey? [] entries) ∧
      (reports countedKey? [] entries).filter (· ≠ "Duplicate field key: ''") =
        (reports givenKey? [] entries).filter (· ≠ "Duplicate field key: ''") ∧
      (problems same entries = .ok (reports givenKey? [] entries) ↔
        entries.Pairwise fun a b => ¬ Confused a b) := by
  have hproblems := problems_eq_reports hsame h
  refine ⟨hproblems, reports_sublist [] entries, reports_filter [] entries, ?_⟩
  rw [hproblems, Except.ok.injEq, eq_comm, reports_eq_iff List.Pairwise.nil, List.nil_append]

/-- Entries with a problem of every kind, one of them without a key. -/
def faultyEntries : List Value :=
  [.int 5, .dict [(.text "key", .text "a")], .dict [(.text "type", .text "string")],
    .dict [(.text "key", .text "a"), (.text "type", .text "string")]]

/-- No two of `faultyEntries` are `Confused`, and the report has one message for each. -/
theorem problems_of_faulty_entries :
    TextKeys faultyEntries ∧ faultyEntries.Pairwise (fun a b => ¬ Confused a b) ∧
      problems Value.same faultyEntries =
        .ok ["Field 0 is not an object", "Field 1 missing keys: ['type']",
          "Field 2 missing keys: ['key']", "Duplicate field key: 'a'"] := by
  have htexts : TextKeys faultyEntries := by decide +kernel
  have hclear : faultyEntries.Pairwise fun a b => ¬ Confused a b := by decide +kernel
  have hreport : reports givenKey? [] faultyEntries =
      ["Field 0 is not an object", "Field 1 missing keys: ['type']",
        "Field 2 missing keys: ['key']", "Duplicate field key: 'a'"] := by decide +kernel
  obtain ⟨-, -, -, hsame⟩ := problems_eq_report_iff (.inl rfl) htexts
  exact ⟨htexts, hclear, (hsame.2 hclear).trans (congrArg Except.ok hreport)⟩

/-- Two objects without a key. -/
def keylessEntries : List Value :=
  [.dict [(.text "type", .text "string")], .dict [(.text "type", .text "string")]]

/-- The second of `keylessEntries` is said to repeat the key of the first, though neither has
    one. -/
theorem problems_of_keyless_entries :
    TextKeys keylessEntries ∧ (∀ entry ∈ keylessEntries, givenKey? entry = none) ∧
      problems Value.same keylessEntries =
        .ok ["Field 0 missing keys: ['key']", "Field 1 missing keys: ['key']",
          "Duplicate field key: ''"] ∧
      problems Value.same keylessEntries ≠ .ok (reports givenKey? [] keylessEntries) := by
  decide +kernel

end Rulebook.Registry
