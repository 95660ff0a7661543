/-
  The exit status of the checker.

  The checker loads a file leniently, reports on its fields, and then judges the values that were
  given for them.  Whoever calls it sees the exit status only:

      the list is faultless, and every value is valid for the field it names      0
      anything else                                                               1

  1. `judge_eq_none_iff`: a value is valid for a key;
  2. `SplitsAtSign`, `readPair_eq_ok_iff`: what is read from one pair;
  3. `valueArguments`, `pairs_of_gather`: the pairs of a command line;
  4. `valueLines_eq_true_iff`, `check_status`: the loop over the pairs, and the whole report;
  5. `exit_status_exact`: the checker.

  The crux lies in the loads: a problem that was dropped there would let a broken file pass.  Here
  the same is needed of the command line, that no pair gets lost on the way.
-/
import Mathlib.Data.List.Nodup
import Rulebook.Console.Report
import Rulebook.Proofs.FaultlessList
import Rulebook.Proofs.Splitting

namespace Rulebook

open Rulebook.Text

namespace Registry

variable {table : TypeTable} {r : Registry}

/-- **A value is valid for a key** in a registry that is `Consistent` if it is for the field that
    has it. -/
theorem judge_eq_none_iff (h : Consistent table r) {key : String} {value : Value} :
    r.judge key value = .ok none ↔
      ∃ f ∈ r.fields, f.key = key ∧ f.judge table value = .ok none := by
  have hdistinct := h.distinct
  rw [keys_eq_map_fields h] at hdistinct
  have hspec : ∃ m, Specified table r.fields (.judge key value) m (.judged (r.judge key value)) :=
    ⟨_, judge_specified h key value⟩
  obtain ⟨m, hspec⟩ := hspec
  generalize r.judge key value = outcome at hspec
  cases hspec with
  | unknown hnot =>
    constructor
    · intro hnone
      cases hnone
    · rintro ⟨f, hf, rfl, -⟩
      exact absurd (List.mem_map_of_mem hf) hnot
  | @judged f _ hf =>
    constructor
    · intro hnone
      exact ⟨f, hf, rfl, hnone⟩
    · rintro ⟨g, hg, hkey, hnone⟩
      -- no other field has the key
      obtain rfl := List.inj_on_of_nodup_map hdistinct hg hf hkey
      exact hnone

theorem allCompiled_iff : Console.allCompiled r = true ↔ r.recorded = [] := by
  unfold Console.allCompiled recorded
  simp

end Registry

namespace Console

open Registry

variable {table : TypeTable} {d : Directory} {settings : Settings} {r : Registry}
  {ws : List Word} {g g' : Gathered} {file : Option String}
  {pairs : List (Option (String × String))}

/-! ## Pairs -/

/-- The text is `key`, an equals sign and `value`, and the sign is the first one.  The key is not
    empty. -/
structure SplitsAtSign (text key value : String) : Prop where
  text_eq : text.toList = key.toList ++ '=' :: value.toList
  first : '=' ∉ key.toList
  key_ne : key ≠ ""

theorem readPair_eq_ok_iff {text key value : String} :
    readPair text = .ok (key, value) ↔ SplitsAtSign text key value := by
  unfold readPair
  rcases hcut : cut '=' text.toList with ⟨before, _ | behind⟩
  · -- without the sign there is no pair
    obtain ⟨-, hnone⟩ := cut_eq_none_iff.1 hcut
    refine iff_of_false (by simp) ?_
    rintro ⟨htext, -, -⟩
    exact hnone (by simp [htext])
  · by_cases hempty : before.isEmpty = true
    · refine iff_of_false (by simp [hempty]) ?_
      rintro ⟨htext, hfirst, hne⟩
      obtain ⟨rfl, -⟩ := Prod.mk.inj (hcut.symm.trans (cut_eq_some_iff.2 ⟨htext, hfirst⟩))
      exact hne (String.toList_eq_nil_iff.1 (List.isEmpty_iff.1 hempty))
    · simp only [hempty, Bool.false_eq_true, if_false, Except.ok.injEq, Prod.mk.injEq]
      constructor
      · rintro ⟨rfl, rfl⟩
        obtain ⟨htext, hfirst⟩ := cut_eq_some_iff.1 hcut
        refine ⟨by simpa only [String.toList_ofList] using htext,
          by simpa only [String.toList_ofList] using hfirst, ?_⟩
        rw [Ne, String.ofList_eq_empty_iff, ← List.isEmpty_iff]
        exact hempty
      · rintro ⟨htext, hfirst, -⟩
        obtain ⟨rfl, hbehind⟩ := Prod.mk.inj (hcut.symm.trans (cut_eq_some_iff.2 ⟨htext, hfirst⟩))
        obtain rfl := Option.some.inj hbehind
        exact ⟨String.ofList_toList, String.ofList_toList⟩

/-- The pair that an argument `SplitsAtSign` into, if it is one. -/
def pairOf? (argument : Option String) : Option (String × String) :=
  argument.bind fun text => (readPair text).toOption

theorem pairOf?_eq_some_iff {argument : Option String} {key value : String} :
    pairOf? argument = some (key, value) ↔
      ∃ text, argument = some text ∧ SplitsAtSign text key value := by
  unfold pairOf?
  rw [Option.bind_eq_some_iff]
  refine exists_congr fun text => and_congr_right fun _ => ?_
  rw [← readPair_eq_ok_iff]
  cases readPair text <;> simp [Except.toOption]

/-- The arguments of the values on a command line, in order.  The separator behind an equals sign
    is none. -/
def valueArguments : List Word → List (Option String)
  | [] => []
  | .option .value _ (some argument) :: rest =>
    (if argument = "--" then none else some argument) :: valueArguments rest
  | .option .value _ none :: .plain text :: rest => some text :: valueArguments rest
  | _ :: rest => valueArguments rest

theorem pairs_of_addPair {text : String} {explicit : Bool}
    (h : g.addPair text explicit = .ok g') :
    g'.pairs = g.pairs ++ [pairOf? (if explicit && text = "--" then none else some text)] := by
  unfold Gathered.addPair at h
  split at h
  · rename_i hseparator
    rw [if_pos hseparator]
    cases h
    rfl
  · rename_i hargument
    rw [if_neg hargument]
    split at h
    · rename_i pair hread
      cases h
      simp [pairOf?, hread, Except.toOption]
    · cases h

/-- **No pair gets lost**, and none is added: what `gather` adds to `g.pairs` are the pairs of the
    `valueArguments`. -/
theorem pairs_of_gather (h : gather g ws = .ok (.check file pairs)) :
    pairs = g.pairs ++ (valueArguments ws).map pairOf? := by
  fun_induction gather g ws
  case case1 =>
    cases h
    exact (List.append_nil _).symm
  case case14 hadd ih =>
    -- the argument stands behind an equals sign
    rw [ih h, pairs_of_addPair hadd, List.append_assoc]
    simp [valueArguments]
  case case16 hadd ih =>
    -- the argument is the next word
    rw [ih h, pairs_of_addPair hadd, List.append_assoc]
    rfl
  case case3 ih | case4 ih | case5 ih | case6 ih | case7 ih | case8 ih | case9 ih => exact ih h
  all_goals cases h

/-! ## The report -/

theorem valueLine_eq_true_iff {key value lines : String} {valid : Bool}
    (h : valueLine r key value = .ok (lines, valid)) :
    valid = true ↔ r.judge key (.text value) = .ok none := by
  unfold valueLine at h
  cases hjudge : r.judge key (.text value) with
  | error e =>
    rw [hjudge] at h
    cases e <;> cases h
    simp
  | ok outcome =>
    rw [hjudge] at h
    cases outcome <;> cases h <;> simp

theorem valueLines_eq_true_iff {lines : String} {valid : Bool}
    (h : valueLines r pairs = .ok (lines, valid)) :
    valid = true ↔
      ∀ pair ∈ pairs, ∃ key value, pair = some (key, value) ∧
        r.judge key (.text value) = .ok none := by
  induction pairs generalizing lines valid with
  | nil =>
    cases h
    simp
  | cons pair rest ih =>
    cases pair with
    | none => cases h
    | some pair =>
      obtain ⟨key, value⟩ := pair
      rw [valueLines] at h
      split at h
      · rename_i line ok more allOk hline hrest
        cases h
        rw [Bool.and_eq_true, valueLine_eq_true_iff hline, ih hrest, List.forall_mem_cons]
        simp
      · cases h
      · cases h

/-- **The status of a whole report** by `check`: zero if the load comes through and has `recorded`
    nothing, and every one of `pairs` is valid for what is loaded; one otherwise. -/
theorem check_status {result : Run} (hrun : check table d settings file pairs = .ok result) :
    let r := ofSettings settings file (some false)
    (result.status = 0 ↔
      ∃ ks, (r.load table d).2 = .ok ks ∧ (r.load table d).1.recorded = [] ∧
        ∀ pair ∈ pairs, ∃ key value, pair = some (key, value) ∧
          (r.load table d).1.judge key (.text value) = .ok none) ∧
      (result.status ≠ 0 → result.status = 1) := by
  intro r
  unfold check at hrun
  generalize hload : r.load table d = loaded
  rw [show ofSettings settings file (some false) = r from rfl, hload] at hrun
  obtain ⟨l, _ | ks⟩ := loaded
  · -- a load that is refused makes a report of its own
    rename_i e
    dsimp only at hrun
    split at hrun
    · cases hrun
      simp
    · cases hrun
    · rename_i hok
      cases hok
  · dsimp only at hrun ⊢
    split at hrun
    · rename_i fields values valid _ hvalues
      cases hrun
      have hstatus : (allCompiled l && valid) = true ↔ l.recorded = [] ∧
          ∀ pair ∈ pairs, ∃ key value, pair = some (key, value) ∧
            l.judge key (.text value) = .ok none := by
        rw [Bool.and_eq_true, allCompiled_iff, valueLines_eq_true_iff hvalues]
      rw [← hstatus]
      by_cases hgood : (allCompiled l && valid) = true
      · simp [hgood]
      · simp [hgood]
    · cases hrun
    · cases hrun

/-! ## The checker -/

/-- **The exit status is exact.** Whenever the checker neither stops at its command line (`hparse`)
    nor fails (`hrun`), its status is zero exactly if the file lists `entries` that are
    `Faultless`: they describe fields `fs`, with no key twice and with rules that make validators;
    and each of the `valueArguments` is a pair whose key is that of one of `fs` and whose value is
    valid for it.  Otherwise its status is one. -/
theorem exit_status_exact {program : String} {words : List String} {result : Run}
    (hparse : Request.parse words = .ok (.check file pairs))
    (hrun : run program table d settings words = .ok result) :
    ∃ ws, classifyAll words = .ok ws ∧
      (result.status = 0 ↔
        ∃ entries fs, listedIn d (Path.normal (file.getD settings.fieldsFile)) = .ok entries ∧
          Faultless table entries fs ∧
          ∀ argument ∈ valueArguments ws, ∃ text key value, argument = some text ∧
            SplitsAtSign text key value ∧
            ∃ f ∈ fs, f.key = key ∧ f.judge table (.text value) = .ok none) ∧
      (result.status ≠ 0 → result.status = 1) := by
  have hclassified : ∃ ws, classifyAll words = .ok ws ∧
      gather ⟨false, none, [], []⟩ ws = .ok (.check file pairs) := by
    unfold Request.parse at hparse
    split at hparse
    · exact ⟨_, ‹_›, hparse⟩
    · cases hparse
  obtain ⟨ws, hws, hgather⟩ := hclassified
  have hpairs : pairs = (valueArguments ws).map pairOf? := pairs_of_gather hgather
  have hcheck : check table d settings file pairs = .ok result := by
    simp only [run, hparse] at hrun
    exact hrun
  obtain ⟨hzero, hone⟩ := check_status hcheck
  refine ⟨ws, hws, hzero.trans ?_, hone⟩
  have hlenient : (ofSettings settings file (some false)).strict = false := rfl
  have hfile : (ofSettings settings file (some false)).file =
      Path.normal (file.getD settings.fieldsFile) := by
    rw [ofSettings, empty]
  have hconsistent := (load_consistent table d (ofSettings settings file (some false))).1
  simp only [hpairs, List.forall_mem_map, pairOf?_eq_some_iff, judge_eq_none_iff hconsistent]
  constructor
  · rintro ⟨ks, hload, hnone, hvalues⟩
    obtain ⟨entries, hlisted, hfaultless⟩ := faultless_of_recorded hlenient hload hnone
    rw [hfile] at hlisted
    refine ⟨entries, _, hlisted, hfaultless, ?_⟩
    intro argument hargument
    obtain ⟨key, value, ⟨text, htext, hsplit⟩, hvalid⟩ := hvalues argument hargument
    exact ⟨text, key, value, htext, hsplit, hvalid⟩
  · rintro ⟨entries, fs, hlisted, hfaultless, hvalues⟩
    rw [← hfile] at hlisted
    obtain ⟨hload, hfields, hnone⟩ := load_of_faultless hlisted hfaultless
    refine ⟨_, hload, hnone, ?_⟩
    intro argument hargument
    obtain ⟨text, key, value, htext, hsplit, hvalid⟩ := hvalues argument hargument
    exact ⟨key, value, ⟨text, htext, hsplit⟩, hfields ▸ hvalid⟩

/-- A file with two fields. -/
def twoFields : Directory :=
  .holding "f.json" ("\x7b\"fields\": [\x7b\"key\": \"a\", \"type\": \"string\"\x7d, "
    ++ "\x7b\"key\": \"b\", \"type\": \"number\", \"validation\": \"max:9\"\x7d]\x7d")

/-- Values for both of `twoFields`, the first with a second equals sign in it. -/
def twoValues : List String := ["--value", "a=x=y", "f.json", "--value=b=5"]

deriving instance DecidableEq for Request

/-- The status is zero, so the list is `Faultless` and the whole of `x=y` is valid for `a`. -/
theorem status_twoFields :
    (run "check" .standard twoFields ⟨"", true, "", false⟩ twoValues).map (·.status) = .ok 0 ∧
      ∃ entries fs, listedIn twoFields "f.json" = .ok entries ∧ Faultless .standard entries fs ∧
        ∃ f ∈ fs, f.key = "a" ∧ f.judge .standard (.text "x=y") = .ok none := by
  have hparse : Request.parse twoValues =
      .ok (.check (some "f.json") [some ("a", "x=y"), some ("b", "5")]) := by
    decide +kernel
  have hstatus : (run "check" .standard twoFields ⟨"", true, "", false⟩ twoValues).map (·.status) =
      .ok 0 := by
    decide +kernel
  refine ⟨hstatus, ?_⟩
  cases hrun : run "check" .standard twoFields ⟨"", true, "", false⟩ twoValues with
  | error e =>
    rw [hrun] at hstatus
    cases hstatus
  | ok result =>
    rw [hrun] at hstatus
    obtain ⟨ws, hws, hzero, -⟩ := exit_status_exact hparse hrun
    obtain ⟨entries, fs, hlisted, hfaultless, hvalues⟩ := hzero.1 (Except.ok.inj hstatus)
    have hwords : classifyAll twoValues =
        .ok [.option .value false none, .plain "a=x=y", .plain "f.json",
          .option .value false (some "b=5")] := by
      decide +kernel
    obtain rfl := Except.ok.inj (hws.symm.trans hwords)
    obtain ⟨text, key, value, htext, hsplit, hvalid⟩ :=
      hvalues (some "a=x=y") (List.mem_cons_self ..)
    obtain rfl := Option.some.inj htext
    have hpair : readPair "a=x=y" = .ok ("a", "x=y") := by decide +kernel
    obtain ⟨rfl, rfl⟩ := Prod.mk.inj
      (Except.ok.inj ((readPair_eq_ok_iff.2 hsplit).symm.trans hpair))
    have hpath : Path.normal "f.json" = "f.json" := by decide +kernel
    refine ⟨entries, fs, ?_, hfaultless, hvalid⟩
    rw [← hpath]
    exact hlisted

/-- A value that is not valid is enough for the other status. -/
example : (run "check" .standard twoFields ⟨"", true, "", false⟩ ["f.json", "--value=b=10"]).map
    (·.status) = .ok 1 := by
  decide +kernel

end Console

end Rulebook
