/-
  What the requests for the shared registry are answered with.

  The first request of a process makes the registry and loads it; the others take it as they find
  it.  It is kept before its load is known to come through:

      first load comes through      first request: the registry       later ones: the registry
      first load is stopped         first request: the fault          later ones: the registry,
                                                                      loaded as far as it got

  So the only requests that can be answered with a registry whose load was stopped are those
  after a first one that failed, and all of them are.

  1. `Call`, `answers`, `loads`: requests one after the other, their answers and the loads that
     they make, where settings and files may change from one to the next;
  2. `request_first`, `request_later`: one request;
  3. `answers_later`, `loads_later`: any number of requests behind the first;
  4. `complete_answers_iff`: when all answers come from loads that came through.
-/
import Rulebook.Registry.Shared
import Rulebook.Proofs.Loading

namespace Rulebook.Shared

/-! ## Requests one after the other -/

/-- One request, with what it finds: the settings, the types and the files of its time, and the
    file that is asked for, if one is. -/
structure Call where
  settings : Settings
  table : TypeTable
  directory : Directory
  file : Option String

/-- The load that a request makes if it is the first, with the registry as it leaves it. -/
def Call.load (c : Call) : Registry × Except Fault (List String) :=
  (Registry.ofSettings c.settings c.file none).load c.table c.directory

/-- The state behind a request, and its answer. -/
def Call.request (c : Call) (s : Shared) : Shared × Except Fault Registry :=
  s.request c.settings c.table c.directory c.file

/-- The answers to requests one after the other. -/
def answers (s : Shared) : List Call → List (Except Fault Registry)
  | [] => []
  | c :: calls => (c.request s).2 :: answers (c.request s).1 calls

/-- The loads that are made on the way: one for each request that finds no registry. -/
def loads (s : Shared) : List Call → List (Registry × Except Fault (List String))
  | [] => []
  | c :: calls =>
    match s.registry with
    | none => c.load :: loads (c.request s).1 calls
    | some _ => loads (c.request s).1 calls

/-! ## One request -/

/-- A request that finds a registry `r` is answered with it. -/
theorem request_later (c : Call) (r : Registry) : c.request ⟨some r⟩ = (⟨some r⟩, .ok r) := rfl

/-- The first request keeps the registry as `Call.load` leaves it, and is answered with it or with
    the fault that stopped the load. -/
theorem request_first (c : Call) :
    c.request ⟨none⟩ = (⟨some c.load.1⟩, c.load.2.map fun _ => c.load.1) := by
  have hload : (Registry.ofSettings c.settings c.file none).load c.table c.directory = c.load := rfl
  unfold Call.request request
  dsimp only
  rw [hload]
  generalize c.load = l
  obtain ⟨r, result⟩ := l
  cases result <;> rfl

/-! ## Any number of requests -/

/-- Behind the first request all are answered with the registry `r` that it kept. -/
theorem answers_later (r : Registry) (calls : List Call) :
    answers ⟨some r⟩ calls = calls.map fun _ => .ok r := by
  induction calls with
  | nil => rfl
  | cons c calls ih => rw [answers, request_later, ih, List.map_cons]

/-- No more `loads` are made. -/
theorem loads_later (r : Registry) (calls : List Call) : loads ⟨some r⟩ calls = [] := by
  induction calls with
  | nil => rfl
  | cons c calls ih => rw [loads, request_later, ih]

theorem answers_cons (c : Call) (calls : List Call) :
    answers ⟨none⟩ (c :: calls) =
      (c.load.2.map fun _ => c.load.1) :: calls.map fun _ => .ok c.load.1 := by
  rw [answers, request_first, answers_later]

theorem loads_cons (c : Call) (calls : List Call) : loads ⟨none⟩ (c :: calls) = [c.load] := by
  rw [loads, request_first, loads_later]

/-- **When all answers are complete.** In a process the first request `c` alone makes a load, and
    all `later` ones are answered with what it left.  So every registry among the `answers` is one
    whose load, among the `loads`, came through, exactly if `c.load` comes through or nothing is
    asked for after it. -/
theorem complete_answers_iff (calls : List Call) :
    (∀ c later, calls = c :: later →
      loads ⟨none⟩ calls = [c.load] ∧
      answers ⟨none⟩ calls =
        (c.load.2.map fun _ => c.load.1) :: later.map fun _ => .ok c.load.1) ∧
    ((∀ r, .ok r ∈ answers ⟨none⟩ calls → ∃ ks, (r, .ok ks) ∈ loads ⟨none⟩ calls) ↔
      calls.length ≤ 1 ∨ ∃ c ks, calls.head? = some c ∧ c.load.2 = .ok ks) := by
  constructor
  · rintro c later rfl
    exact ⟨loads_cons c later, answers_cons c later⟩
  cases calls with
  | nil => simp [answers]
  | cons c later =>
    have hfirst : (∃ c' ks, (c :: later).head? = some c' ∧ c'.load.2 = .ok ks) ↔
        ∃ ks, c.load.2 = .ok ks := by simp
    rw [answers_cons, loads_cons, hfirst]
    generalize c.load = l
    obtain ⟨r, result⟩ := l
    cases result with
    | ok ks =>
      -- the registry that is given out each time is the one of this load
      constructor
      · intro _
        exact .inr ⟨ks, rfl⟩
      · intro _ r' hr
        have hsame : r' = r := by
          rcases List.mem_cons.1 hr with hr | hr
          · exact Except.ok.inj hr
          · obtain ⟨_, _, hr⟩ := List.mem_map.1 hr
            exact (Except.ok.inj hr).symm
        exact ⟨ks, List.mem_singleton.2 (by rw [hsame])⟩
    | error e =>
      constructor
      · intro hcomplete
        cases later with
        | nil => exact .inl (Nat.le_refl 1)
        | cons c' later =>
          -- the second request is given the registry of a load that was stopped
          obtain ⟨ks, hks⟩ := hcomplete r (List.mem_cons_of_mem _ (List.mem_cons_self ..))
          cases congrArg Prod.snd (List.mem_singleton.1 hks)
      · rintro (hone | ⟨ks, hks⟩)
        · obtain rfl : later = [] := List.length_eq_zero_iff.1 (by simpa using hone)
          intro r' hr
          cases List.mem_singleton.1 hr
        · cases hks

/-- A request for a file that breaks off after its first brace. -/
def brokenOff : Call where
  settings := ⟨"fields.json", true, "INFO", false⟩
  table := .standard
  directory := .holding "f.json" "\x7b"
  file := some "f.json"

/-- Asked for twice, `brokenOff` is refused once; then the empty registry is given out. -/
theorem answers_brokenOff :
    ((answers ⟨none⟩ [brokenOff, brokenOff]).map fun answer => answer.map Registry.keys) =
        [.error (.refuse none (.badFile "f.json" ⟨.nameExpected, 1, 1, 2⟩)), .ok []] ∧
      (loads ⟨none⟩ [brokenOff, brokenOff]).map (·.2) =
        [.error (.refuse none (.badFile "f.json" ⟨.nameExpected, 1, 1, 2⟩))] := by
  decide +kernel

end Rulebook.Shared
