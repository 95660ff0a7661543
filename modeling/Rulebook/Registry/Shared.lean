/-
  The registry that a whole process shares.

  The first request makes it and loads it, and it stays even if that load fails; later requests
  get it as it is.

  1. `Registry.ofSettings`: a registry for a file, or for the one of the settings;
  2. `Shared`: the shared registry, once there is one;
  3. `Shared.request`: a request for it.
-/
import Rulebook.Registry.Load
import Rulebook.Settings

namespace Rulebook

/-- A registry of the `file`, `strict` or not; what is not given is taken from the `settings`. -/
def Registry.ofSettings (settings : Settings) (file : Option String) (strict : Option Bool) :
    Registry :=
  .empty (Path.normal (file.getD settings.fieldsFile)) (strict.getD settings.strict)

/-- The shared registry, if it has been asked for. -/
structure Shared where
  registry : Option Registry
deriving Repr

namespace Shared

/-- The state `Shared` before any request. -/
def unset : Shared := ⟨none⟩

/-- A request: the registry that `s` holds, or a new one of the `file`, which is loaded on the way
    and shared even if that fails. -/
def request (settings : Settings) (table : TypeTable) (d : Directory) (s : Shared)
    (file : Option String) : Shared × Except Fault Registry :=
  match s.registry with
  | some r => (s, .ok r)
  | none =>
    let (r, result) := (Registry.ofSettings settings file none).load table d
    match result with
    | .ok _ => (⟨some r⟩, .ok r)
    | .error e => (⟨some r⟩, .error e)

end Shared

end Rulebook
