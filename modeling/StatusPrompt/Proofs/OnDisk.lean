import StatusPrompt.OnDisk.Library
import StatusPrompt.Proofs.Program.Merging

/-!
The library on the disk. It names directories with a slash at their end, and the environment bears on
what it finds no further than through the files of git that are named there.
-/

namespace StatusPrompt.OnDisk

/-- A path as directories are given. -/
def IsDirectoryPath (path : Text) : Prop := path.getLast? = some '/'

theorem isDirectoryPath_toDirectory (place : Place) : IsDirectoryPath place.toDirectory :=
  List.getLast?_concat

theorem isDirectoryPath_asDirectory (path : Text) (named : path ≠ []) :
    IsDirectoryPath (Path.asDirectory path) := by
  unfold Path.asDirectory
  split
  next whole => exact whole.resolve_left named
  next => exact List.getLast?_concat

theorem parent_ne_nil (path : Text) : Path.parent path ≠ [] := by
  unfold Path.parent
  split
  next => exact List.cons_ne_nil _ _
  next =>
    cases Path.dropSlashes path.reverse with
    | nil => exact List.cons_ne_nil _ _
    | cons c last =>
      dsimp only
      split
      next => exact List.cons_ne_nil _ _
      next =>
        split
        next => exact List.cons_ne_nil _ _
        next filled => exact mt List.reverse_eq_nil_iff.mp filled

namespace Opened

theorem isDirectoryPath_of_workDir? (vantage : Vantage) (found : Discovery.Found)
    (config : Config) (path : Text) (named : workDir? vantage found config = some (some path)) :
    IsDirectoryPath path := by
  unfold workDir? at named
  obtain ⟨bare, -, named⟩ := Option.bind_eq_some_iff.mp named
  split at named
  next =>
    obtain ⟨link, -, rest⟩ := Option.map_eq_some_iff.mp named
    cases rest
    exact isDirectoryPath_asDirectory _ (parent_ne_nil link)
  next =>
    split at named
    next => cases named
    next =>
      split at named
      next set =>
        split at named
        next => cases named
        next =>
          obtain ⟨place, -, rest⟩ := Option.map_eq_some_iff.mp named
          cases rest
          exact isDirectoryPath_toDirectory place
      next =>
        cases named
        exact isDirectoryPath_toDirectory found.parent

theorem isDirectoryPath_workDir (vantage : Vantage) (found : Discovery.Found) (opened : Opened)
    (opens : ofFound? vantage found = some opened) (path : Text)
    (working : opened.workDir = some path) : IsDirectoryPath path := by
  unfold ofFound? at opens
  obtain ⟨config, -, opens⟩ := Option.bind_eq_some_iff.mp opens
  obtain ⟨workDir, named, opens⟩ := Option.bind_eq_some_iff.mp opens
  split at opens
  next =>
    cases opens
    cases working
    exact isDirectoryPath_of_workDir? vantage found config path named
  next => cases opens

end Opened

/-- What the library finds is named by paths of directories. -/
theorem discover_isDirectoryPath (disk : Disk) (current : Place) (environment : Environment)
    (path : Text) (handle : Handle)
    (found : library.discover disk current environment path = some handle) :
    IsDirectoryPath handle.metadataDir ∧ IsDirectoryPath handle.commonDir ∧
      ∀ workDir, handle.workDir = some workDir → IsDirectoryPath workDir := by
  obtain ⟨opened, discovered, rfl⟩ := Option.map_eq_some_iff.mp found
  obtain ⟨candidate, -, opens⟩ := Option.bind_eq_some_iff.mp discovered
  refine ⟨isDirectoryPath_toDirectory _, isDirectoryPath_toDirectory _, ?_⟩
  intro workDir working
  exact Opened.isDirectoryPath_workDir _ candidate opened opens workDir working

/-- Where the settings stand is all the same to it, as long as the home directories and the files of
git there are the same. -/
theorem findsAlike_of_within (machine : Machine) (other : Environment)
    (same : Vantage.within machine.disk machine.current other =
      Vantage.within machine.disk machine.current machine.environment)
    (reads : machine.library = library) (directory : Text) :
    machine.FindsAlike { machine with environment := other } directory where
  handle := by
    unfold Machine.handle?
    rw [reads]
    simp only [library, same]
  probes _ _ _ _ := rfl
  answers _ _ _ _ := rfl
  filter := rfl

end StatusPrompt.OnDisk
