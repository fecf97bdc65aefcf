import Mathlib.Data.List.Basic
import StatusPrompt.Program

/-!
Where the settings come from. With an absolute home directory the settings file has an absolute path
exactly when the configuration home is absolute too, or not named at all. Such a file is the same
one from every directory. A configuration home that is named but empty, or relative, is taken as it
is, and the file then stands below whatever directory a run is started in.
-/

namespace StatusPrompt

@[simp] theorem Path.isAbsolute_cons (c : Char) (rest : Text) :
    isAbsolute (c :: rest) = decide (c = '/') := by
  unfold isAbsolute
  split
  next tail same => exact (decide_eq_true (List.cons.inj same).1).symm
  next other => exact (decide_eq_false fun slash => other rest (by rw [slash])).symm

theorem Path.isAbsolute_join (base path : Text) (relative : isAbsolute path = false) :
    isAbsolute (join base path) = isAbsolute base := by
  rw [join, if_neg (by rw [relative]; decide)]
  cases base with
  | nil => exact relative
  | cons c rest =>
    split <;> simp only [List.cons_append, isAbsolute_cons]

theorem Octets.isAbsolute_ofText (path : Text) (rooted : Path.isAbsolute path = true) :
    Path.isAbsolute (ofText path) = true := by
  cases path with
  | nil => cases rooted
  | cons c rest =>
    rw [Path.isAbsolute_cons, decide_eq_true_eq] at rooted
    rw [rooted]
    rfl

theorem Disk.entryAt_of_isAbsolute (disk : Disk) (first second : Place) (path : Text)
    (rooted : Path.isAbsolute path = true) :
    disk.entryAt first path = disk.entryAt second path := by
  unfold entryAt locate route
  rw [if_pos rooted, if_pos rooted]

theorem Machine.settings_of_isAbsolute (machine : Machine) (path : Text)
    (placed : machine.environment.settingsFile = .ok path)
    (rooted : Path.isAbsolute path = true) :
    machine.settings = Settings.load path (machine.disk.entryAt [] (Octets.ofText path)) := by
  unfold settings
  rw [placed]
  exact congrArg (Settings.load path)
    (machine.disk.entryAt_of_isAbsolute _ [] _ (Octets.isAbsolute_ofText path rooted))

namespace Environment

def IsAnchored (environment : Environment) : Prop :=
  ∀ base, environment.configHome = some base → Path.isAbsolute base = true

variable (environment : Environment)

theorem homeDirectory?_of_absolute (home : Text) (named : environment.home = some home)
    (rooted : Path.isAbsolute home = true) : environment.homeDirectory? = some home := by
  have filled : home ≠ [] := by
    rintro rfl
    cases rooted
  simp only [homeDirectory?, named, Option.filter, filled, ne_eq, not_false_eq_true, decide_true,
    ↓reduceIte, Option.some_or]

theorem exists_settingsDirectory (home : Text) (named : environment.home = some home)
    (rooted : Path.isAbsolute home = true) :
    ∃ directory, environment.settingsDirectory = .ok directory ∧
      (Path.isAbsolute directory = true ↔ environment.IsAnchored) := by
  unfold settingsDirectory IsAnchored
  cases environment.configHome with
  | some base =>
    refine ⟨_, rfl, ?_⟩
    rw [Path.isAbsolute_join base _ (by decide)]
    simp
  | none =>
    rw [environment.homeDirectory?_of_absolute home named rooted]
    refine ⟨_, rfl, ?_⟩
    rw [Path.isAbsolute_join _ _ (by decide), Path.isAbsolute_join home _ (by decide), rooted]
    simp

/-- What a directory and a file are to an environment whose settings belong there. -/
structure Places (directory file : Text) : Prop where
  directory_eq : environment.settingsDirectory = .ok directory
  file_eq : environment.settingsFile = .ok file
  directory_absolute : Path.isAbsolute directory = true ↔ environment.IsAnchored
  file_absolute : Path.isAbsolute file = true ↔ environment.IsAnchored
  fromRoot : environment.IsAnchored → ∀ machine : Machine, machine.environment = environment →
    machine.settings = Settings.load file (machine.disk.entryAt [] (Octets.ofText file))
  /-- Two directories may differ in any file below them. -/
  everywhere : environment.IsAnchored → ∀ machine : Machine, machine.environment = environment →
    ∀ elsewhere, { machine with current := elsewhere }.settings = machine.settings

/-- The paths of the settings are absolute exactly where the configuration home leaves them so, and
then a run loads the same settings in every directory. -/
theorem settings_anchored (home : Text) (named : environment.home = some home)
    (rooted : Path.isAbsolute home = true) :
    ∃ directory file, environment.Places directory file := by
  obtain ⟨directory, placed, anchored⟩ := environment.exists_settingsDirectory home named rooted
  obtain ⟨file, stands, absolute⟩ : ∃ file, environment.settingsFile = .ok file ∧
      (Path.isAbsolute file = true ↔ environment.IsAnchored) := by
    refine ⟨Path.join directory "config.json".toList, ?_, ?_⟩
    · rw [settingsFile, placed]
      rfl
    · rw [Path.isAbsolute_join directory _ (by decide), anchored]
  have fromRoot : environment.IsAnchored → ∀ machine : Machine,
      machine.environment = environment →
        machine.settings = Settings.load file (machine.disk.entryAt [] (Octets.ofText file)) := by
    intro fixed machine same
    rw [← same] at stands
    exact machine.settings_of_isAbsolute file stands (absolute.mpr fixed)
  refine ⟨directory, file, placed, stands, anchored, absolute, fromRoot, ?_⟩
  intro fixed machine same elsewhere
  rw [fromRoot fixed machine same]
  exact fromRoot fixed { machine with current := elsewhere } same

def namedEnvironment : Environment where
  configHome := some "/home/u/conf".toList
  home := some "/home/u".toList

theorem settings_anchored_named :
    Path.isAbsolute "/home/u".toList = true ∧ namedEnvironment.IsAnchored ∧
      ∃ directory file, namedEnvironment.Places directory file := by
  refine ⟨by decide, ?_, settings_anchored namedEnvironment "/home/u".toList rfl (by decide)⟩
  intro base named
  cases named
  decide

/-- Two directories that are alike but for a settings file below one of them. -/
def twinDisk : Disk :=
  (Disk.empty.put ["a".toList, "gitprompt".toList] .directory).put
    ["b".toList, "gitprompt".toList, "config.json".toList]
    (.file "\x7b\"stash\":true\x7d".toUTF8.toList)

def emptyEnvironment : Environment := { configHome := some [], home := some "/home/u".toList }

def driftingMachine (current : Place) : Machine where
  disk := twinDisk
  current := current
  environment := emptyEnvironment
  library := .blank
  answers := ⟨Machine.missing, Machine.missing⟩

/-- An empty configuration home is no place of its own, so the settings are those of the directory
that a run is started in. -/
theorem settings_drift :
    emptyEnvironment.home = some "/home/u".toList ∧ Path.isAbsolute "/home/u".toList = true ∧
      emptyEnvironment.settingsDirectory = .ok "gitprompt".toList ∧
      Path.isAbsolute "gitprompt".toList = false ∧
      emptyEnvironment.settingsFile = .ok "gitprompt/config.json".toList ∧
      Path.isAbsolute "gitprompt/config.json".toList = false ∧
      (driftingMachine ["a".toList]).settings = .ok {} ∧
      (driftingMachine ["b".toList]).settings = .ok { stash := true } := by
  refine ⟨rfl, by decide, by decide, by decide, by decide, by decide, ?_, ?_⟩
  · decide +kernel
  · decide +kernel

end Environment

end StatusPrompt
