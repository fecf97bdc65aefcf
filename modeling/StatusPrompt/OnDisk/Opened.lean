import StatusPrompt.OnDisk.Config.Include
import StatusPrompt.OnDisk.Discovery
import StatusPrompt.OnDisk.Grafts

/-!
Opening the repository that was found: its configuration is read, its format is checked, and the
work directory is settled.
-/

namespace StatusPrompt.OnDisk

structure Opened where
  metadata : Place
  common : Place
  /-- The work directory as a path; a bare repository has none. -/
  workDir : Option Text
  config : Config

namespace Opened

open Discovery

def extensions : List Text :=
  ["noop".toList, "objectformat".toList, "worktreeconfig".toList, "preciousobjects".toList,
    "relativeworktrees".toList]

def knowsExtensions (config : Config) : Bool :=
  let start := "extensions.".toList
  config.all fun assigned =>
    !start.isPrefixOf assigned.1 || extensions.contains (assigned.1.drop start.length)

def hasUsualNames (config : Config) : Bool :=
  match config.lookup "extensions.objectformat".toList with
  | none => true
  | some format => format = some "sha1".toList

def isSupported (config : Config) : Bool :=
  match config.lookup "core.repositoryformatversion".toList with
  | none => true
  | some version =>
    match version.bind Config.shortInteger? with
    | none => false
    | some number =>
      number < 1 || (number == 1 && knowsExtensions config && hasUsualNames config)

def isLinked (vantage : Vantage) (found : Found) : Bool :=
  found.metadata ≠ found.common &&
    (vantage.disk (found.metadata ++ ["gitdir".toList])).isSome

def workDir? (vantage : Vantage) (found : Found) (config : Config) : Option (Option Text) := do
  let bare ← config.flag? "core.bare".toList
  if isLinked vantage found then
    (backLink? vantage found.metadata).map fun link => some (Path.asDirectory (Path.parent link))
  else if bare then some none
  else match config.lookup "core.worktree".toList with
    | some (some path) =>
      if path = [] then none
      else (vantage.resolve? found.metadata path).map fun place => some place.toDirectory
    | _ => some (some found.parent.toDirectory)

/-- Whether the owner of what a path names can be asked for, which is not so where the path leads
through a file or is too long. -/
def isOwned (vantage : Vantage) (path : Option Text) : Bool :=
  path.all fun path =>
    match vantage.disk.route vantage.current path with
    | .to _ | .missing => true
    | .blocked | .tooLong => false

def ofFound? (vantage : Vantage) (found : Found) : Option Opened := do
  let config ← Config.ofRepository? vantage found.metadata found.common
  let workDir ← workDir? vantage found config
  if isSupported config ∧
      Grafts.isReadable vantage (found.common ++ ["info".toList, "grafts".toList]) ∧
      Grafts.isReadable vantage (found.metadata ++ ["shallow".toList]) ∧
      isOwned vantage workDir ∧ isOwned vantage found.backLink then
    some ⟨found.metadata, found.common, workDir, config⟩
  else none

def openAt? (vantage : Vantage) (path : Text) : Option Opened := do
  let start ← vantage.disk.locate vantage.current path
  let found ← findAt? vantage start
  ofFound? vantage found

def discover? (vantage : Vantage) (path : Text) : Option Opened :=
  (find? vantage path).bind (ofFound? vantage)

def remoteOf (opened : Opened) (branch : Text) : Option Text :=
  if '\n' ∈ branch ∨ '\x00' ∈ branch then none
  else match opened.config.lookup
      ("branch.".toList ++ Octets.ofText branch ++ ".remote".toList) with
    | some (some remote) => if remote = [] then none else some remote
    | _ => none

end Opened

end StatusPrompt.OnDisk
