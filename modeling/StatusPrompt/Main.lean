import StatusPrompt.OnDisk.Library

/-!
The command. It looks at the few places on disk that a run can ask about, and takes from standard
input what git says, in three parts that a zero byte separates: the status report, the diff
summary, and the tag that names the head, if one does.
-/

namespace StatusPrompt.Main

open OnDisk OnDisk.Discovery

def observe (disk : Disk) (place : Place) : IO Disk := do
  let path := (← IO.currentDir) / String.ofList (Octets.toText place.toPath)
  if ← path.isDir then return disk.put place .directory
  match ← (IO.FS.readBinFile path).toBaseIO with
  | .ok content => return disk.put place (.file content.toList)
  | .error _ => return disk

/-- What a metadata directory may hold that a run asks about. The index is left to git, and so are
the tags. -/
def parts : List Place :=
  [[], [headName], ["config".toList], ["config.worktree".toList], ["commondir".toList],
    ["gitdir".toList], ["shallow".toList], ["info".toList, "grafts".toList],
    ["MERGE_HEAD".toList], ["objects".toList], ["refs".toList],
    ["refs".toList, "stash".toList], ["logs".toList, "refs".toList, "stash".toList]]

def observeMetadata (disk : Disk) (places : List Place) : IO Disk :=
  (places.flatMap fun place => parts.map (place ++ ·)).foldlM observe disk

def links (vantage : Vantage) (place : Place) : List Place :=
  (linkPath? vantage place).toList.map (Path.toPlace place.dropLast) ++
    (commonPath? vantage place).toList.map (Path.toPlace place)

def included (vantage : Vantage) (file : Place) : List Place :=
  match vantage.disk file with
  | some (.file content) =>
    let read := (Config.read? (fun _ _ => some {}) (Octets.ofBytes content)).getD {}
    read.assigned.filterMap fun (name, value) =>
      if "include".toList.isPrefixOf name then
        (value.bind (Config.target? vantage.home file.toPath)).map (Path.toPlace vantage.current)
      else none
  | _ => []

def observeIncluded (vantage : Vantage) : Nat → List Place → IO Disk
  | 0, _ => return vantage.disk
  | depth + 1, files => do
    let more := files.flatMap (included vantage)
    observeIncluded { vantage with disk := ← more.foldlM observe vantage.disk } depth more

def survey (vantage : Vantage) (directory : Text) : IO Disk := do
  let near := (candidates (Path.toPlace vantage.current directory)).flatMap nearest
  let disk ← observeMetadata vantage.disk near
  let linked := (near.flatMap (links { vantage with disk })).flatMap nearest
  let disk ← observeMetadata disk linked
  let further := (linked.flatMap (links { vantage with disk })).flatMap nearest
  let disk ← observeMetadata disk further
  let user := vantage.sharedFiles.map (Path.toPlace vantage.current)
  let own := (near ++ linked ++ further).flatMap fun place =>
    [place ++ ["config".toList], place ++ ["config.worktree".toList]]
  let disk ← observeIncluded { vantage with disk } Config.nesting (user ++ own)
  match (Opened.discover? { vantage with disk } directory).bind Opened.workDir with
  | some path => observe disk (Path.toPlace vantage.current path)
  | none => return disk

/-- The disk as far as it belongs to the system or the user: home directories, and the files of git
there. -/
def surveyUser (current : Place) (environment : Environment) : IO Disk :=
  let homes := Vantage.homes environment
  let paths := Vantage.systemFile :: homes ++ homes.map (Path.below · ".gitconfig".toList) ++
    (Vantage.directories environment).map (Path.below · "config".toList)
  ((paths.filter (· ≠ [])).map (Path.toPlace current)).foldlM observe Disk.empty

def split : List UInt8 → List (List UInt8)
  | [] => [[]]
  | byte :: rest =>
    match split rest with
    | [] => [[byte]]
    | part :: more => if byte = 0 then [] :: part :: more else (byte :: part) :: more

def answer (part : Option (List UInt8)) : Answer := .finished 0 (part.getD []) []

def idle : Machine where
  disk := Disk.empty
  current := []
  library := .blank
  answers := ⟨Machine.missing, Machine.missing⟩

def environment : IO Environment := do
  return {
    configHome := (← IO.getEnv "XDG_CONFIG_HOME").map String.toList
    home := (← IO.getEnv "HOME").map String.toList
    forceColor := (← IO.getEnv "CLICOLOR_FORCE").map String.toList }

def tagged (tag : Option Text) : Library where
  discover disk current environment path :=
    (library.discover disk current environment path).map fun handle =>
      { handle with exactTag := tag }

def machine (flags : CommandLine.Flags) : IO Machine := do
  let current := Path.toPlace [] (Octets.ofText (← IO.currentDir).toString.toList)
  let directory := Octets.ofText (flags.directory.getD ['.'])
  let environment ← environment
  let disk ← survey (.within (← surveyUser current environment) current environment) directory
  let disk ← match environment.settingsFile with
    | .ok path => observe disk (Path.toPlace current (Octets.ofText path))
    | .error _ => pure disk
  let input ← (← IO.getStdin).readBinToEnd
  let reports := split input.toList
  let tag := (Utf8.decodeLenient (reports[2]?.getD [])).trim
  return {
    disk, current, environment
    library := tagged (if tag = [] then none else some tag)
    answers := ⟨answer reports[0]?, answer reports[1]?⟩ }

end StatusPrompt.Main

open StatusPrompt in
def main (arguments : List String) : IO UInt32 := do
  let arguments := arguments.map String.toList
  let machine ← match CommandLine.parse arguments with
    | .prompt flags => Main.machine flags
    | _ => pure Main.idle
  let exit := Program.run machine arguments
  exit.log.forM fun notice => IO.eprintln (reprStr notice)
  IO.print (String.ofList exit.output)
  IO.eprint (String.ofList exit.complaint)
  return exit.code.toUInt32
