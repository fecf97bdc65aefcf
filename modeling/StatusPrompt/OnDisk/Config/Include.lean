import StatusPrompt.OnDisk.Config.Reader
import StatusPrompt.OnDisk.Vantage
import StatusPrompt.OnDisk.Glob

/-!
The configuration of a repository from all its files. A file may include another one, always or on
a condition on where the metadata directory is or on which branch its head names; the variables of
the included file count as if they stood directly after the one that includes it. A file that is
not there holds nothing. An include from the home directory, where there is none, ends the reading
of its file: an included file then keeps what stands before, and any other file counts for nothing.
-/

namespace StatusPrompt.OnDisk.Config

def target? (home : Option Text) (file path : Text) : Option Text :=
  match path with
  | '~' :: '/' :: rest => home.map (Path.below · rest)
  | _ =>
    some (if Path.isRooted path then path else Path.below (Path.parent file) path)

def below (condition : Text) : Text := if condition.getLast? = some '/' then ['*', '*'] else []

def directoryPattern (home : Option Text) (file condition : Text) : Text :=
  let start := match condition with
    | '.' :: '/' :: rest => Path.below (Path.parent file) rest
    | '~' :: '/' :: rest => (home.map (Path.below · rest)).getD []
    | '/' :: _ => condition
    | _ => Path.below ['*', '*'] condition
  start ++ below condition

def branchOf? (vantage : Vantage) (metadata : Place) : Option Text :=
  let start := "ref: refs/heads/".toList
  (vantage.octets? (metadata ++ ["HEAD".toList])).bind fun head =>
    if start.isPrefixOf head then some (head.drop start.length) else none

def matchesDirectory (fold : Bool) (vantage : Vantage) (metadata : Place)
    (file condition : Text) : Bool :=
  Glob.isMatch fold (directoryPattern vantage.home file condition) metadata.toPath

def matchesBranch (vantage : Vantage) (metadata : Place) (condition : Text) : Bool :=
  (branchOf? vantage metadata).any (Glob.isMatch false (condition ++ below condition))

def between? (first last text : Text) : Option Text :=
  let ends := first.length + last.length
  if first.isPrefixOf text ∧ last.isSuffixOf text ∧ ends ≤ text.length then
    some ((text.drop first.length).take (text.length - ends))
  else none

def holds (vantage : Vantage) (metadata : Place) (file condition : Text) : Bool :=
  match between? "gitdir:".toList [] condition, between? "gitdir/i:".toList [] condition,
      between? "onbranch:".toList [] condition with
  | some place, _, _ => matchesDirectory false vantage metadata file place
  | none, some place, _ => matchesDirectory true vantage metadata file place
  | none, none, some branch => matchesBranch vantage metadata branch
  | none, none, none => false

def includes (vantage : Vantage) (metadata : Option Place) (file name : Text) : Bool :=
  name == "include.path".toList ||
    metadata.any fun metadata =>
      (between? "includeif.".toList ".path".toList name).any (holds vantage metadata file)

def readFile (vantage : Vantage) (metadata : Option Place) : Nat → Text → Option Portion
  | depth, file =>
    match vantage.disk.route vantage.current file with
    | .tooLong => none
    | .missing | .blocked => some {}
    | .to place =>
      match vantage.disk place, depth with
      | some (.file _), 0 => none
      | some (.file content), depth + 1 =>
        read? (fun name value =>
          match value with
          | some path =>
            if includes vantage metadata file name then
              match target? vantage.home file path with
              | some included =>
                (readFile vantage metadata depth included).map fun read =>
                  { read with isCut := false }
              | none => some { isCut := true }
            else some {}
          | none => some {}) (Octets.ofBytes content)
      | _, _ => some {}

def nesting : Nat := 10

def readWhole (vantage : Vantage) (metadata : Option Place) (file : Text) : Option Config :=
  (readFile vantage metadata nesting file).map fun read =>
    if read.isCut then [] else read.assigned

/-- The configuration of a repository: what the metadata directory of the work tree holds, if that
is asked for, then what its common directory holds, and then what it shares with others. -/
def ofRepository? (vantage : Vantage) (metadata common : Place) : Option Config := do
  let read := readWhole vantage (some metadata)
  let shared ← read (Path.join common.toPath "config".toList)
  let separate ← shared.flag? "extensions.worktreeconfig".toList
  let own ← if separate then read (Path.join metadata.toPath "config.worktree".toList)
    else some []
  let further ← vantage.sharedFiles.mapM read
  some (own ++ shared ++ further.reverse.flatten)

end StatusPrompt.OnDisk.Config
