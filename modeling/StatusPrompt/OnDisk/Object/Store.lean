import StatusPrompt.OnDisk.Object.Loose
import StatusPrompt.OnDisk.Object.Reader
import StatusPrompt.OnDisk.Object.Shelf
import StatusPrompt.OnDisk.Vantage

/-!
The objects that are known in a repository: those in its own directory of objects, and those in
the directories that it borrows from, in packs or in files of their own. The empty tree belongs to
every repository, and no object has the name that is all zeros.
-/

namespace StatusPrompt.OnDisk

structure Objects where
  disk : Disk
  /-- The directories to look in, the repository's own last, unless it cannot be told which these
  are. -/
  directories : Option (List Place)
  /-- The packs in each of these directories. -/
  shelves : List Object.Shelf

namespace Objects

def nesting : Nat := 6

def borrowed? (disk : Disk) (directory : Place) : Option (List Text) :=
  match disk (directory ++ ["info".toList, "alternates".toList]) with
  | none => some []
  | some .directory => none
  | some (.file content) =>
    let octets := Octets.untilZero (Octets.ofBytes content)
    let lines := (Text.fields '\n' octets).flatMap (Text.fields '\r')
    some (lines.filter fun line => line ≠ [] ∧ line.head? ≠ some '#')

/-- The place that a path of another directory leads to. One with a dot in front is read from the
directory that has it. -/
def borrowedPlace? (vantage : Vantage) (directory : Place) (path : Text) : Option Place :=
  vantage.disk.locate (if path.head? = some '.' then directory else vantage.current) path

def gather (vantage : Vantage) : Nat → List Place → Place → Option (List Place)
  | bound, known, directory =>
    let all := known ++ [directory]
    if directory ∈ known then some known
    else
      match bound with
      | 0 => some all
      | bound + 1 =>
        (borrowed? vantage.disk directory).bind fun paths =>
          (paths.filterMap (borrowedPlace? vantage directory)).foldlM
            (gather vantage bound) all

def ofCommon (vantage : Vantage) (common : Place) : Objects :=
  let known := gather vantage nesting [] (common ++ ["objects".toList])
  let directories := known.map List.reverse
  { disk := vantage.disk
    directories
    shelves := (directories.getD []).map (Object.Shelf.ofDirectory vantage.disk) }

def findLoose (disk : Disk) (name : ObjectName) (directory : Place) : Search Object.Raw :=
  match disk (Object.Loose.place directory name) with
  | some (.file content) => .ofRead (Object.Loose.ofBytes? content)
  | _ => .missing

def findRaw (objects : Objects) (name : ObjectName) : Search Object.Raw :=
  let packed := objects.shelves.findSome? fun shelf => (shelf.find name).done?
  let loose := (objects.directories.getD []).findSome? fun directory =>
    (findLoose objects.disk name directory).done?
  (packed <|> loose).getD .missing

def checked? (name : ObjectName) (raw : Object.Raw) : Option Object :=
  if raw.name = name then Object.ofRaw? raw else none

def find (objects : Objects) (name : ObjectName) : Search Object :=
  if objects.directories = none then .failed
  else if name.all (· == '0') then .missing
  else if name = ObjectName.ofEmptyTree then .found (.tree [])
  else match objects.findRaw name with
    | .found raw => .ofRead (checked? name raw)
    | .missing => .missing
    | .failed => .failed

def findAs (objects : Objects) (kind : Object.Kind) (name : ObjectName) : Search Object :=
  match objects.find name with
  | .found object => if object.kind = kind then .found object else .missing
  | search => search

def bound (objects : Objects) : Nat :=
  objects.shelves.foldl (fun count shelf => count + shelf.count)
    ((objects.disk.placesBelow []).length + 1)

def peelFrom? (objects : Objects) : Nat → ObjectName → Search Object → Option ObjectName
  | _, name, .found (.commit _) | _, name, .found (.tree _) | _, name, .found .blob => some name
  | bound + 1, _, .found (.tag target kind _ _) =>
    peelFrom? objects bound target (objects.findAs kind target)
  | _, _, _ => none

/-- What the target of a reference is on in the end. The reference may say so itself; a name that
is all zeros says nothing. -/
def start (target : Target) : ObjectName :=
  (target.peeled.filter fun name => name.any (· != '0')).getD target.object

def endOf? (objects : Objects) (target : Target) : Option ObjectName :=
  objects.peelFrom? objects.bound (start target) (objects.find (start target))

def isCommit (objects : Objects) (name : ObjectName) : Bool :=
  match objects.findAs .commit name with
  | .found _ => true
  | _ => false

def isWhole (objects : Objects) : Nat → Object → Bool
  | bound + 1, .tree directories =>
    directories.all fun name =>
      match objects.findAs .tree name with
      | .found tree => isWhole objects bound tree
      | _ => false
  | 0, .tree _ => false
  | _, _ => true

def treeFrom (objects : Objects) : Nat → Search Object → Search Object
  | _, .found (.tree directories) => .found (.tree directories)
  | bound + 1, .found (.commit tree) => treeFrom objects bound (objects.findAs .tree tree)
  | bound + 1, .found (.tag target kind _ _) => treeFrom objects bound (objects.findAs kind target)
  | _, .missing => .missing
  | _, _ => .failed

def treeOf (objects : Objects) (target : Target) : Search Object :=
  objects.treeFrom (objects.bound + 1) (objects.find (start target))

end Objects

end StatusPrompt.OnDisk
