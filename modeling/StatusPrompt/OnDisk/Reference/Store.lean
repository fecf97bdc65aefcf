import StatusPrompt.OnDisk.Opened
import StatusPrompt.OnDisk.Reference.Name
import StatusPrompt.OnDisk.Reference.Packed
import StatusPrompt.OnDisk.Reference.Sorted

/-!
The references of an opened repository. One of them is kept in a file of its own, below the common
directory unless it belongs to one work tree, or else in the packed file. The names of all tags are
listed in the order in which the directories are gone through.
-/

namespace StatusPrompt.OnDisk

structure References where
  disk : Disk
  metadata : Place
  common : Place
  /-- The references of the packed file, unless it cannot be read. -/
  packed : Option Reference.Packed.Entries
  /-- The bytes of the packed file, if it says that it is sorted. -/
  sorted : Option (Array Char)
  /-- Whether the case of letters counts in the order of names. -/
  folds : Bool

namespace References

open Reference

def packedPlace (common : Place) : Place := common ++ ["packed-refs".toList]

def packedOf (disk : Disk) (common : Place) : Option Packed.Entries :=
  match disk (packedPlace common) with
  | some (.file content) => Packed.ofOctets? (Octets.ofBytes content)
  | some .directory => none
  | none => some []

def sortedOf (disk : Disk) (common : Place) : Option (Array Char) :=
  match disk (packedPlace common) with
  | some (.file content) =>
    let octets := Octets.ofBytes content
    if Sorted.isPromised octets then some octets.toArray else none
  | _ => none

def ofOpened (disk : Disk) (opened : Opened) : References where
  disk := disk
  metadata := opened.metadata
  common := opened.common
  packed := packedOf disk opened.common
  sorted := sortedOf disk opened.common
  folds := (opened.config.flag? "core.ignorecase".toList).getD false

def findPacked (references : References) (name : Text) : Search Reference :=
  match references.sorted, references.packed with
  | some octets, _ => (Sorted.find octets name).map .direct
  | none, none => .failed
  | none, some entries =>
    match entries.lookup name with
    | some target => .found (.direct target)
    | none => .missing

def ofFile? : Option Entry → Option Reference
  | some (.file content) => ofOctets? (Octets.ofBytes content)
  | _ => none

def find (references : References) (name : Text) : Search Reference :=
  let base := if isShared name then references.common else references.metadata
  match references.disk.route [] (Path.below base.toDirectory name) with
  | .tooLong => .failed
  | .missing | .blocked => references.findPacked name
  | .to place =>
    if references.disk.hasFile place then .ofRead (ofFile? (references.disk place))
    else references.findPacked name

def follow (references : References) : Nat → Text → Search Target
  | links, name =>
    match references.find name, links with
    | .found (.direct target), _ => .found target
    | .found (.symbolic next), links + 1 => references.follow links next
    | .found (.symbolic _), 0 => .failed
    | .missing, _ => .missing
    | .failed, _ => .failed

def resolve (references : References) (name : Text) : Search Target :=
  match Name.normal? name with
  | some normal => references.follow linkLimit normal
  | none => .failed

/-- Something met on the way through the directories: a file, or a directory that lies too deep to
be gone into. -/
structure Stop where
  path : Text
  isFile : Bool
  deriving DecidableEq, Repr

def stop? (path : List Text) (entry : Option Entry) : Option Stop :=
  let directories := if entry = some .directory then path else path.dropLast
  if Disk.nesting < directories.length then
    some ⟨Text.joined ['/'] (directories.take (Disk.nesting + 1)) ++ ['/'], false⟩
  else if entry = some .directory then none
  else some ⟨Text.joined ['/'] path, true⟩

def insert (key : Stop → Text) (stop : Stop) : List Stop → List Stop
  | [] => [stop]
  | other :: rest =>
    if key stop < key other then stop :: other :: rest else other :: insert key stop rest

def stops (references : References) : List Stop :=
  let first := references.common ++ ["refs".toList]
  let found := (references.disk.placesBelow first).filterMap fun place =>
    stop? (place.drop first.length) (references.disk place)
  let key : Stop → Text := fun stop =>
    if references.folds then stop.path.map Ascii.lower else stop.path
  found.foldl (fun sorted stop => insert key stop sorted) []

def ownNames (references : References) : List Text :=
  let paths := (references.stops.takeWhile Stop.isFile).map Stop.path
  (paths.filter fun path =>
    !".lock".toList.isSuffixOf path &&
      (ofFile? (references.disk (references.common ++
        "refs".toList :: Path.components path))).isSome).map (directory ++ ·)

def tagNames? (references : References) : Option (List Text) :=
  references.packed.map fun entries =>
    let own := references.ownNames
    let others := (entries.map Prod.fst).filter fun name => !own.contains name
    (own ++ others).filter fun name => tagDirectory.isPrefixOf name

end References

end StatusPrompt.OnDisk
