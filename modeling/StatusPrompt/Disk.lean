import StatusPrompt.Disk.Listing

/-!
What stands where. A disk says for every place whether there is a directory, a file or nothing;
finding the place that a path names needs a directory at every step, also before `..`. Paths are
given as their bytes, as names on the disk are.
-/

namespace StatusPrompt

structure Disk where
  /-- What is in the root. -/
  root : Listing

namespace Disk

def entry (disk : Disk) : Place → Option Entry
  | [] => some .directory
  | name :: below => disk.root.find? name below

instance : CoeFun Disk fun _ => Place → Option Entry := ⟨entry⟩

def empty : Disk := ⟨.done⟩

def put (disk : Disk) (place : Place) (entry : Entry) : Disk :=
  match place with
  | [] => disk
  | name :: below => ⟨disk.root.put name below entry⟩

/-- Where a path leads: to a place, or on to something that is not there, or through a file, or to
a name that is too long for any disk. -/
inductive Route where
  | to (place : Place)
  | missing
  | blocked
  | tooLong
  deriving DecidableEq, Repr

def nameLimit : Nat := 255

def pathLimit : Nat := 4095

/-- Follows components from a place. An empty component, as at the end of `a/`, still needs a
directory to be there. -/
def follow (disk : Disk) : Place → List Text → Route
  | place, [] => .to place
  | place, component :: rest =>
    match disk place with
    | none => .missing
    | some (.file _) => .blocked
    | some .directory =>
      let next := Path.step place component
      if nameLimit < component.length then .tooLong
      else if (disk next).isSome then follow disk next rest
      else .missing

def route (disk : Disk) (base : Place) (path : Text) : Route :=
  if path = [] then .missing
  else if pathLimit < path.length then .tooLong
  else follow disk (if Path.isAbsolute path then [] else base) (Path.components path)

def locate (disk : Disk) (base : Place) (path : Text) : Option Place :=
  match disk.route base path with
  | .to place => some place
  | _ => none

def entryAt (disk : Disk) (base : Place) (path : Text) : Option Entry :=
  (disk.locate base path).bind disk

def isPresent (disk : Disk) (base : Place) (path : Text) : Bool := (disk.entryAt base path).isSome

end Disk

end StatusPrompt
