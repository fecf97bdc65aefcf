import StatusPrompt.OnDisk.Places
import StatusPrompt.OnDisk.Index

/-!
A work tree: the directory that the files of a repository are in, and the entries of its index. The
directories in it that have entries are gone through; one with an entry of its own is the work tree
of another repository, and what is below it does not count here.
-/

namespace StatusPrompt.OnDisk

structure WorkTree where
  disk : Disk
  /-- The directory that the files are in. -/
  directory : Place
  entries : List Index.Entry
  /-- Whether names are compared without the case of letters. -/
  folds : Bool
  /-- The directories that have an entry of their own, as they are compared. -/
  links : List (List Text)

namespace WorkTree

def comparable (folds : Bool) (names : List Text) : List Text :=
  if folds then names.map fun name => name.map Ascii.lower else names

def folded (tree : WorkTree) (names : List Text) : List Text := comparable tree.folds names

def ofEntries (disk : Disk) (directory : Place) (entries : List Index.Entry) (folds : Bool) :
    WorkTree where
  disk := disk
  directory := directory
  entries := entries
  folds := folds
  links := (entries.filter fun entry => entry.isLink && entry.stage == 0).map fun entry =>
    comparable folds (Path.components entry.path)

def isBeyond (tree : WorkTree) (names : List Text) : Bool :=
  tree.links.any fun link => link.length < names.length &&
    link.isPrefixOf (tree.folded names)

def place? (tree : WorkTree) (path : Text) : Option Place :=
  let names := Path.components path
  if tree.isBeyond names then none
  else if tree.folds then tree.disk.alike? Ascii.sameLetters tree.directory names
  else
    let place := tree.directory ++ names
    if (tree.disk place).isSome then some place else none

def isTooDeep (tree : WorkTree) : Bool :=
  tree.entries.any fun entry =>
    let names := Path.components entry.path
    let outermost := names.take (Disk.nesting + 1)
    outermost.length < names.length && !tree.isBeyond names &&
      (tree.place? (Text.joined ['/'] outermost)).any tree.disk.hasDirectory

/-- The entries that are compared with what stands in the work tree, each with its place there. -/
def compared (tree : WorkTree) : List (Index.Entry × Place) :=
  tree.entries.filterMap fun entry =>
    if entry.stage = 0 ∧ !entry.isAssumed then (tree.place? entry.path).map (entry, ·) else none

end WorkTree

end StatusPrompt.OnDisk
