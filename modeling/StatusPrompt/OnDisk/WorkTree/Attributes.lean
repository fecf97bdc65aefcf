import StatusPrompt.OnDisk.Object.Store
import StatusPrompt.OnDisk.WorkTree

/-!
Attributes: files of a certain name say how the files of their directory, and of those below it, are
to be treated. What they say plays no part here, but those that the index has must not be damaged
where they matter for a file whose content is looked at.
-/

namespace StatusPrompt.OnDisk.WorkTree

def attributesName : Text := ".gitattributes".toList

def attributes (tree : WorkTree) : List Index.Entry :=
  tree.entries.filter fun entry =>
    entry.stage == 0 && (tree.folded (Path.components entry.path)).getLast? == some attributesName

def isFor (tree : WorkTree) (attributes : Index.Entry) (path : Text) : Bool :=
  (tree.folded (Path.components attributes.path)).dropLast.isPrefixOf
    (tree.folded (Path.components path)).dropLast

def hasAttributes (tree : WorkTree) (objects : Objects) (paths : List Text) : Bool :=
  tree.attributes.all fun entry =>
    !paths.any (tree.isFor entry) || objects.find entry.object ≠ .failed

end StatusPrompt.OnDisk.WorkTree
