import StatusPrompt.OnDisk.Places
import StatusPrompt.OnDisk.Object.Pack
import StatusPrompt.OnDisk.Object.Pack.Catalogue

/-!
The packs of one directory of objects. A catalogue may say for some of them which objects they have;
it then takes the place of their tables of contents. An object that is not in the catalogue is
looked for in the other packs, one after the other.
-/

namespace StatusPrompt.OnDisk.Object

structure Shelf where
  /-- The catalogue, with the packs that it is for in its order. -/
  catalogued : Option (Pack.Catalogue × List (Search Pack)) := none
  /-- The packs that can be read of those that are in no catalogue. -/
  others : List Pack := []

namespace Shelf

def catalogueName : Text := "multi-pack-index".toList

def packEnd : Text := ".pack".toList

def stem (name : Text) : Text := name.take (name.length - Pack.fileEnd.length)

/-- The pack with a table of contents of some name. The pack has to be a file; its table of contents
may be missing, or unreadable, or not belong to it. -/
def pack? (disk : Disk) (above : Place) (name : Text) : Option (Search Pack) :=
  match disk (above ++ [stem name ++ packEnd]), disk (above ++ [name]) with
  | some (.file bytes), some (.file contents) =>
    some (.ofRead (Pack.ofBytes? contents bytes))
  | some (.file _), some .directory => some .failed
  | some (.file _), none => some .missing
  | _, _ => none

def catalogued? (disk : Disk) (above : Place) : Option (Pack.Catalogue × List (Search Pack)) :=
  match disk (above ++ [catalogueName]) with
  | some (.file bytes) => do
    let catalogue ← Pack.Catalogue.ofBytes? bytes.toArray
    let packs ← catalogue.files.mapM (pack? disk above)
    some (catalogue, packs)
  | _ => none

def isCatalogued (files : List Text) (name : Text) : Bool :=
  files.any fun other => (stem name).isPrefixOf (stem other ++ packEnd)

def ofDirectory (disk : Disk) (directory : Place) : Shelf :=
  let above := directory ++ ["pack".toList]
  let catalogued := catalogued? disk above
  let files := (catalogued.map fun (catalogue, _) => catalogue.files).getD []
  { catalogued
    others := (disk.placesBelow above).filterMap fun place =>
      match place.drop above.length with
      | [name] =>
        if Pack.fileEnd.isSuffixOf name ∧ !isCatalogued files name then
          match pack? disk above name with
          | some (.found pack) => some pack
          | _ => none
        else none
      | _ => none }

def count (shelf : Shelf) : Nat :=
  shelf.others.foldl (fun count pack => count + pack.contents.names.count)
    ((shelf.catalogued.map fun (catalogue, _) => catalogue.names.count).getD 0)

def findBeside (shelf : Shelf) (name : ObjectName) : Search Raw :=
  match shelf.others.findSome? fun pack => (pack.position? name).map (pack, ·) with
  | some (pack, position) => pack.findAt position
  | none => .missing

def find (shelf : Shelf) (name : ObjectName) : Search Raw :=
  match shelf.catalogued.bind fun (catalogue, packs) =>
      (catalogue.find? name).bind fun (file, position) => packs[file]?.map (·, position) with
  | some (.found pack, position) => pack.findAt position
  | some (.missing, _) => .missing
  | some (.failed, _) => .failed
  | none => shelf.findBeside name

end Shelf

end StatusPrompt.OnDisk.Object
