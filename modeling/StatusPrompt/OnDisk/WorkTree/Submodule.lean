import StatusPrompt.OnDisk.Config.Include
import StatusPrompt.OnDisk.WorkTree

/-!
Submodules: the work trees of other repositories inside a work tree. A file in the outer one says
how each of them is to be treated. A submodule that is there must have settings that can be read,
unless changes in submodules do not count anyway.
-/

namespace StatusPrompt.OnDisk.WorkTree

def settings : List (Text × List Text) :=
  [("update".toList,
      ["checkout".toList, "rebase".toList, "merge".toList, "none".toList]),
    ("fetchrecursesubmodules".toList, ["on-demand".toList]),
    ("ignore".toList, ["none".toList, "untracked".toList, "dirty".toList, "all".toList])]

def moduleFile? (vantage : Vantage) (tree : WorkTree) : Option (Option Config) :=
  let file := (tree.directory ++ [".gitmodules".toList]).toPath
  (Config.readFile vantage none Config.nesting file).map fun read =>
    if read.isCut then none else some read.assigned

def settingName (name setting : Text) : Text :=
  "submodule.".toList ++ name ++ ['.'] ++ setting

def hasSettings (config : Config) (name : Text) : Bool :=
  '\n' ∉ name && settings.all fun (setting, words) =>
    (config.lookup (settingName name setting)).all fun value =>
      Config.isOneOf words [true, false] (some (value.getD []))

def isModuleName (name : Text) : Bool :=
  (Path.components (name.map fun c => if c = '\\' then '/' else c)).all fun component =>
    component ≠ [] ∧ component ≠ ['.'] ∧ component ≠ ['.', '.']

def nameFor? (config : Config) (path : Text) : Option Text :=
  (config.filter fun (_, value) => value = some path).findSome? fun (name, _) =>
    Config.between? "submodule.".toList ".path".toList name

/-- Whether the submodule at a path can be looked up. It is called by its path if that may be a
name, and else by the name that the settings give to it; without any it still has to be a
repository. -/
def isKnown (tree : WorkTree) (config : Option Config) (path : Text) (place : Place) : Bool :=
  if isModuleName path then config.all fun config => hasSettings config path
  else match (config.bind fun config => nameFor? config path).filter isModuleName with
    | some name => config.all fun config => hasSettings config name
    | none => (tree.disk (place ++ [".git".toList])).isSome

def ignoresSubmodules (config : Config) : Bool :=
  (config.lookup "diff.ignoresubmodules".toList).any
    (Config.isOneOf ["all".toList] [true])

def hasKnownSubmodules (tree : WorkTree) (vantage : Vantage) (config : Config) : Bool :=
  let present := tree.compared.filter fun (entry, place) =>
    entry.isLink && tree.disk.hasDirectory place
  ignoresSubmodules config || present.isEmpty ||
    (moduleFile? vantage tree).any fun modules =>
      present.all fun (_, place) =>
        isKnown tree modules (Text.joined ['/'] (place.drop tree.directory.length)) place

end StatusPrompt.OnDisk.WorkTree
