import StatusPrompt.OnDisk.Reference.Store
import StatusPrompt.OnDisk.WorkTree.Attributes
import StatusPrompt.OnDisk.WorkTree.LineEnding
import StatusPrompt.OnDisk.WorkTree.Submodule

/-!
Whether the state of a work tree can be taken. That needs the work directory and an index that can
be read, and a few things besides that play no part in the state itself: a head that names its
branch properly, and a configuration that says in a readable way how names and files are compared.
-/

namespace StatusPrompt.OnDisk.Opened

def entries? (vantage : Vantage) (opened : Opened) : Option (List Index.Entry) :=
  match vantage.disk (opened.metadata ++ ["index".toList]) with
  | none => some []
  | some .directory => none
  | some (.file content) => Index.entries? (Octets.ofBytes content)

def workTree? (vantage : Vantage) (opened : Opened) : Option WorkTree := do
  let path ← opened.workDir
  let directory ← vantage.disk.locate vantage.current path
  let entries ← opened.entries? vantage
  let folds ← opened.config.flag? "core.ignorecase".toList
  if vantage.disk.hasDirectory directory then
    some (WorkTree.ofEntries vantage.disk directory entries folds)
  else none

def headTarget (references : References) : Search Target :=
  match references.find Discovery.headName with
  | .found (.direct target) => .found target
  | .found (.symbolic name) => references.resolve name
  | .missing => .missing
  | .failed => .failed

def hasProperHead (objects : Objects) (references : References) : Bool :=
  match headTarget references with
  | .found target =>
    match objects.treeOf target with
    | .found tree => objects.isWhole objects.bound tree
    | .missing => true
    | .failed => false
  | .missing => true
  | .failed => false

def patternFiles : List Text := ["core.excludesfile".toList, "core.attributesfile".toList]

/-- Files of patterns may be missing, but not the home directory that is to have one. -/
def hasPatternFiles (vantage : Vantage) (opened : Opened) : Bool :=
  patternFiles.all fun name =>
    match opened.config.lookup name with
    | some (some path) => !"~/".toList.isPrefixOf path || vantage.home.isSome
    | _ => true

def isComparable (vantage : Vantage) (objects : Objects) (config : Config) (tree : WorkTree) :
    Bool :=
  let uncertain := tree.uncertain config
  !tree.isTooDeep && tree.hasKnownSubmodules vantage config &&
    (uncertain.isEmpty || WorkTree.hasEndings config) &&
    tree.hasAttributes objects (uncertain.map Index.Entry.path)

def hasState (vantage : Vantage) (objects : Objects) (references : References)
    (opened : Opened) : Bool :=
  (opened.workTree? vantage).any (isComparable vantage objects opened.config) &&
    hasProperHead objects references && opened.hasPatternFiles vantage

end StatusPrompt.OnDisk.Opened
