import StatusPrompt.OnDisk.Vantage

/-!
Finding the repository that a directory belongs to. From the directory upwards, each one is
looked at twice: what its `.git` is, and whether it is a metadata directory itself. A `.git` that
is a file names the metadata directory instead.
-/

namespace StatusPrompt.OnDisk.Discovery

def metadataName : Text := ".git".toList

def headName : Text := "HEAD".toList

def candidatesAbove : List Text → List Place
  | [] => [[metadataName], []]
  | name :: above =>
    let place := (name :: above).reverse
    (place ++ [metadataName]) :: place :: candidatesAbove above

def candidates (start : Place) : List Place := candidatesAbove start.reverse

def nearest (start : Place) : List Place := (candidates start).take 2

def commonPath? (vantage : Vantage) (metadata : Place) : Option Text :=
  vantage.octets? (metadata ++ ["commondir".toList])

def common? (vantage : Vantage) (metadata : Place) : Option Place :=
  match commonPath? vantage metadata with
  | none => some metadata
  | some path =>
    vantage.disk.locate (if Path.isDotted path then metadata else vantage.current) path

def backLink? (vantage : Vantage) (metadata : Place) : Option Text :=
  (vantage.octets? (metadata ++ ["gitdir".toList])).map fun path =>
    if Path.isDotted path then Path.shorten (Path.below metadata.toDirectory path) else path

structure Found where
  metadata : Place
  common : Place
  /-- The directory that the candidate stands in. -/
  parent : Place
  /-- The path back, where the candidate is the metadata directory itself. -/
  backLink : Option Text := none

/-- What a candidate is: a metadata directory with its common directory, nothing of use, or a link
that leads nowhere. Only the last of these ends the search without a result. -/
inductive Inspection where
  | found (found : Found)
  | unsuitable
  | broken

def inspect (vantage : Vantage) (metadata : Place) : Inspection :=
  match common? vantage metadata with
  | none => .broken
  | some common =>
    if vantage.disk.hasFile (metadata ++ [headName]) ∧
        vantage.disk.hasDirectory (common ++ ["objects".toList]) ∧
        vantage.disk.hasDirectory (common ++ ["refs".toList]) then
      .found ⟨metadata, common, metadata.dropLast, backLink? vantage metadata⟩
    else .unsuitable

def linkPath? (vantage : Vantage) (file : Place) : Option Text :=
  let mark := "gitdir:".toList
  (vantage.trimmed? file).bind fun octets =>
    if mark.isPrefixOf octets ∧ mark.length < octets.length then
      some (Ascii.skipSpace (Octets.untilZero (octets.drop mark.length)))
    else none

def linkTarget? (vantage : Vantage) (file : Place) : Option Place :=
  (linkPath? vantage file).bind (vantage.resolve? file.dropLast)

def inspectLink (vantage : Vantage) (file : Place) : Inspection :=
  match linkTarget? vantage file with
  | none => .broken
  | some metadata =>
    match inspect vantage metadata with
    | .found found => .found { found with parent := file.dropLast, backLink := none }
    | _ => .broken

def inspectAt (vantage : Vantage) (place : Place) : Inspection :=
  match vantage.disk place with
  | none => .unsuitable
  | some .directory => inspect vantage place
  | some (.file _) =>
    if place.getLast? = some metadataName then inspectLink vantage place else .unsuitable

def firstFound (vantage : Vantage) : List Place → Option Found
  | [] => none
  | place :: rest =>
    match inspectAt vantage place with
    | .found found => some found
    | .broken => none
    | .unsuitable => firstFound vantage rest

def findAt? (vantage : Vantage) (start : Place) : Option Found :=
  firstFound vantage (nearest start)

def find? (vantage : Vantage) (path : Text) : Option Found := do
  let start ← vantage.disk.locate vantage.current path
  let found ← firstFound vantage (candidates start)
  findAt? vantage found.metadata

end StatusPrompt.OnDisk.Discovery
