import StatusPrompt.Disk

/-!
Paths and places as the git library takes them. It shortens some paths without looking at what is
there, and goes through whole directories.
-/

namespace StatusPrompt

namespace Path

def dropSlashes (path : Text) : Text := path.dropWhile (· == '/')

def below (base path : Text) : Text :=
  if base = [] then path
  else if base.getLast? = some '/' then base ++ dropSlashes path
  else base ++ ['/'] ++ dropSlashes path

def isDotted : Text → Bool
  | '.' :: '/' :: _ => true
  | '.' :: '.' :: '/' :: _ => true
  | _ => false

def afterDrive? : Text → Option Text
  | [] => none
  | c :: rest =>
    let isFurther : Char → Bool := fun next => 0x80 ≤ next.toNat
    let letters := if isFurther c then ((rest.take 3).takeWhile isFurther).length else 0
    match rest.drop letters with
    | ':' :: after => some after
    | _ => none

def isRooted (path : Text) : Bool := isAbsolute ((afterDrive? path).getD path)

def parts : Option Char → Text → List Text
  | _, [] => [[]]
  | previous, c :: rest =>
    if c = ':' ∧ previous ≠ some '\\' then [] :: parts none rest
    else Text.extend c (parts (some c) rest)

def listed (list : Text) : List Text := if list = [] then [] else parts none list

def parent (path : Text) : Text :=
  if path = [] then ['.']
  else match dropSlashes path.reverse with
    | [] => ['/']
    | last =>
      match last.dropWhile (· != '/') with
      | [] => ['.']
      | above =>
        match dropSlashes above with
        | [] => ['/']
        | kept => kept.reverse

def asDirectory (path : Text) : Text :=
  if path = [] ∨ path.getLast? = some '/' then path else path ++ ['/']

def pieces (path : Text) : List Text :=
  let written := components path
  (written.dropLast.filter (· ≠ [])).map (· ++ ['/']) ++
    (written.getLast?.toList.filter (· ≠ []))

/-- A path that is being shortened within its own row of characters: the pieces that are kept, the
last one first, are written over the front of the row. -/
structure Shortening where
  row : Text
  kept : List Text := []

namespace Shortening

def length (state : Shortening) : Nat := state.kept.flatten.length

def keep (state : Shortening) (piece : Text) : Shortening where
  row := state.row.take state.length ++ piece ++ state.row.drop (state.length + piece.length)
  kept := piece :: state.kept

/-- Goes through the pieces: a single dot is left out, and two dots take back the last piece that
is kept. Where there is none to take back, the row stays as it is by then. -/
def run : Shortening → List Text → Text
  | state, [] => state.row.take state.length
  | state, piece :: rest =>
    if piece = ['.'] ∨ piece = ['.', '/'] then run state rest
    else if piece = ['.', '.'] ∨ piece = ['.', '.', '/'] then
      match state.kept with
      | [] => state.row
      | _ :: above => run { state with kept := above } rest
    else run (state.keep piece) rest

end Shortening

def shorten (path : Text) : Text := '/' :: Shortening.run { row := path.tail } (pieces path.tail)

end Path

def Place.toDirectory (place : Place) : Text := place.flatMap ('/' :: ·) ++ ['/']

namespace Listing

def inside : Listing → Text → Listing
  | .done, _ => .done
  | .file _ _ rest, name => rest.inside name
  | .directory other below rest, name => if other = name then below else rest.inside name

def alike? (same : Text → Text → Bool) : Listing → Text → List Text → Option Place
  | .done, _, _ => none
  | .file other _ rest, name, below =>
    if below.isEmpty && same other name then some [other] else rest.alike? same name below
  | .directory other inside rest, name, below =>
    let found := if same other name then
        match below with
        | [] => some []
        | next :: more => inside.alike? same next more
      else none
    match found with
    | some deeper => some (other :: deeper)
    | none => rest.alike? same name below

def places : Listing → List Place
  | .done => []
  | .file name _ rest => [name] :: rest.places
  | .directory name inside rest => ([name] :: inside.places.map (name :: ·)) ++ rest.places

end Listing

namespace Disk

def hasDirectory (disk : Disk) (place : Place) : Bool := disk place = some .directory

def hasFile (disk : Disk) (place : Place) : Bool :=
  match disk place with
  | some (.file _) => true
  | _ => false

def placesBelow (disk : Disk) (place : Place) : List Place :=
  (place.foldl Listing.inside disk.root).places.map (place ++ ·)

def alike? (disk : Disk) (same : Text → Text → Bool) (place : Place) : List Text → Option Place
  | [] => some place
  | name :: below =>
    ((place.foldl Listing.inside disk.root).alike? same name below).map (place ++ ·)

def nesting : Nat := 99

end Disk

end StatusPrompt
