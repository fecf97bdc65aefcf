import StatusPrompt.Text.Lines

/-!
Paths as texts with slashes, and places: the components of an absolute path from the root.
-/

namespace StatusPrompt

abbrev Place := List Text

namespace Path

def isAbsolute : Text → Bool
  | '/' :: _ => true
  | _ => false

/-- Joins a path to a base. An absolute path stands alone; nothing is resolved or shortened. -/
def join (base path : Text) : Text :=
  if isAbsolute path then path
  else if base = [] ∨ base.getLast? = some '/' then base ++ path
  else base ++ ['/'] ++ path

def components (path : Text) : List Text := Text.fields '/' path

def step (place : Place) (component : Text) : Place :=
  if component = [] ∨ component = ['.'] then place
  else if component = ['.', '.'] then place.dropLast
  else place ++ [component]

def toPlace (base : Place) (path : Text) : Place :=
  (components path).foldl step (if isAbsolute path then [] else base)

end Path

namespace Place

def toPath (place : Place) : Text :=
  match place with
  | [] => ['/']
  | _ => place.flatMap ('/' :: ·)

end Place

end StatusPrompt
