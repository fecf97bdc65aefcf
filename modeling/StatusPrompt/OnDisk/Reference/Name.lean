import StatusPrompt.Path
import StatusPrompt.OnDisk.Ascii

/-!
Names of references. A name has components between slashes, like a path; slashes that open an empty
component are left out of its normal form. A name that lies below no other is all capitals, or a
single at sign. A caret may stand in front of the whole name.
-/

namespace StatusPrompt.OnDisk.Reference.Name

def forbidden : List Char := ['~', '^', ':', '\\', '?', '[', '*', '\x7f']

def isAllowed (c : Char) : Bool := ' ' < c && !forbidden.contains c

def afterCaret : Text → Text
  | '^' :: rest => rest
  | name => name

/-- Whether a component is well formed apart from the characters in it. An empty one is, since it is
left out. -/
def isComponent (component : Text) : Bool :=
  component.head? != some '.' && !Text.contains "..".toList component &&
    !Text.contains "@\x7b".toList component && !".lock".toList.isSuffixOf component

def standsAlone (name : Text) : Bool :=
  name == ['@'] ||
    (afterCaret name).all (fun c => Ascii.isUpper c || c == '_') &&
      name.head? != some '_' && name.getLast? != some '_'

def limit : Nat := 1023

def normal? (name : Text) : Option Text :=
  let components := Path.components name
  let kept := components.filter (· ≠ [])
  let normal := Text.joined ['/'] kept
  let isPlaced : Bool := match kept with
    | [] => false
    | [component] => standsAlone component
    | component :: _ => !standsAlone component
  if components.all isComponent ∧ (afterCaret name).all (fun c => c = '/' ∨ isAllowed c) ∧
      isPlaced ∧ name.head? ≠ some '/' ∧ name.getLast? ≠ some '/' ∧ name.getLast? ≠ some '.' ∧
      normal.length ≤ limit then
    some normal
  else none

end StatusPrompt.OnDisk.Reference.Name
