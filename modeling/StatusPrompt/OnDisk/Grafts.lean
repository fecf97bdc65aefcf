import StatusPrompt.OnDisk.Vantage
import StatusPrompt.Text.Lines

/-!
The two files that say where the known history of a repository ends: each line names a commit and
the parents it is taken to have, with a space before every parent. Which commits they name plays no
part here, but a repository with a file of any other form cannot be opened.
-/

namespace StatusPrompt.OnDisk.Grafts

def nameLength : Nat := 40

def afterName? (line : Text) : Option Text :=
  let name := line.take nameLength
  if name.length = nameLength ∧ name.all (Ascii.isDigitBelow 16) then some (line.drop nameLength)
  else none

def listsParents : Nat → Text → Bool
  | _, [] => true
  | bound + 1, ' ' :: rest => (afterName? rest).any (listsParents bound)
  | _, _ => false

def isLine (line : Text) : Bool :=
  (afterName? line).any fun rest => listsParents rest.length rest

def isWellFormed (text : Text) : Bool :=
  match (Text.fields '\n' text).reverse with
  | [] :: lines => lines.all isLine
  | lines => lines.all isLine

def isReadable (vantage : Vantage) (place : Place) : Bool :=
  match vantage.disk place with
  | some (.file content) => isWellFormed (Octets.ofBytes content)
  | _ => true

end StatusPrompt.OnDisk.Grafts
