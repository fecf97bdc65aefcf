import StatusPrompt.OnDisk.Reference.Basic
import StatusPrompt.Text.Lines

/-!
The one file that keeps many references. After comments, each line holds the name of an object and
the name of the reference to it; where the object is a tag with a message, a line with a caret may
follow and say what the tag is on.
-/

namespace StatusPrompt.OnDisk.Reference.Packed

abbrev Entries := List (Text × Target)

namespace Entries

def insert (name : Text) (target : Target) : Entries → Entries
  | [] => [(name, target)]
  | (other, known) :: rest =>
    if name < other then (name, target) :: (other, known) :: rest
    else if name = other then
      (other, { known with peeled := known.peeled.or target.peeled }) :: rest
    else (other, known) :: insert name target rest

def ordered (entries : Entries) : Entries :=
  entries.foldr (fun (name, target) sorted => sorted.insert name target) []

end Entries

def ofLine? (line : Text) : Option (Text × ObjectName) :=
  match ObjectName.take? line with
  | some (object, ' ' :: name) =>
    let kept := if name.getLast? = some '\r' then name.dropLast else name
    if '\x00' ∈ name then none else some (kept, object)
  | _ => none

/-- The entries on some lines. What stands after the last line feed is given as a line too; only a
line with a caret may end without a line feed, and then has nothing after the name. -/
def entries? : List Text → Option Entries
  | [] => some []
  | [last] => if last = [] then some [] else none
  | line :: ('^' :: peeled) :: more =>
    match ofLine? line, ObjectName.take? peeled with
    | some (name, object), some (inner, rest) =>
      if '\x00' ∈ rest ∨ (more = [] ∧ rest ≠ []) then none
      else (entries? more).map ((name, ⟨object, some inner⟩) :: ·)
    | _, _ => none
  | line :: next :: more =>
    (ofLine? line).bind fun (name, object) =>
      (entries? (next :: more)).map ((name, { object }) :: ·)

def afterComments : List Text → Option (List Text)
  | ('#' :: comment) :: rest =>
    if rest = [] ∨ '\x00' ∈ comment then none else afterComments rest
  | lines => some lines

def ofOctets? (octets : Text) : Option Entries :=
  ((afterComments (Text.fields '\n' octets)).bind entries?).map Entries.ordered

end StatusPrompt.OnDisk.Reference.Packed
