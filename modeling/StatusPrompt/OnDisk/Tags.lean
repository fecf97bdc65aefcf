import StatusPrompt.Text.Numeral

/-!
The tag that names a commit exactly, of all the tags on it. A tag with a message goes before one
without, and a later one before an earlier one; of equals the one that is met first stays. A tag
whose message is lost gives way to any other that has or should have one.
-/

namespace StatusPrompt.OnDisk

inductive Message where
  | none
  | made (seconds : Int)
  /-- There should be one, but it cannot be read. -/
  | lost
  deriving DecidableEq, Repr

structure Tag where
  name : Text
  message : Message := .none
  deriving DecidableEq, Repr

namespace Tag

def yields (first second : Tag) : Bool :=
  match first.message, second.message with
  | _, .none => false
  | .none, _ => true
  | .lost, _ => true
  | .made one, .made other => one < other
  | .made _, .lost => false

def better (first second : Tag) : Tag := if first.yields second then second else first

def best : List Tag → Option Tag
  | [] => none
  | tag :: rest => some (rest.foldl better tag)

def shown? (tag : Tag) : Option Text := if tag.message = .lost then none else some tag.name

end Tag

end StatusPrompt.OnDisk
