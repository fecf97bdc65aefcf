import StatusPrompt.Path
import StatusPrompt.OnDisk.Ascii
import StatusPrompt.Text.Octets

/-!
What a reference says, and how the file that keeps it says so. A reference names an object, or
another reference.
-/

namespace StatusPrompt.OnDisk

inductive Search (α : Type) where
  | found (value : α)
  | missing
  | failed
  deriving DecidableEq, Repr

namespace Search

variable {α β : Type}

def map (change : α → β) : Search α → Search β
  | .found value => .found (change value)
  | .missing => .missing
  | .failed => .failed

def ofRead (read : Option α) : Search α := read.elim .failed .found

def done? : Search α → Option (Search α)
  | .missing => none
  | search => some search

end Search

abbrev ObjectName := Text

namespace ObjectName

def length : Nat := 40

def take? (text : Text) : Option (ObjectName × Text) :=
  let digits := text.take length
  if digits.length = length ∧ digits.all (Ascii.isDigitBelow 16) then
    some (digits.map Ascii.lower, text.drop length)
  else none

end ObjectName

/-- The object that a reference names. A reference to a tag with a message may also say what the
tag is on in the end. -/
structure Target where
  object : ObjectName
  peeled : Option ObjectName := none
  deriving DecidableEq, Repr

inductive Reference where
  | direct (target : Target)
  | symbolic (name : Text)
  deriving DecidableEq, Repr

namespace Reference

def directory : Text := "refs/".toList

def tagDirectory : Text := "refs/tags/".toList

def separateDirectories : List Text :=
  ["refs/bisect/".toList, "refs/worktree/".toList, "refs/rewritten/".toList]

def isShared (name : Text) : Bool :=
  directory.isPrefixOf name && !separateDirectories.any fun start => start.isPrefixOf name

def ofOctets? (octets : Text) : Option Reference :=
  let mark := "ref: ".toList
  if mark.isPrefixOf octets then
    let written := Ascii.dropSpaceEnd octets
    if mark.length < written.length then
      some (.symbolic (Octets.untilZero (written.drop mark.length)))
    else none
  else (ObjectName.take? octets).bind fun (object, rest) =>
    if rest.head?.all fun c => Ascii.isSpace c || c == '\x00' then some (.direct { object })
    else none

def linkLimit : Nat := 5

end Reference

end StatusPrompt.OnDisk
