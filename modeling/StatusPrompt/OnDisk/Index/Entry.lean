import StatusPrompt.OnDisk.Object.Basic

/-!
One entry of an index: what is known of a file, and its path. In the first versions of the format
the path is written out and padded; from version 4 on it says how much of the path before is cut
off, and what follows instead. The bytes of an index are given as characters.
-/

namespace StatusPrompt.OnDisk.Index

def digestSize : Nat := 20

def cutVersion : Nat := 4

structure Entry where
  path : Text
  /-- What kind of file it is, and what may be done with it. -/
  mode : Nat
  /-- How many bytes the file had. -/
  fileSize : Nat
  /-- The content that the file has in the index. -/
  object : ObjectName
  flags : Nat
  /-- The flags that only later versions have. -/
  moreFlags : Nat
  deriving DecidableEq, Repr

namespace Entry

def kind (entry : Entry) : Nat := entry.mode / 0x1000 % 16

def isRegular (entry : Entry) : Bool := entry.kind == 0o10

/-- Whether the entry is for a commit of another repository, whose work tree has its place here. -/
def isLink (entry : Entry) : Bool := entry.kind == 0o16

def stage (entry : Entry) : Nat := entry.flags / 0x1000 % 4

def isAssumed (entry : Entry) : Bool :=
  entry.flags.testBit 15 || entry.moreFlags.testBit 14

def modeAt : Nat := 24

def fileSizeAt : Nat := 36

def objectAt : Nat := 40

def flagsAt : Nat := 60

def pathAt (flags : Nat) : Nat := if flags.testBit 14 then 64 else 62

def longest : Nat := 0xFFF

def written? (flags : Nat) (octets : Text) : Option (Text × Nat) :=
  let text := octets.drop (pathAt flags)
  let path := Octets.untilZero text
  let length := if flags % (longest + 1) = longest then path.length else flags % (longest + 1)
  if flags % (longest + 1) = longest ∧ path.length = text.length then none
  else some (path, (pathAt flags + length + 8) / 8 * 8)

def cutFrom? (value : Nat) (taken : Nat) : Text → Option (Nat × Nat)
  | [] => none
  | c :: rest =>
    let value := 128 * value + c.toNat % 128
    if c.toNat < 128 then some (value, taken + 1)
    else if 0x1FFFFFFFFFFFFFF ≤ value then none
    else cutFrom? (value + 1) (taken + 1) rest

def pathLimit : Nat := 4096

def cut? (previous : Text) (flags : Nat) (octets : Text) : Option (Text × Nat) :=
  (cutFrom? 0 0 (octets.drop (pathAt flags))).bind fun (cut, taken) =>
    let suffix := Octets.untilZero (octets.drop (pathAt flags + taken))
    let path := previous.take (previous.length - cut) ++ suffix
    if previous.length < cut ∨ pathLimit < path.length + 1 then none
    else some (path, pathAt flags + taken + suffix.length + 1)

def metadataNames : List Text := [".git".toList, "git~1".toList]

/-- Whether a component may name something besides the metadata directory. Dots and blanks at its
end do not tell names apart everywhere, nor does what follows a colon or a backslash. -/
def isComponent (component : Text) : Bool :=
  let folded := component.map Ascii.lower
  component ≠ ['.'] && component ≠ ['.', '.'] &&
    metadataNames.all fun name =>
      !name.isPrefixOf folded ||
        let rest := folded.drop name.length
        rest.head? ≠ some '\\' && rest.head? ≠ some ':' && rest.any fun c => c ≠ ' ' && c ≠ '.'

def take? (version : Nat) (previous : Text) (octets : Text) : Option (Entry × Text) := do
  let number : Nat → Nat → Nat := fun width place =>
    Octets.number ((octets.drop place).take width)
  let flags := number 2 flagsAt
  let moreFlags := if pathAt flags = pathAt 0 then 0 else number 2 (pathAt 0)
  if octets.length < digestSize + pathAt 0 then none
  else
    let (path, size) ←
      if version < cutVersion then written? flags octets else cut? previous flags octets
    if digestSize + size ≤ octets.length ∧ (Path.components path).all isComponent then
      let digest := Octets.toBytes ((octets.drop objectAt).take digestSize)
      some (⟨path, number 4 modeAt, number 4 fileSizeAt, ObjectName.ofDigest digest, flags,
        moreFlags⟩, octets.drop size)
    else none

end Entry

end StatusPrompt.OnDisk.Index
