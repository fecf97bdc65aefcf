import StatusPrompt.OnDisk.Object.Basic
import StatusPrompt.OnDisk.Integer

/-!
What the content of an object says. Commits and tags begin with lines, each of which has a word and
a value; a tree is a row of entries.
-/

namespace StatusPrompt.OnDisk

inductive Object where
  | commit (tree : ObjectName)
  /-- A tree with the trees in it. -/
  | tree (directories : List ObjectName)
  | blob
  /-- A tag with a message: what it is on, its own name, and when it was made. -/
  | tag (target : ObjectName) (kind : Object.Kind) (name : Text) (seconds : Int)
  deriving DecidableEq, Repr

namespace Object

def kind : Object → Kind
  | .commit _ => .commit
  | .tree _ => .tree
  | .blob => .blob
  | .tag _ _ _ _ => .tag

def takeName? (word octets : Text) : Option (ObjectName × Text) :=
  if word.isPrefixOf octets then
    match ObjectName.take? (octets.drop word.length) with
    | some (name, '\n' :: rest) => some (name, rest)
    | _ => none
  else none

def afterLast? (c : Char) (text : Text) : Option Text :=
  let after := (text.reverse.takeWhile (· != c)).reverse
  if after.length < text.length then some after else none

def takePerson? (word octets : Text) : Option (Int × Text) := do
  let line := octets.takeWhile (· != '\n')
  let body := line.drop word.length
  let address ← afterLast? '<' body
  let time ← afterLast? '>' body
  if line.length = octets.length ∨ body = [] ∨ !word.isPrefixOf line ∨
      address.length ≤ time.length then none
  else
    let (seconds, _) ← if time.length < 2 then some (0, []) else Integer.take? 10 time.tail
    some (seconds, octets.drop (line.length + 1))

def skipParents : Nat → Text → Text
  | 0, octets => octets
  | bound + 1, octets =>
    match takeName? "parent ".toList octets with
    | some (_, rest) => skipParents bound rest
    | none => octets

def skipAuthors? : Nat → Text → Option Text
  | 0, octets => some octets
  | bound + 1, octets =>
    let word := "author ".toList
    if word.isPrefixOf octets then
      (takePerson? word octets).bind fun (_, rest) => skipAuthors? bound rest
    else some octets

def commit? (content : Text) : Option Object := do
  let (root, rest) ← takeName? "tree ".toList content
  let rest := skipParents rest.length rest
  let (_, rest) ← takePerson? "author ".toList rest
  let rest ← skipAuthors? rest.length rest
  let _ ← takePerson? "committer ".toList rest
  some (.commit root)

def takeKind? (octets : Text) : List Kind → Option (Kind × Text)
  | [] => none
  | kind :: others =>
    let line := kind.word ++ ['\n']
    if octets.length ≤ line.length then none
    else if line.isPrefixOf octets then some (kind, octets.drop line.length)
    else takeKind? octets others

def takeWord? (word octets : Text) : Option Text :=
  if word.length < octets.length ∧ word.isPrefixOf octets then some (octets.drop word.length)
  else none

/-- Whether lines that are left may stand before a message. An empty line comes before it, unless
there is nothing at all. -/
def mayPrecede (octets : Text) : Bool :=
  octets = [] || octets.head? == some '\n' || Text.contains "\n\n".toList octets

def tag? (content : Text) : Option Object := do
  let (target, rest) ← takeName? "object ".toList content
  let rest ← takeWord? "type ".toList rest
  let (kind, rest) ← takeKind? rest Kind.all
  let rest ← takeWord? "tag ".toList rest
  let name := rest.takeWhile (· != '\n')
  if name.length = rest.length then none
  else
    let rest := rest.drop (name.length + 1)
    let (seconds, rest) ← if rest = [] ∨ rest.head? = some '\n' then some (0, rest)
      else takePerson? "tagger ".toList rest
    if mayPrecede rest then
      some (.tag target kind (Octets.untilZero name) seconds)
    else none

def isTreeMode (mode : Nat) : Bool := mode / 0x1000 % 16 == 4

def entryLimit : Nat := 65535

def entry? (octets : Text) : Option (Option ObjectName × Text) := do
  let (mode, rest) ← Integer.take? 8 octets
  let name := Octets.untilZero rest.tail
  let object := rest.tail.drop (name.length + 1)
  if octets.head?.any Ascii.isSpace ∨ mode < 0 ∨ (entryLimit : Int) < mode ∨
      rest.head? ≠ some ' ' ∨ name = [] ∨ entryLimit < name.length ∨
      object.length < digestSize then none
  else
    let directory := ObjectName.ofDigest (Octets.toBytes (object.take digestSize))
    some (if isTreeMode mode.toNat then some directory else none, object.drop digestSize)

def entries? : Nat → Text → Option (List ObjectName)
  | _, [] => some []
  | 0, _ :: _ => none
  | bound + 1, octets => do
    let (directory, rest) ← entry? octets
    let others ← entries? bound rest
    some (directory.toList ++ others)

def ofRaw? (raw : Raw) : Option Object :=
  match raw.kind with
  | .commit => commit? raw.content
  | .tree => (entries? raw.content.length raw.content).map .tree
  | .blob => some .blob
  | .tag => tag? raw.content

end Object

end StatusPrompt.OnDisk
