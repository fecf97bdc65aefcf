import StatusPrompt.OnDisk.Reference.Basic
import StatusPrompt.OnDisk.Sha1
import StatusPrompt.Text.Numeral

/-!
Objects as a repository keeps them: bytes of some kind, under a name that is the digest of both.
-/

namespace StatusPrompt.OnDisk

def ObjectName.ofEmptyTree : ObjectName := "4b825dc642cb6eb9a060e54bf8d69288fbee4904".toList

def ObjectName.ofDigest (digest : List UInt8) : ObjectName :=
  digest.flatMap fun byte => [Nat.digitChar (byte.toNat / 16), Nat.digitChar (byte.toNat % 16)]

namespace Object

def digestSize : Nat := 20

inductive Kind where
  | commit
  | tree
  | blob
  | tag
  deriving DecidableEq, Repr

namespace Kind

def all : List Kind := [.commit, .tree, .blob, .tag]

def word : Kind → Text
  | .commit => "commit".toList
  | .tree => "tree".toList
  | .blob => "blob".toList
  | .tag => "tag".toList

end Kind

/-- The content of an object as its bytes, not yet read. -/
structure Raw where
  kind : Kind
  content : Text
  deriving DecidableEq, Repr

namespace Raw

def octets (raw : Raw) : Text :=
  raw.kind.word ++ [' '] ++ Numeral.write raw.content.length ++ ['\x00'] ++ raw.content

def name (raw : Raw) : ObjectName := ObjectName.ofDigest (Sha1.ofBytes (Octets.toBytes raw.octets))

end Raw

end Object

end StatusPrompt.OnDisk
