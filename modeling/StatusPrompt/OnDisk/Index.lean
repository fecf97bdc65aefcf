import StatusPrompt.OnDisk.Index.Extension
import StatusPrompt.OnDisk.Sha1

/-!
The index of a work tree as a file: a mark, a version, the entries, extensions, and a digest of all
this. Of the extensions only whether they can be read matters here.
-/

namespace StatusPrompt.OnDisk.Index

def mark : Text := "DIRC".toList

def headSize : Nat := 12

def takeEntries? (version : Nat) : Nat → Text → Text → Option (List Entry × Text)
  | 0, _, octets => some ([], octets)
  | left + 1, previous, octets =>
    if octets.length ≤ digestSize then none
    else do
      let (entry, rest) ← Entry.take? version previous octets
      let (others, rest) ← takeEntries? version left entry.path rest
      some (entry :: others, rest)

def isSigned (octets : Text) : Bool :=
  let digest := octets.drop (octets.length - digestSize)
  let content := octets.take (octets.length - digestSize)
  digest.all (· == '\x00') ||
    Octets.toBytes digest == Sha1.ofBytes (Octets.toBytes content)

def entries? (octets : Text) : Option (List Entry) := do
  let version := Octets.number ((octets.drop 4).take 4)
  let count := Octets.number ((octets.drop 8).take 4)
  let body := octets.drop headSize
  if octets.length < headSize + digestSize ∨ octets.take 4 ≠ mark ∨ version < 2 ∨
      cutVersion < version then none
  else
    let (entries, rest) ← takeEntries? version count [] body
    if Extension.areAll rest.length (rest.take (rest.length - digestSize)) ∧ isSigned octets then
      some entries
    else none

end StatusPrompt.OnDisk.Index
