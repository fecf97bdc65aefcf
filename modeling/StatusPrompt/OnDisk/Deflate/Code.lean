import StatusPrompt.OnDisk.Deflate.Bits

/-!
Codes in which no word begins another. A code is given by the lengths of its words alone: words
are numbered upwards, shorter ones first, and among words of one length in the order of what they
stand for. The bits of a word come with the highest first.
-/

namespace StatusPrompt.OnDisk.Deflate

abbrev Code := List (List Nat)

namespace Code

def longest : Nat := 15

def ofLengths (lengths : List Nat) : Code :=
  (List.range longest).map fun place =>
    (lengths.zipIdx.filter fun (length, _) => length = place + 1).map Prod.snd

def free? (code : Code) : Option Nat :=
  code.foldlM (fun free row =>
    if row.length ≤ 2 * free then some (2 * free - row.length) else none) 1

def isComplete (code : Code) : Bool := code.free? == some 0

def isUsable (code : Code) : Bool :=
  code.isComplete ||
    match code with
    | [] => true
    | row :: longer => row.length ≤ 1 && longer.all List.isEmpty

/-- Reads one word, of which some bits have been read, and tells what it stands for. Of the words
that are one bit longer the least is `2 * first`, and the bits read so far make up `word`. -/
def readFrom? : Code → Nat → Nat → Bits → Option (Nat × Bits)
  | row :: longer, first, word, bit :: rest =>
    let first := 2 * first
    let word := 2 * word + bit.toNat
    match row[word - first]? with
    | some meaning => some (meaning, rest)
    | none => readFrom? longer (first + row.length) word rest
  | _, _, _, _ => none

def read? (code : Code) (bits : Bits) : Option (Nat × Bits) := code.readFrom? 0 0 bits

end Code

end StatusPrompt.OnDisk.Deflate
