import StatusPrompt.OnDisk.Object.Pack.NameTable
import StatusPrompt.OnDisk.Sha1
import StatusPrompt.Text.Lines

/-!
The catalogue of several packs of a directory: the names of their objects, and for each in which
pack it is and where there. After a head, the file lists its chunks, each with four letters and the
place where it begins; a chunk goes on to where the next one begins. A digest of all this is at the
end.
-/

namespace StatusPrompt.OnDisk.Object.Pack

structure Chunk where
  start : Nat
  size : Nat
  deriving DecidableEq, Repr

def fileEnd : Text := ".idx".toList

structure Catalogue where
  /-- The tables of contents of the packs, by their names. -/
  files : List Text
  names : NameTable
  /-- Where the positions of the objects are. -/
  positions : Chunk
  /-- Where the positions are that are too large to stand there. -/
  largePositions : Chunk

namespace Catalogue

def headSize : Nat := 12

def lineSize : Nat := 12

def mark : List UInt8 := [0x4D, 0x49, 0x44, 0x58, 1, 1]

def filesMark : Text := "PNAM".toList

def numbersMark : Text := "OIDF".toList

def namesMark : Text := "OIDL".toList

def positionsMark : Text := "OOFF".toList

def largePositionsMark : Text := "LOFF".toList

def marks : List Text :=
  [filesMark, numbersMark, namesMark, positionsMark, largePositionsMark]

def isSound (bytes : Array UInt8) : Bool :=
  let past := bytes.size - digestSize
  mark.isPrefixOf (bytes.extract 0 mark.length).toList &&
    numberAt bytes 1 6 ≠ 0 && headSize + lineSize * (numberAt bytes 1 6 + 1) ≤ past &&
    (bytes.extract past bytes.size).toList == Sha1.ofBytes (bytes.extract 0 past).toList

def listed (bytes : Array UInt8) : List (Text × Nat) :=
  (List.range (numberAt bytes 1 6)).map fun place =>
    let line := headSize + lineSize * place
    (Octets.ofBytes (bytes.extract line (line + 4)).toList, numberAt bytes 8 (line + 4))

/-- The chunks, the last one first, unless one of them is unknown, or out of order after a place, or
goes on past an end. -/
def chunks? (past : Nat) : Nat → List (Text × Nat) → Option (List (Text × Chunk))
  | _, [] => some []
  | least, (mark, start) :: rest => do
    let others ← chunks? past start rest
    let next := (rest.head?.map Prod.snd).getD past
    if mark ∈ marks ∧ least ≤ start ∧ start < past then
      some (others ++ [(mark, ⟨start, next - start⟩)])
    else none

/-- Takes so many names of files off some bytes, each with a zero byte after it. They are in order,
and lie in the directory. -/
def files? : Nat → Option Text → Text → Option (List Text)
  | 0, _, _ => some []
  | count + 1, previous, octets =>
    let name := Octets.untilZero octets
    if name.length < octets.length ∧ previous.all (· < name) ∧ fileEnd.isSuffixOf name ∧
        fileEnd.length < name.length ∧ '/' ∉ name ∧ '\\' ∉ name then
      (files? count (some name) (octets.drop (name.length + 1))).map (name :: ·)
    else none

def areOrdered (table : NameTable) : Bool :=
  (table.nameAt 0).any (· != '0') &&
    (List.range (table.count - 1)).all fun place =>
      table.nameAt place < table.nameAt (place + 1)

def ofBytes? (bytes : Array UInt8) : Option Catalogue := do
  let start := headSize + lineSize * (numberAt bytes 1 6 + 1)
  let chunks ← chunks? (bytes.size - digestSize) start (listed bytes)
  let inFiles ← chunks.lookup filesMark
  let inNumbers ← chunks.lookup numbersMark
  let inNames ← chunks.lookup namesMark
  let positions ← chunks.lookup positionsMark
  let largePositions := (chunks.lookup largePositionsMark).getD ⟨0, 0⟩
  let written := bytes.extract inFiles.start (inFiles.start + inFiles.size)
  let files ← files? (numberAt bytes 4 8) none (Octets.ofBytes written.toList)
  let names : NameTable := ⟨bytes, inNumbers.start, inNames.start, digestSize⟩
  if isSound bytes ∧ 0 < inFiles.size ∧ inNumbers.size = NameTable.numbersSize ∧
      names.isRising ∧ 0 < names.count ∧ inNames.size = digestSize * names.count ∧
      areOrdered names ∧ positions.size = 8 * names.count ∧ largePositions.size % 8 = 0 then
    some ⟨files, names, positions, largePositions⟩
  else none

def position? (catalogue : Catalogue) (written : Nat) : Option Nat :=
  let bytes := catalogue.names.bytes
  let large := written - 0x80000000
  if written < 0x80000000 ∨ catalogue.largePositions.size = 0 then some written
  else if catalogue.largePositions.size ≤ 8 * large then none
  else some (numberAt bytes 8 (catalogue.largePositions.start + 8 * large))

def find? (catalogue : Catalogue) (name : ObjectName) : Option (Nat × Nat) := do
  let bytes := catalogue.names.bytes
  let place ← catalogue.names.place? name
  let line := catalogue.positions.start + 8 * place
  let position ← catalogue.position? (numberAt bytes 4 (line + 4))
  let file := numberAt bytes 4 line
  if file < catalogue.files.length then some (file, position) else none

end Catalogue

end StatusPrompt.OnDisk.Object.Pack
