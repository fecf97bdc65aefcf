import StatusPrompt.OnDisk.Object.Pack.NameTable

/-!
The table of contents of a pack, a file beside it: the names of the objects and where each of them
is. In the first form a name follows the position of its object; in the second one, which has a
mark, all the names come first and the positions at the end.
-/

namespace StatusPrompt.OnDisk.Object.Pack

structure Contents where
  names : NameTable
  /-- Whether the file is in the second form. -/
  isSecond : Bool

namespace Contents

def mark : Nat := 0xFF744F63

def version : Nat := 2

def headSize (isSecond : Bool) : Nat := if isSecond then 8 else 0

def stride (isSecond : Bool) : Nat := if isSecond then digestSize else digestSize + 4

def ofForm (bytes : Array UInt8) (isSecond : Bool) : Contents where
  names :=
    { bytes
      numbersAt := headSize isSecond
      namesAt := headSize isSecond + NameTable.numbersSize + if isSecond then 0 else 4
      stride := stride isSecond }
  isSecond := isSecond

def size (contents : Contents) : Nat := contents.names.bytes.size

def restAt (contents : Contents) : Nat := headSize contents.isSecond + NameTable.numbersSize

/-- Whether the file can have its size. In the second form all positions but one may be large, and
each large one takes more bytes. -/
def isFilled (contents : Contents) : Bool :=
  let count := contents.names.count
  let each := digestSize + if contents.isSecond then 8 else 4
  let least := contents.restAt + each * count + 2 * digestSize
  let most := if contents.isSecond then least + 8 * (count - 1) else least
  least ≤ contents.size && contents.size ≤ most

def ofBytes? (bytes : Array UInt8) : Option Contents :=
  let isSecond : Bool := numberAt bytes 4 0 = mark
  let contents := ofForm bytes isSecond
  if NameTable.numbersSize + 2 * digestSize ≤ bytes.size ∧
      (isSecond → numberAt bytes 4 4 = version) ∧ contents.names.isRising ∧
      contents.isFilled then
    some contents
  else none

def digest (contents : Contents) : List UInt8 :=
  let past := contents.size - 2 * digestSize
  (contents.names.bytes.extract past (past + digestSize)).toList

def largeFrom : Nat := 0x80000000

def positionAt? (contents : Contents) (place : Nat) : Option Nat :=
  let number : Nat → Nat → Nat := numberAt contents.names.bytes
  if contents.isSecond then
    let positions := contents.restAt + (digestSize + 4) * contents.names.count
    let written := number 4 (positions + 4 * place)
    let large := positions + 4 * contents.names.count +
      8 * (written - largeFrom) % 4294967296
    if written < largeFrom then some written
    else if contents.size ≤ large + 8 then none
    else some (number 8 large)
  else some (number 4 (contents.restAt + (digestSize + 4) * place))

def position? (contents : Contents) (name : ObjectName) : Option Nat :=
  (contents.names.place? name).bind contents.positionAt?

end Contents

end StatusPrompt.OnDisk.Object.Pack
