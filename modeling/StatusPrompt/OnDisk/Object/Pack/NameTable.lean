import StatusPrompt.OnDisk.Object.Basic
import StatusPrompt.OnDisk.Integer

/-!
Names of objects in order, as a file keeps them. Another table says for every first byte how many
names come up to the last one that begins with it, so that a search has few names to look at.
-/

namespace StatusPrompt.OnDisk.Object.Pack

def numberAt (bytes : Array UInt8) (width position : Nat) : Nat :=
  (List.range width).foldl (fun value place =>
    256 * value + ((bytes[position + place]?).getD 0).toNat) 0

structure NameTable where
  bytes : Array UInt8
  /-- Where the numbers of names are, of four bytes each. -/
  numbersAt : Nat
  /-- Where the first name is. -/
  namesAt : Nat
  /-- How many bytes lie from one name to the next. -/
  stride : Nat

namespace NameTable

def numbersSize : Nat := 1024

def upTo (table : NameTable) (first : Nat) : Nat :=
  numberAt table.bytes 4 (table.numbersAt + 4 * first)

def count (table : NameTable) : Nat := table.upTo 255

def nameAt (table : NameTable) (place : Nat) : ObjectName :=
  let start := table.namesAt + table.stride * place
  ObjectName.ofDigest (table.bytes.extract start (start + digestSize)).toList

def isRising (table : NameTable) : Bool :=
  (List.range 255).all fun first => table.upTo first ≤ table.upTo (first + 1)

/-- Searches some places for a name. Every step leaves out one of them at least, so their number
bounds the steps. What the search comes to is a place also if the name is not among them. -/
def search (table : NameTable) (name : ObjectName) : Nat → Nat → Nat → Nat
  | 0, first, _ => first
  | bound + 1, first, past =>
    if past ≤ first then first
    else
      let middle := (first + past) / 2
      let other := table.nameAt middle
      if other = name then middle
      else if name < other then search table name bound first middle
      else search table name bound (middle + 1) past

def place? (table : NameTable) (name : ObjectName) : Option Nat :=
  let byte := Integer.ofDigits 16 (name.take 2)
  let first := if byte = 0 then 0 else table.upTo (byte - 1)
  let past := table.upTo byte
  let place := table.search name (past - first) first past
  if place < table.count ∧ table.nameAt place = name then some place else none

end NameTable

end StatusPrompt.OnDisk.Object.Pack
