import StatusPrompt.OnDisk.Deflate.Stream
import StatusPrompt.OnDisk.Object.Heading
import StatusPrompt.OnDisk.Object.Pack.Contents
import StatusPrompt.OnDisk.Object.Pack.Delta

/-!
A pack: one file that keeps many objects, each compressed by itself. Some are written as their
difference from another object of the pack, which is named, or which lies so many bytes before.
-/

namespace StatusPrompt.OnDisk.Object

structure Pack where
  contents : Pack.Contents
  bytes : List UInt8

namespace Pack

def mark : List UInt8 := [0x50, 0x41, 0x43, 0x4B, 0, 0, 0, 2]

def ofBytes? (contents bytes : List UInt8) : Option Pack :=
  (Contents.ofBytes? contents.toArray).bind fun contents =>
    let count := Octets.number (Octets.ofBytes ((bytes.drop mark.length).take 4))
    if mark.isPrefixOf bytes ∧ count = contents.names.count ∧
        bytes.drop (bytes.length - digestSize) = contents.digest then
      some ⟨contents, bytes⟩
    else none

def positionLimit : Nat := 9223372036854775807

def position? (pack : Pack) (name : ObjectName) : Option Nat :=
  (pack.contents.position? name).filter (· ≤ positionLimit)

def inside? (bytes : List UInt8) : Option (List UInt8) :=
  if digestSize ≤ bytes.length then some bytes else none

def distance? : Nat → List UInt8 → Option (Nat × List UInt8)
  | _, [] => none
  | value, byte :: rest =>
    let value := 128 * value + byte.toNat % 128
    if byte.toNat < 128 then some (value, rest) else distance? (value + 1) rest

def inflated? (size : Nat) (bytes : List UInt8) : Option (List UInt8) :=
  ((inside? bytes).bind Deflate.Stream.take?).bind fun (held, _) =>
    if held.length = size then some held else none

/-- Reads where the base lies of the object at a position, which is written as a difference. The
very first byte of the pack is none of an object. -/
def base? (pack : Pack) (position number : Nat) (bytes : List UInt8) :
    Option (Nat × List UInt8) := do
  let bytes ← inside? bytes
  let (base, rest) ← if number = 6 then
      (distance? 0 bytes).map fun (distance, rest) =>
        (if distance = 0 then 0 else position - distance, rest)
    else if number = 7 then
      (pack.position? (ObjectName.ofDigest (bytes.take digestSize))).map fun base =>
        (base, bytes.drop digestSize)
    else none
  if base = 0 then none else some (base, rest)

def read? (pack : Pack) : Nat → Nat → Option Raw
  | 0, _ => none
  | bound + 1, position => do
    let bytes ← inside? (pack.bytes.drop position)
    let (heading, rest) ← Heading.read? bytes
    match heading.kind? with
    | some kind => (inflated? heading.size rest).map fun held => ⟨kind, Octets.ofBytes held⟩
    | none =>
      let (place, rest) ← pack.base? position heading.number rest
      let base ← pack.read? bound place
      let delta ← inflated? heading.size rest
      (Delta.content? base.content delta).map fun content => { base with content }

def findAt (pack : Pack) (position : Nat) : Search Raw :=
  .ofRead (pack.read? pack.bytes.length position)

end Pack

end StatusPrompt.OnDisk.Object
