import StatusPrompt.Text.Blank

/-!
Bytes as bits. Of each byte the lowest bit comes first, and so does the lowest bit of a number that
takes some bits.
-/

namespace StatusPrompt.OnDisk.Deflate

abbrev Bits := List Bool

namespace Bits

def ofByte (byte : UInt8) : Bits := (List.range 8).map byte.toNat.testBit

def ofBytes (bytes : List UInt8) : Bits := bytes.flatMap ofByte

def take? : Nat → Bits → Option (Nat × Bits)
  | 0, bits => some (0, bits)
  | _ + 1, [] => none
  | width + 1, bit :: rest =>
    (take? width rest).map fun (value, after) => (2 * value + bit.toNat, after)

def align (bits : Bits) : Bits := bits.drop (bits.length % 8)

def takeBytes? : Nat → Bits → Option (List UInt8 × Bits)
  | 0, bits => some ([], bits)
  | count + 1, bits => do
    let (byte, bits) ← take? 8 bits
    let (bytes, bits) ← takeBytes? count bits
    some (UInt8.ofNat byte :: bytes, bits)

end Bits

end StatusPrompt.OnDisk.Deflate
