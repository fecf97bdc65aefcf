import StatusPrompt.OnDisk.Deflate.Block

/-!
Compressed data as a stream: two bytes that say how it is made, the blocks, and a checksum of what
the blocks hold.
-/

namespace StatusPrompt.OnDisk.Deflate.Stream

def modulus : Nat := 65521

def sums (bytes : List UInt8) : Nat × Nat :=
  bytes.foldl (fun (plain, nested) byte =>
    let plain := (plain + byte.toNat) % modulus
    (plain, (nested + plain) % modulus)) (1, 0)

def pair (value : Nat) : List UInt8 := [UInt8.ofNat (value / 256), UInt8.ofNat value]

def checksum (bytes : List UInt8) : List UInt8 :=
  let (plain, nested) := sums bytes
  pair nested ++ pair plain

def isHead (method flags : UInt8) : Bool :=
  method.toNat % 16 == 8 && method.toNat < 128 && (256 * method.toNat + flags.toNat) % 31 == 0

def needsDictionary (flags : UInt8) : Bool := flags.toNat.testBit 5

/-- What the stream holds that some bytes begin with, and the bits that follow it. -/
def take? : List UInt8 → Option (List UInt8 × Bits)
  | method :: flags :: rest => do
    let bits := Bits.ofBytes rest
    let state ← Inflation.blocks? (bits.length + 1) { bits }
    let held := state.written.toList
    let (sum, after) ← state.bits.align.takeBytes? 4
    if isHead method flags ∧ needsDictionary flags = false ∧ sum = checksum held then
      some (held, after)
    else none
  | _ => none

def read? (bytes : List UInt8) : Option (List UInt8) :=
  (take? bytes).bind fun (held, after) => if after = [] then some held else none

end StatusPrompt.OnDisk.Deflate.Stream
