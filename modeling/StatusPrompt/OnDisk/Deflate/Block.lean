import StatusPrompt.OnDisk.Deflate.Code

/-!
The blocks of compressed data. A block holds bytes as they are, or words of two codes: one for
bytes and for how long a stretch to repeat, the other for how far back the stretch lies. The codes
are fixed, or the block begins with them.
-/

namespace StatusPrompt.OnDisk.Deflate

structure Inflation where
  bits : Bits
  written : Array UInt8 := #[]

def ranges : Nat → List Nat → List (Nat × Nat)
  | _, [] => []
  | first, width :: rest => (first, width) :: ranges (first + (2 ^ width)) rest

def lengthRanges : List (Nat × Nat) :=
  ranges 3 [0, 0, 0, 0, 0, 0, 0, 0, 1, 1, 1, 1, 2, 2, 2, 2, 3, 3, 3, 3, 4, 4, 4, 4, 5, 5, 5, 5] ++
    [(258, 0)]

def distanceRanges : List (Nat × Nat) :=
  ranges 1 [0, 0, 0, 0, 1, 1, 2, 2, 3, 3, 4, 4, 5, 5, 6, 6, 7, 7, 8, 8, 9, 9, 10, 10, 11, 11, 12,
    12, 13, 13]

def readIn? (ranges : List (Nat × Nat)) (place : Nat) (bits : Bits) : Option (Nat × Bits) := do
  let (first, width) ← ranges[place]?
  let (more, bits) ← bits.take? width
  some (first + more, bits)

def repeated? (distance : Nat) : Nat → Array UInt8 → Option (Array UInt8)
  | 0, written => some written
  | left + 1, written =>
    if distance = 0 ∨ written.size < distance then none
    else (written[written.size - distance]?).bind fun byte =>
      repeated? distance left (written.push byte)

namespace Inflation

def blockEnd : Nat := 256

def words? (bytes distances : Code) : Nat → Inflation → Option Inflation
  | 0, _ => none
  | bound + 1, ⟨bits, written⟩ => do
    let (word, bits) ← bytes.read? bits
    if word < blockEnd then words? bytes distances bound ⟨bits, written.push (UInt8.ofNat word)⟩
    else if word = blockEnd then some ⟨bits, written⟩
    else
      let (length, bits) ← readIn? lengthRanges (word - blockEnd - 1) bits
      let (place, bits) ← distances.read? bits
      let (distance, bits) ← readIn? distanceRanges place bits
      words? bytes distances bound ⟨bits, ← repeated? distance length written⟩

def plain? (state : Inflation) : Option Inflation := do
  let (count, bits) ← state.bits.align.take? 16
  let (turned, bits) ← bits.take? 16
  if count + turned ≠ 65535 then none
  else
    let (bytes, bits) ← bits.takeBytes? count
    some ⟨bits, state.written ++ bytes.toArray⟩

def fixedBytes : Code :=
  Code.ofLengths (List.replicate 144 8 ++ List.replicate 112 9 ++ List.replicate 24 7 ++
    List.replicate 8 8)

def fixedDistances : Code := Code.ofLengths (List.replicate 32 5)

def lengthOrder : List Nat :=
  [16, 17, 18, 0, 8, 7, 9, 6, 10, 5, 11, 4, 12, 3, 13, 2, 14, 1, 15]

def takeLengths? : Nat → Bits → Option (List Nat × Bits)
  | 0, bits => some ([], bits)
  | count + 1, bits => do
    let (length, bits) ← bits.take? 3
    let (lengths, bits) ← takeLengths? count bits
    some (length :: lengths, bits)

def lengthCode? (count : Nat) (bits : Bits) : Option (Code × Bits) := do
  let (given, bits) ← takeLengths? count bits
  let lengths := (List.range lengthOrder.length).map fun symbol =>
    (given[lengthOrder.idxOf symbol]?).getD 0
  let code := Code.ofLengths lengths
  if code.isComplete then some (code, bits) else none

/-- Reads lengths until there are so many, the last of those read so far first. A word may say to
repeat the last length, or to put in zeros. -/
def lengths? (code : Code) (count : Nat) : Nat → List Nat → Bits → Option (List Nat × Bits)
  | 0, _, _ => none
  | bound + 1, known, bits =>
    if known.length = count then some (known.reverse, bits)
    else if count < known.length then none
    else do
      let (word, bits) ← code.read? bits
      if word < 16 then lengths? code count bound (word :: known) bits
      else if word = 16 then
        let last ← known.head?
        let (more, bits) ← bits.take? 2
        lengths? code count bound (List.replicate (3 + more) last ++ known) bits
      else
        let (least, width) := if word = 17 then (3, 3) else (11, 7)
        let (more, bits) ← bits.take? width
        lengths? code count bound (List.replicate (least + more) 0 ++ known) bits

def codes? (bits : Bits) : Option (Code × Code × Bits) := do
  let (more, bits) ← bits.take? 5
  let (others, bits) ← bits.take? 5
  let (given, bits) ← bits.take? 4
  let bytes := 257 + more
  let distances := 1 + others
  let (code, bits) ← lengthCode? (4 + given) bits
  let (lengths, bits) ← lengths? code (bytes + distances) (bits.length + 1) [] bits
  let first := Code.ofLengths (lengths.take bytes)
  let second := Code.ofLengths (lengths.drop bytes)
  if bytes ≤ 286 ∧ distances ≤ 30 ∧ lengths[blockEnd]? ≠ some 0 ∧ first.isUsable ∧
      second.isUsable then
    some (first, second, bits)
  else none

def blocks? : Nat → Inflation → Option Inflation
  | 0, _ => none
  | bound + 1, ⟨bits, written⟩ => do
    let (last, bits) ← bits.take? 1
    let (form, bits) ← bits.take? 2
    let state ← match form with
      | 0 => plain? ⟨bits, written⟩
      | 1 => words? fixedBytes fixedDistances (bits.length + 1) ⟨bits, written⟩
      | 2 => (codes? bits).bind fun (bytes, distances, bits) =>
        words? bytes distances (bits.length + 1) ⟨bits, written⟩
      | _ => none
    if last = 1 then some state else blocks? bound state

end Inflation

end StatusPrompt.OnDisk.Deflate
