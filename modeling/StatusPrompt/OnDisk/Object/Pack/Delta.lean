import StatusPrompt.Text.Octets

/-!
Content that is written as its difference from a base: the sizes of both, and instructions, each of
which copies a stretch of the base or puts in bytes that follow it.
-/

namespace StatusPrompt.OnDisk.Object.Pack.Delta

def size? (moved size : UInt32) : List UInt8 → Option (Nat × List UInt8)
  | [] => none
  | byte :: rest =>
    let size := size ||| ((byte &&& 0x7F).toUInt32 <<< moved)
    if byte < 0x80 then some (size.toNat, rest) else size? (moved + 7) size rest

def number? : Nat → Nat → List UInt8 → Option (Nat × List UInt8)
  | 0, _, bytes => some (0, bytes)
  | count + 1, flags, bytes =>
    if flags % 2 = 0 then
      (number? count (flags / 2) bytes).map fun (above, rest) => (256 * above, rest)
    else match bytes with
      | [] => none
      | byte :: bytes =>
        (number? count (flags / 2) bytes).map fun (above, rest) =>
          (byte.toNat + 256 * above, rest)

def usualLength : Nat := 0x10000

def step? (base : Text) : List UInt8 → Option (Text × List UInt8)
  | [] => none
  | code :: rest =>
    if code < 0x80 then
      if code = 0 ∨ rest.length < code.toNat then none
      else some (Octets.ofBytes (rest.take code.toNat), rest.drop code.toNat)
    else do
      let (start, rest) ← number? 4 code.toNat rest
      let (given, rest) ← number? 3 (code.toNat / 16) rest
      let length := if given = 0 then usualLength else given
      if base.length < start + length then none
      else some ((base.drop start).take length, rest)

def run? (base : Text) : Nat → Nat → List UInt8 → Option Text
  | _, left, [] => if left = 0 then some [] else none
  | 0, _, _ :: _ => none
  | bound + 1, left, bytes => do
    let (added, rest) ← step? base bytes
    if left < added.length then none
    else (run? base bound (left - added.length) rest).map (added ++ ·)

def content? (base : Text) (bytes : List UInt8) : Option Text := do
  let (before, rest) ← size? 0 0 bytes
  let (after, rest) ← size? 0 0 rest
  if before = base.length then run? base rest.length after rest else none

end StatusPrompt.OnDisk.Object.Pack.Delta
