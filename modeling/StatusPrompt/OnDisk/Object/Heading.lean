import StatusPrompt.OnDisk.Object.Basic

/-!
The few bytes that stand before what is compressed by itself: a number that says what follows, in
three bits of the first byte, and a size, in the four bits below and in seven of each further byte.
-/

namespace StatusPrompt.OnDisk.Object

structure Heading where
  number : Nat
  size : Nat
  deriving DecidableEq, Repr

namespace Heading

def limit : Nat := 9

def modulus : Nat := 18446744073709551616

def size? : Nat → Nat → Nat → List UInt8 → Option (Nat × List UInt8)
  | 0, _, _, _ => none
  | _ + 1, _, _, [] => none
  | bound + 1, unit, size, byte :: rest =>
    let size := size + byte.toNat % 128 * unit
    if byte.toNat < 128 then some (size % modulus, rest) else size? bound (128 * unit) size rest

def read? : List UInt8 → Option (Heading × List UInt8)
  | [] => none
  | first :: rest => do
    let (size, rest) ← if first.toNat < 128 then some (first.toNat % 16, rest)
      else size? limit 16 (first.toNat % 16) rest
    some (⟨first.toNat / 16 % 8, size⟩, rest)

def kind? (heading : Heading) : Option Kind :=
  if heading.number = 0 then none else Kind.all[heading.number - 1]?

end Heading

end StatusPrompt.OnDisk.Object
