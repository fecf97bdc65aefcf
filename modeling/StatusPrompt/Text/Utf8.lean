import StatusPrompt.Text.Blank

/-!
Decoding bytes as UTF-8. One scan gives a unit for every well-formed character and for every
maximal ill-formed stretch; the strict reading refuses the latter and the lenient one shows a
replacement character for each.
-/

namespace StatusPrompt.Utf8

/-- A character that has begun: the bits so far, how many bytes follow the next one, and the
range that the next byte must lie in. The range is narrower than that of a continuation byte
where a longer form than needed, a surrogate or a value past the last character would begin. -/
structure Pending where
  bits : Nat
  after : Nat
  lowest : Nat
  highest : Nat

inductive Opening where
  | complete (character : Option Char)
  | pending (begun : Pending)

def opening (byte : Nat) : Opening :=
  if byte < 0x80 then .complete (some (Char.ofNat byte))
  else if 0xC2 ≤ byte ∧ byte ≤ 0xDF then .pending ⟨byte - 0xC0, 0, 0x80, 0xBF⟩
  else if byte = 0xE0 then .pending ⟨0, 1, 0xA0, 0xBF⟩
  else if byte = 0xED then .pending ⟨0xD, 1, 0x80, 0x9F⟩
  else if 0xE1 ≤ byte ∧ byte ≤ 0xEF then .pending ⟨byte - 0xE0, 1, 0x80, 0xBF⟩
  else if byte = 0xF0 then .pending ⟨0, 2, 0x90, 0xBF⟩
  else if byte = 0xF4 then .pending ⟨4, 2, 0x80, 0x8F⟩
  else if 0xF1 ≤ byte ∧ byte ≤ 0xF3 then .pending ⟨byte - 0xF0, 2, 0x80, 0xBF⟩
  else .complete none

def units : Option Pending → List UInt8 → List (Option Char)
  | none, [] => []
  | some _, [] => [none]
  | none, byte :: rest =>
    match opening byte.toNat with
    | .complete unit => unit :: units none rest
    | .pending begun => units (some begun) rest
  | some begun, byte :: rest =>
    if begun.lowest ≤ byte.toNat ∧ byte.toNat ≤ begun.highest then
      let bits := 64 * begun.bits + byte.toNat % 64
      match begun.after with
      | 0 => some (Char.ofNat bits) :: units none rest
      | after + 1 => units (some ⟨bits, after, 0x80, 0xBF⟩) rest
    else
      none :: match opening byte.toNat with
        | .complete unit => unit :: units none rest
        | .pending next => units (some next) rest

def decode? (bytes : List UInt8) : Option Text := (units none bytes).mapM id

def decodeLenient (bytes : List UInt8) : Text :=
  (units none bytes).map (Option.getD · '\uFFFD')

end StatusPrompt.Utf8
