import StatusPrompt.Text.Blank

/-!
The SHA-1 digest of a list of bytes. The padded bytes are taken as words, 16 to a block; each block
is stirred into five words in 80 rounds.
-/

namespace StatusPrompt.OnDisk.Sha1

structure State where
  a : UInt32
  b : UInt32
  c : UInt32
  d : UInt32
  e : UInt32
  deriving DecidableEq, Repr

def initial : State := ⟨0x67452301, 0xEFCDAB89, 0x98BADCFE, 0x10325476, 0xC3D2E1F0⟩

def rotate (amount word : UInt32) : UInt32 := (word <<< amount) ||| (word >>> (32 - amount))

def toBytes : Nat → Nat → List UInt8
  | 0, _ => []
  | width + 1, value => toBytes width (value / 256) ++ [UInt8.ofNat value]

/-- A list that ends a block: a single bit, zeros, and the number of bits before them. -/
def padding (length : Nat) : List UInt8 :=
  0x80 :: List.replicate ((119 - length % 64) % 64) 0 ++ toBytes 8 (8 * length)

def word (a b c d : UInt8) : UInt32 :=
  (a.toUInt32 <<< 24) ||| (b.toUInt32 <<< 16) ||| (c.toUInt32 <<< 8) ||| d.toUInt32

def words : List UInt8 → List UInt32
  | a :: b :: c :: d :: rest => word a b c d :: words rest
  | _ => []

def mix (round : Nat) (b c d : UInt32) : UInt32 :=
  if round < 20 then ((b &&& c) ||| (~~~b &&& d)) + 0x5A827999
  else if round < 40 then (b ^^^ c ^^^ d) + 0x6ED9EBA1
  else if round < 60 then ((b &&& c) ||| (b &&& d) ||| (c &&& d)) + 0x8F1BBCDC
  else (b ^^^ c ^^^ d) + 0xCA62C1D6

def following (window : List UInt32) : UInt32 :=
  match window with
  | [w0, _, w2, _, _, _, _, _, w8, _, _, _, _, w13, _, _] => rotate 1 (w0 ^^^ w2 ^^^ w8 ^^^ w13)
  | _ => 0

def rounds : Nat → List UInt32 → State → State
  | left + 1, next :: window, ⟨a, b, c, d, e⟩ =>
    rounds left (window ++ [following (next :: window)])
      ⟨rotate 5 a + mix (79 - left) b c d + e + next, a, rotate 30 b, c, d⟩
  | _, _, state => state

def block (state : State) (window : List UInt32) : State :=
  let stirred := rounds 80 window state
  ⟨state.a + stirred.a, state.b + stirred.b, state.c + stirred.c, state.d + stirred.d,
    state.e + stirred.e⟩

def blocks : Nat → List UInt32 → State → State
  | 0, _, state => state
  | left + 1, window, state => blocks left (window.drop 16) (block state (window.take 16))

def ofBytes (bytes : List UInt8) : List UInt8 :=
  let padded := words (bytes ++ padding bytes.length)
  let state := blocks (padded.length / 16) padded initial
  [state.a, state.b, state.c, state.d, state.e].flatMap fun word => toBytes 4 word.toNat

end StatusPrompt.OnDisk.Sha1
