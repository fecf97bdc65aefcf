import StatusPrompt.Text.Utf8

/-!
Bytes as characters: the character with a byte's number stands for the byte. A format whose signs
are all ASCII can then be read as a text, whether or not its bytes are the form of any text.
-/

namespace StatusPrompt.Octets

def octet (byte : Nat) : Char := Char.ofNat byte

def ofBytes (bytes : List UInt8) : Text := bytes.map fun byte => octet byte.toNat

def toBytes (octets : Text) : List UInt8 := octets.map fun c => UInt8.ofNat c.toNat

def ofChar (c : Char) : Text :=
  let code := c.toNat
  let more : Nat → Char := fun bits => octet (0x80 + bits % 0x40)
  if code < 0x80 then [c]
  else if code < 0x800 then [octet (0xC0 + code / 0x40), more code]
  else if code < 0x10000 then [octet (0xE0 + code / 0x1000), more (code / 0x40), more code]
  else [octet (0xF0 + code / 0x40000), more (code / 0x1000), more (code / 0x40), more code]

def ofText (text : Text) : Text := text.flatMap ofChar

def toText? (octets : Text) : Option Text := Utf8.decode? (toBytes octets)

/-- The text of the bytes, with a replacement character for what is ill-formed. -/
def toText (octets : Text) : Text := Utf8.decodeLenient (toBytes octets)

def number (octets : Text) : Nat := octets.foldl (fun value c => 256 * value + c.toNat) 0

def untilZero (octets : Text) : Text := octets.takeWhile (· != '\x00')

end StatusPrompt.Octets
