import StatusPrompt.OnDisk.Deflate.Stream
import StatusPrompt.OnDisk.Object.Heading
import StatusPrompt.OnDisk.Integer

/-!
The file that keeps one object: the kind, the size and the content, compressed together. In an
older form the kind and the size stand before the compressed content, as a few bits of the first
bytes.
-/

namespace StatusPrompt.OnDisk.Object.Loose

def headLimit : Nat := 64

def fillLimit : Nat := 4194304

def kindOf? (text : Text) : Option Kind := Kind.all.find? fun kind => kind.word.isPrefixOf text

/-- Content of a certain size. Zero bytes fill up what is too short. Of what is too long the size
is taken if it ends among the bytes that have been looked at. -/
def fitted? (size seen : Nat) (content : Text) : Option Text :=
  let missing := size - content.length
  if size < content.length then if size < seen then some (content.take size) else none
  else if missing ≤ fillLimit then some (content ++ List.replicate missing '\x00')
  else none

def ofOctets? (octets : Text) : Option Raw := do
  let head := octets.take headLimit
  let word := head.takeWhile (· != ' ')
  let size := (head.drop (word.length + 1)).takeWhile (· != '\x00')
  let start := word.length + 1 + size.length + 1
  let kind ← kindOf? word
  let (number, _) ← Integer.take? 10 size
  if head.length < start ∨ number < 0 then none
  else
    let content ← fitted? number.toNat (head.length - start) (octets.drop start)
    some ⟨kind, content⟩

def ofOlder? (bytes : List UInt8) : Option Raw := do
  let (heading, rest) ← Heading.read? bytes
  let kind ← heading.kind?
  let held ← Deflate.Stream.read? rest
  let content := Octets.ofBytes held ++ ['\x00']
  if heading.size ≤ content.length then some ⟨kind, content.take heading.size⟩ else none

def ofBytes? (bytes : List UInt8) : Option Raw :=
  match bytes with
  | method :: flags :: _ =>
    if Deflate.Stream.isHead method flags then
      (Deflate.Stream.read? bytes).bind fun held => ofOctets? (Octets.ofBytes held)
    else ofOlder? bytes
  | _ => ofOlder? bytes

def place (directory : Place) (name : ObjectName) : Place :=
  directory ++ [name.take 2, name.drop 2]

end StatusPrompt.OnDisk.Object.Loose
