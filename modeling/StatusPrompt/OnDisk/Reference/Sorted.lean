import StatusPrompt.OnDisk.Reference.Basic

/-!
Looking up one name in a packed file that says of itself that it is sorted. The bytes are searched
by halves: the line around the middle is compared with the name that is wanted, and one of the
halves is left. What stands elsewhere in the file is not looked at, be it sorted or not.
-/

namespace StatusPrompt.OnDisk.Reference.Sorted

def mark : Text := "# pack-refs with:".toList

def isPromised (octets : Text) : Bool :=
  mark.isPrefixOf octets &&
    Text.contains " sorted ".toList ((octets.drop mark.length).takeWhile (· != '\n'))

def restOfLine (octets : Array Char) : Nat → Nat → Text
  | 0, _ => []
  | left + 1, position =>
    match octets[position]? with
    | some c => if c = '\n' then [] else c :: restOfLine octets left (position + 1)
    | none => []

/-- Where the lines begin that follow the comments, unless a comment is cut off. The number of
bytes bounds how many lines there are. -/
def start? (octets : Array Char) : Nat → Nat → Option Nat
  | 0, position => some position
  | bound + 1, position =>
    if octets[position]? = some '#' then
      let next := position + (restOfLine octets octets.size position).length + 1
      if octets.size < next then none else start? octets bound next
    else some position

def lineStart (octets : Array Char) (first : Nat) : Nat → Nat
  | 0 => first
  | 1 => if octets[first]? = some '\n' then first + 1 else first
  | offset + 2 =>
    if octets[first + offset + 1]? = some '\n' then
      if octets[first + offset + 2]? = some '^' then lineStart octets first offset
      else first + offset + 2
    else lineStart octets first (offset + 1)

def nextLine (octets : Array Char) : Nat → Nat → Nat
  | 0, position => position
  | left + 1, position =>
    if octets[position]? = some '\n' ∧ ¬(0 < left ∧ octets[position + 1]? = some '^') then
      position + 1
    else nextLine octets left (position + 1)

def leastLine : Nat := ObjectName.length + 3

def compare (octets : Array Char) (line : Nat) (wanted : Text) : Ordering :=
  if octets.size - line < leastLine then .lt
  else
    let name := restOfLine octets octets.size (line + ObjectName.length + 1)
    if name < wanted then .lt else if name = wanted then .eq else .gt

def target? (octets : Array Char) (line : Nat) : Option Target := do
  let (object, rest) ← ObjectName.take? (octets.toList.drop line)
  match rest.tail.dropWhile (· != '\n') with
  | [] => none
  | _ :: '^' :: after => (ObjectName.take? after).map fun (inner, _) => ⟨object, some inner⟩
  | _ :: _ => some { object }

def search (octets : Array Char) (wanted : Text) : Nat → Nat → Nat → Search Target
  | 0, _, _ => .missing
  | bound + 1, first, last =>
    if last ≤ first then .missing
    else
      let half := (last - first) / 2
      let line := lineStart octets first half
      match compare octets line wanted with
      | .lt =>
        search octets wanted bound (nextLine octets (last - (first + half)) (first + half)) last
      | .gt => search octets wanted bound first line
      | .eq => .ofRead (target? octets line)

def find (octets : Array Char) (wanted : Text) : Search Target :=
  match start? octets octets.size 0 with
  | none => .failed
  | some first => search octets wanted octets.size first octets.size

end StatusPrompt.OnDisk.Reference.Sorted
