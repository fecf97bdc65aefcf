import StatusPrompt.OnDisk.Index.Entry
import StatusPrompt.OnDisk.Integer

/-!
The extensions that may follow the entries of an index. Each has a name of four bytes and a size.
One whose name begins with a capital may be passed over, but three of these have to be well formed:
the cache of trees, the conflicts that were resolved, and the names of what was in conflict.
-/

namespace StatusPrompt.OnDisk.Index.Extension

def afterZero? (octets : Text) : Option (Text × Text) :=
  let text := Octets.untilZero octets
  match octets.drop text.length with
  | [] => none
  | _ :: rest => some (text, rest)

def count? (octets : Text) : Option (Int × Text) :=
  (Integer.take? 10 octets).filter fun (value, _) => -2147483648 ≤ value ∧ value ≤ 2147483647

def tree? (octets : Text) : Option (Nat × Text) := do
  let (_, rest) ← afterZero? octets
  let (entries, rest) ← count? rest
  let rest ← match rest with
    | ' ' :: c :: more => some (c :: more)
    | _ => none
  let (inner, rest) ← count? rest
  let rest ← match rest with
    | '\n' :: more => some more
    | _ => none
  if inner < 0 then none
  else if entries < 0 then some (inner.toNat, rest)
  else if rest.length < digestSize then none
  else some (inner.toNat, rest.drop digestSize)

/-- Whether so many trees, each before the ones in it, take up all the bytes. Every tree takes some,
so the number of bytes bounds the steps. -/
def areTrees : Nat → Nat → Text → Bool
  | _, 0, octets => octets.isEmpty
  | 0, _ + 1, _ => false
  | bound + 1, left + 1, octets =>
    match tree? octets with
    | some (inner, rest) => areTrees bound (left + inner) rest
    | none => false

def mode? (octets : Text) : Option (Nat × Text) := do
  let (text, rest) ← afterZero? octets
  let (value, after) ← Integer.take? 8 text
  if after = [] ∧ rest ≠ [] ∧ 0 ≤ value ∧ value ≤ 4294967295 then some (value.toNat, rest)
  else none

def afterResolved? (octets : Text) : Option Text := do
  let (_, rest) ← afterZero? octets
  let (first, rest) ← mode? rest
  let (second, rest) ← mode? rest
  let (third, rest) ← mode? rest
  let digests := ([first, second, third].filter (· ≠ 0)).length * digestSize
  if rest.length < digests then none else some (rest.drop digests)

def areResolved : Nat → Text → Bool
  | _, [] => true
  | 0, _ :: _ => false
  | bound + 1, octets =>
    match afterResolved? octets with
    | some rest => areResolved bound rest
    | none => false

def areNames (octets : Text) : Bool :=
  let zeros := octets.count '\x00'
  zeros % 3 = 0 && octets.getLast?.all (· == '\x00')

def isWellFormed (name octets : Text) : Bool :=
  if name = "TREE".toList then areTrees (octets.length + 1) 1 octets
  else if name = "REUC".toList then areResolved octets.length octets
  else if name = "NAME".toList then areNames octets
  else name.head?.any Ascii.isUpper

def areAll : Nat → Text → Bool
  | _, [] => true
  | 0, _ :: _ => false
  | bound + 1, octets =>
    let size := Octets.number ((octets.drop 4).take 4)
    let rest := octets.drop 8
    8 ≤ octets.length && size ≤ rest.length && isWellFormed (octets.take 4) (rest.take size) &&
      areAll bound (rest.drop size)

end StatusPrompt.OnDisk.Index.Extension
