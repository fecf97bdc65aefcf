import StatusPrompt.Text.Blank

/-!
Characters of ASCII by class, for formats that know no others: every other character is in no
class and has no lower-case form.
-/

namespace StatusPrompt.OnDisk.Ascii

def isSpace (c : Char) : Bool :=
  c == ' ' || c == '\t' || c == '\n' || c == '\r' || c == '\x0b' || c == '\x0c'

def isUpper (c : Char) : Bool := 'A' ≤ c && c ≤ 'Z'

def isLower (c : Char) : Bool := 'a' ≤ c && c ≤ 'z'

def isDigit (c : Char) : Bool := '0' ≤ c && c ≤ '9'

def isAlphanumeric (c : Char) : Bool := isUpper c || isLower c || isDigit c

def lower (c : Char) : Char := if isUpper c then Char.ofNat (c.toNat + 32) else c

def sameLetters : List Char → List Char → Bool
  | [], [] => true
  | c :: rest, d :: others => lower c == lower d && sameLetters rest others
  | _, _ => false

def upper (c : Char) : Char := if isLower c then Char.ofNat (c.toNat - 32) else c

def digitValue? (c : Char) : Option Nat :=
  if isDigit c then some (c.toNat - '0'.toNat)
  else if isLower c then some (c.toNat - 'a'.toNat + 10)
  else if isUpper c then some (c.toNat - 'A'.toNat + 10)
  else none

def isDigitBelow (base : Nat) (c : Char) : Bool :=
  match digitValue? c with
  | some value => value < base
  | none => false

def skipSpace (text : Text) : Text := text.dropWhile isSpace

def dropSpaceEnd (text : Text) : Text := (text.reverse.dropWhile isSpace).reverse

/-- The classes that have a name. -/
inductive Kind where
  | alphanumeric
  | letter
  | blank
  | control
  | digit
  | visible
  | lower
  | printable
  | punctuation
  | space
  | upper
  | hexadecimal
  deriving DecidableEq, Repr

namespace Kind

def names : List (Text × Kind) :=
  [("alnum".toList, .alphanumeric), ("alpha".toList, .letter), ("blank".toList, .blank),
    ("cntrl".toList, .control), ("digit".toList, .digit), ("graph".toList, .visible),
    ("lower".toList, .lower), ("print".toList, .printable), ("punct".toList, .punctuation),
    ("space".toList, .space), ("upper".toList, .upper), ("xdigit".toList, .hexadecimal)]

def ofName? (name : Text) : Option Kind := names.lookup name

def isVisible (c : Char) : Bool := '!' ≤ c && c ≤ '~'

def holds (c : Char) : Kind → Bool
  | .alphanumeric => isAlphanumeric c
  | .letter => isUpper c || isLower c
  | .blank => c == ' ' || c == '\t'
  | .control => c < ' ' || c == '\x7f'
  | .digit => isDigit c
  | .visible => isVisible c
  | .lower => isLower c
  | .printable => c == ' ' || isVisible c
  | .punctuation => isVisible c && !isAlphanumeric c
  | .space => isSpace c
  | .upper => isUpper c
  | .hexadecimal => isDigitBelow 16 c

end Kind

end StatusPrompt.OnDisk.Ascii
