import StatusPrompt.OnDisk.Ascii

/-!
Signed numbers at the front of a text. Blanks and one sign may stand before the digits, and what
follows the digits is left over.
-/

namespace StatusPrompt.OnDisk.Integer

def signOf : Text → Int × Text
  | '-' :: rest => (-1, rest)
  | '+' :: rest => (1, rest)
  | text => (1, text)

def ofDigits (base : Nat) (digits : Text) : Nat :=
  digits.foldl (fun value c => base * value + (Ascii.digitValue? c).getD 0) 0

def limit : Int := 9223372036854775807

def takeDigits? (sign : Int) (base : Nat) (text : Text) : Option (Int × Text) :=
  let digits := text.takeWhile (Ascii.isDigitBelow base)
  let value := sign * (ofDigits base digits : Int)
  if digits = [] ∨ value < -limit - 1 ∨ limit < value then none
  else some (value, text.drop digits.length)

def take? (base : Nat) (text : Text) : Option (Int × Text) :=
  let (sign, unsigned) := signOf (Ascii.skipSpace text)
  takeDigits? sign base unsigned

end StatusPrompt.OnDisk.Integer
