import StatusPrompt.Text.Blank

/-!
Unsigned decimal numerals. Reading allows one plus sign and leading zeros and refuses a value
above the limit of the counter it is for; writing uses the shortest form.
-/

namespace StatusPrompt.Numeral

def countLimit : Nat := 4294967295

def totalLimit : Nat := 18446744073709551615

def isDigit (c : Char) : Bool := '0' ≤ c && c ≤ '9'

def digitValue (c : Char) : Nat := c.toNat - '0'.toNat

def ofDigits (digits : Text) : Nat :=
  digits.foldl (fun value c => 10 * value + digitValue c) 0

def dropPlus : Text → Text
  | '+' :: rest => rest
  | text => text

/-- A numeral is at least one digit after an optional plus sign, with a value up to `limit`. -/
def read? (limit : Nat) (text : Text) : Option Nat :=
  let digits := dropPlus text
  if digits.isEmpty || !digits.all isDigit then none
  else if ofDigits digits ≤ limit then some (ofDigits digits) else none

def write (value : Nat) : Text := Nat.toDigits 10 value

end StatusPrompt.Numeral
