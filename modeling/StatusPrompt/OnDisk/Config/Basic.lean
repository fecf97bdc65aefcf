import StatusPrompt.OnDisk.Integer
import StatusPrompt.Text.Octets

/-!
The variables of a configuration and what their values mean. Names and values are kept byte by
byte, since a file may hold what is the form of no text.
-/

namespace StatusPrompt.OnDisk

abbrev Config := List (Text × Option Text)

namespace Config

def lookup (config : Config) (name : Text) : Option (Option Text) :=
  (config.find? fun assigned => assigned.1 == name).map Prod.snd

def unit? : Text → Option Int
  | [] => some 1
  | [letter] =>
    if Ascii.lower letter = 'k' then some 1024
    else if Ascii.lower letter = 'm' then some 1048576
    else if Ascii.lower letter = 'g' then some 1073741824
    else none
  | _ => none

def baseOf : Text → Nat × Text
  | '0' :: mark :: c :: rest =>
    if Ascii.lower mark = 'x' then (16, c :: rest) else (8, '0' :: mark :: c :: rest)
  | '0' :: rest => (8, '0' :: rest)
  | text => (10, text)

/-- A number after blanks and a sign, in base 16 after `0x`, in base 8 after another `0` and else
in base 10, with a unit. It fits in 64 bits without the unit, and is cut to 64 bits with it. -/
def integer? (text : Text) : Option Int := do
  let (sign, unsigned) := Integer.signOf (Ascii.skipSpace text)
  let (base, written) := baseOf unsigned
  let (value, rest) ← Integer.takeDigits? sign base written
  let unit ← unit? rest
  some (Int.bmod (value * unit) 18446744073709551616)

def shortInteger? (text : Text) : Option Int :=
  (integer? text).filter fun value => -2147483648 ≤ value ∧ value ≤ 2147483647

def truth? : Option Text → Option Bool
  | none => some true
  | some text =>
    let word := text.map Ascii.lower
    if word = "true".toList ∨ word = "yes".toList ∨ word = "on".toList then some true
    else if word = [] ∨ word = "false".toList ∨ word = "no".toList ∨ word = "off".toList then
      some false
    else (shortInteger? text).map (· != 0)

def isOneOf (words : List Text) (truths : List Bool) (value : Option Text) : Bool :=
  (truth? value).any truths.contains ||
    value.any fun text => words.contains (text.map Ascii.lower)

def flag? (config : Config) (name : Text) : Option Bool :=
  match config.lookup name with
  | none => some false
  | some value => truth? value

end Config

end StatusPrompt.OnDisk
