import StatusPrompt.Text.Blank

/-!
JSON values as a settings file holds them. Members of an object keep their order and may repeat
a name. A string whose escapes do not pair up to characters is a value like any other, but it
has no text.
-/

namespace StatusPrompt.Json

inductive Value where
  | null
  | boolean (value : Bool)
  /-- A number by its literal, since no setting is a number. -/
  | number (literal : Text)
  | string (content : Option Text)
  | array (items : List Value)
  | object (members : List (Option Text × Value))

/-- One element of a string literal: a character, or a code unit given by its number. -/
inductive StringUnit where
  | character (c : Char)
  | unit (code : Nat)
  deriving DecidableEq, Repr

def isHighSurrogate (code : Nat) : Bool := 0xD800 ≤ code && code < 0xDC00

def isLowSurrogate (code : Nat) : Bool := 0xDC00 ≤ code && code < 0xE000

def surrogatePair (high low : Nat) : Char :=
  Char.ofNat (0x10000 + 0x400 * (high - 0xD800) + (low - 0xDC00))

def textOf? : List StringUnit → Option Text
  | [] => some []
  | .character c :: rest => (textOf? rest).map (c :: ·)
  | .unit high :: .unit low :: rest =>
    if isHighSurrogate high then
      if isLowSurrogate low then (textOf? rest).map (surrogatePair high low :: ·) else none
    else if isLowSurrogate high then none
    else (textOf? (.unit low :: rest)).map (Char.ofNat high :: ·)
  | .unit code :: rest =>
    if isHighSurrogate code || isLowSurrogate code then none
    else (textOf? rest).map (Char.ofNat code :: ·)

end StatusPrompt.Json
