import StatusPrompt.Json.Value
import StatusPrompt.Text.Numeral

/-!
The tokens of a JSON text. The scanner takes one character at a time; its state is the part of a
token that has been read. A number ends where a character can no longer belong to it, so that
character is read once more as the start of what follows.
-/

namespace StatusPrompt.Json

inductive Token where
  | openArray
  | closeArray
  | openObject
  | closeObject
  | comma
  | colon
  | null
  | boolean (value : Bool)
  | number (literal : Text)
  | string (content : Option Text)
  deriving DecidableEq, Repr

def isGap (c : Char) : Bool := c == ' ' || c == '\t' || c == '\n' || c == '\r'

inductive NumberPhase where
  | minus
  | zero
  | whole
  | point
  | fraction
  | exponent
  | exponentSign
  | exponentDigits
  deriving DecidableEq, Repr

namespace NumberPhase

def mayEnd : NumberPhase → Bool
  | zero | whole | fraction | exponentDigits => true
  | minus | point | exponent | exponentSign => false

def afterWhole (c : Char) : Option NumberPhase :=
  if c = '.' then some point else if c = 'e' ∨ c = 'E' then some exponent else none

/-- The phase after one more character, if it belongs to the number. No digit follows a leading
zero. -/
def next (phase : NumberPhase) (c : Char) : Option NumberPhase :=
  match phase with
  | minus => if c = '0' then some zero else if Numeral.isDigit c then some whole else none
  | zero => afterWhole c
  | whole => if Numeral.isDigit c then some whole else afterWhole c
  | point => if Numeral.isDigit c then some fraction else none
  | fraction =>
    if Numeral.isDigit c then some fraction
    else if c = 'e' ∨ c = 'E' then some exponent else none
  | exponent =>
    if Numeral.isDigit c then some exponentDigits
    else if c = '+' ∨ c = '-' then some exponentSign else none
  | exponentSign => if Numeral.isDigit c then some exponentDigits else none
  | exponentDigits => if Numeral.isDigit c then some exponentDigits else none

end NumberPhase

/-- The part of a token that has been read. Lists hold the latest element first. -/
inductive Scan where
  | between
  | word (expected : Text) (token : Token)
  | number (phase : NumberPhase) (literal : List Char)
  | string (units : List StringUnit)
  | escaped (units : List StringUnit)
  | hex (digits code : Nat) (units : List StringUnit)
  deriving DecidableEq, Repr

def escapedBy? : Char → Option Char
  | '"' => some '"'
  | '\\' => some '\\'
  | '/' => some '/'
  | 'b' => some '\x08'
  | 'f' => some '\x0c'
  | 'n' => some '\n'
  | 'r' => some '\r'
  | 't' => some '\t'
  | _ => none

def hexValue? (c : Char) : Option Nat :=
  if Numeral.isDigit c then some (c.toNat - '0'.toNat)
  else if 'a' ≤ c ∧ c ≤ 'f' then some (c.toNat - 'a'.toNat + 10)
  else if 'A' ≤ c ∧ c ≤ 'F' then some (c.toNat - 'A'.toNat + 10)
  else none

def Scan.opening (c : Char) : Option (Scan × List Token) :=
  match c with
  | '[' => some (between, [.openArray])
  | ']' => some (between, [.closeArray])
  | '{' => some (between, [.openObject])
  | '}' => some (between, [.closeObject])
  | ',' => some (between, [.comma])
  | ':' => some (between, [.colon])
  | '"' => some (string [], [])
  | 'n' => some (word ['u', 'l', 'l'] .null, [])
  | 't' => some (word ['r', 'u', 'e'] (.boolean true), [])
  | 'f' => some (word ['a', 'l', 's', 'e'] (.boolean false), [])
  | '-' => some (number .minus ['-'], [])
  | '0' => some (number .zero ['0'], [])
  | _ =>
    if isGap c then some (between, [])
    else if Numeral.isDigit c then some (number .whole [c], [])
    else none

def Scan.step : Scan → Char → Option (Scan × List Token)
  | between, c => opening c
  | word expected token, c =>
    match expected with
    | [] => none
    | [last] => if c = last then some (between, [token]) else none
    | letter :: more => if c = letter then some (word more token, []) else none
  | number phase literal, c =>
    match phase.next c with
    | some later => some (number later (c :: literal), [])
    | none =>
      if phase.mayEnd then
        (opening c).map fun (state, tokens) => (state, .number literal.reverse :: tokens)
      else none
  | string units, c =>
    if c = '"' then some (between, [.string (textOf? units.reverse)])
    else if c = '\\' then some (escaped units, [])
    else if c.toNat < 0x20 then none
    else some (string (.character c :: units), [])
  | escaped units, c =>
    if c = 'u' then some (hex 0 0 units, [])
    else (escapedBy? c).map fun meant => (string (.character meant :: units), [])
  | hex digits code units, c =>
    (hexValue? c).map fun value =>
      let longer := 16 * code + value
      if digits = 3 then (string (.unit longer :: units), [])
      else (hex (digits + 1) longer units, [])

def Scan.finish : Scan → Option (List Token)
  | between => some []
  | number phase literal => if phase.mayEnd then some [.number literal.reverse] else none
  | _ => none

def Scan.run : Scan → Text → Option (List Token)
  | state, [] => state.finish
  | state, c :: rest =>
    match state.step c with
    | none => none
    | some (next, tokens) => (run next rest).map (tokens ++ ·)

def tokens? (text : Text) : Option (List Token) := Scan.run .between text

end StatusPrompt.Json
