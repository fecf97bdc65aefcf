import StatusPrompt.Json.Value
import StatusPrompt.Proofs.Text.Utf8

/-!
The grammar of JSON texts. It says what is a text of a value without saying how the text is read:
numbers are put together from their parts, a string from what spells each of its elements, and gaps
may stand wherever a token has ended. One value has many texts.
-/

namespace StatusPrompt.Json

def Gap (text : Text) : Prop := ∀ c ∈ text, c ∈ [' ', '\t', '\n', '\r']

instance : DecidablePred Gap := fun text => List.decidableBAll _ text

def Digits (text : Text) : Prop := text ≠ [] ∧ ∀ c ∈ text, '0' ≤ c ∧ c ≤ '9'

instance : DecidablePred Digits := fun text =>
  @instDecidableAnd _ _ _ (List.decidableBAll _ text)

/-- A whole number has no leading zero. -/
inductive WholePart : Text → Prop
  | zero : WholePart ['0']
  | digits (first : Char) (rest : Text) (leading : '1' ≤ first ∧ first ≤ '9')
      (digits : ∀ c ∈ rest, '0' ≤ c ∧ c ≤ '9') : WholePart (first :: rest)

inductive FractionPart : Text → Prop
  | none : FractionPart []
  | digits (text : Text) (digits : Digits text) : FractionPart ('.' :: text)

inductive ExponentPart : Text → Prop
  | none : ExponentPart []
  | digits (mark : Char) (sign text : Text) (marked : mark ∈ ['e', 'E'])
      (signed : sign ∈ [[], ['+'], ['-']]) (digits : Digits text) :
      ExponentPart (mark :: (sign ++ text))

def IsNumber (literal : Text) : Prop :=
  ∃ sign whole fraction exponent, literal = sign ++ (whole ++ (fraction ++ exponent)) ∧
    sign ∈ [[], ['-']] ∧ WholePart whole ∧ FractionPart fraction ∧ ExponentPart exponent

def shortEscapes : List (Char × Char) :=
  [('"', '"'), ('\\', '\\'), ('/', '/'), ('b', '\x08'), ('f', '\x0c'), ('n', '\n'), ('r', '\r'),
    ('t', '\t')]

def HexDigit (c : Char) (value : Nat) : Prop :=
  value < 16 ∧ (c = Nat.digitChar value ∨ c = (Nat.digitChar value).toUpper)

instance (c : Char) (value : Nat) : Decidable (HexDigit c value) :=
  inferInstanceAs (Decidable (_ ∧ _))

def Plain (text : Text) : Prop := ∀ c ∈ text, 0x20 ≤ c.toNat ∧ c ≠ '"' ∧ c ≠ '\\'

instance : DecidablePred Plain := fun text => List.decidableBAll _ text

/-- What spells one element of a string. -/
inductive UnitSpelling : Text → StringUnit → Prop
  | plain (c : Char) (plain : Plain [c]) : UnitSpelling [c] (.character c)
  | short (letter meant : Char) (escape : (letter, meant) ∈ shortEscapes) :
      UnitSpelling ['\\', letter] (.character meant)
  | hex (first second third fourth : Char) (a b c d : Nat) (one : HexDigit first a)
      (two : HexDigit second b) (three : HexDigit third c) (four : HexDigit fourth d) :
      UnitSpelling ['\\', 'u', first, second, third, fourth]
        (.unit (((a * 16 + b) * 16 + c) * 16 + d))

inductive BodySpelling : Text → List StringUnit → Prop
  | nil : BodySpelling [] []
  | cons (text body : Text) (unit : StringUnit) (units : List StringUnit)
      (first : UnitSpelling text unit) (more : BodySpelling body units) :
      BodySpelling (text ++ body) (unit :: units)

theorem BodySpelling.append {first second : Text} {units more : List StringUnit}
    (spelled : BodySpelling first units) (later : BodySpelling second more) :
    BodySpelling (first ++ second) (units ++ more) := by
  induction spelled with
  | nil => exact later
  | cons text body unit units opens _ ih =>
    rw [List.append_assoc]
    exact .cons text _ unit _ opens ih

theorem BodySpelling.characters (text : Text) (plain : Plain text) :
    BodySpelling text (text.map .character) := by
  induction text with
  | nil => exact .nil
  | cons c rest ih =>
    obtain ⟨first, later⟩ := List.forall_mem_cons.mp plain
    exact .cons [c] rest _ _ (.plain c (List.forall_mem_singleton.mpr first)) (ih later)

/-- The text that some elements stand for. A character beyond the first 65536 is given by two code
units, a high surrogate and a low one. -/
inductive Denotes : List StringUnit → Text → Prop
  | nil : Denotes [] []
  | character (c : Char) (units : List StringUnit) (text : Text) (more : Denotes units text) :
      Denotes (.character c :: units) (c :: text)
  | unit (c : Char) (units : List StringUnit) (text : Text) (more : Denotes units text) :
      Denotes (.unit c.toNat :: units) (c :: text)
  | pair (c : Char) (high low : Nat) (units : List StringUnit) (text : Text)
      (bounds : high < 0x400 ∧ low < 0x400) (code : c.toNat = 0x10000 + 0x400 * high + low)
      (more : Denotes units text) :
      Denotes (.unit (0xD800 + high) :: .unit (0xDC00 + low) :: units) (c :: text)

/-- A string literal and its text, which is missing if there is a surrogate without its partner. -/
def StringSpelling (literal : Text) (content : Option Text) : Prop :=
  ∃ body units, literal = '"' :: (body ++ ['"']) ∧ BodySpelling body units ∧
    ∀ text, content = some text ↔ Denotes units text

/-- What the grammar has texts for: a value, the items of an array that is not empty, and the
members of an object that is not empty. -/
inductive Phrase where
  | value (value : Value)
  | items (items : List Value)
  | members (members : List (Option Text × Value))

inductive Spelling : Phrase → Text → Prop
  | null : Spelling (.value .null) "null".toList
  | yes : Spelling (.value (.boolean true)) "true".toList
  | no : Spelling (.value (.boolean false)) "false".toList
  | number (literal : Text) (number : IsNumber literal) :
      Spelling (.value (.number literal)) literal
  | string (literal : Text) (content : Option Text) (spelled : StringSpelling literal content) :
      Spelling (.value (.string content)) literal
  | emptyArray (gap : Text) (blank : Gap gap) :
      Spelling (.value (.array [])) ('[' :: (gap ++ [']']))
  | array (items : List Value) (text : Text) (inside : Spelling (.items items) text) :
      Spelling (.value (.array items)) ('[' :: (text ++ [']']))
  | emptyObject (gap : Text) (blank : Gap gap) :
      Spelling (.value (.object [])) ('{' :: (gap ++ ['}']))
  | object (members : List (Option Text × Value)) (text : Text)
      (inside : Spelling (.members members) text) :
      Spelling (.value (.object members)) ('{' :: (text ++ ['}']))
  | lastItem (before after text : Text) (value : Value) (blank : Gap before ∧ Gap after)
      (spelled : Spelling (.value value) text) :
      Spelling (.items [value]) (before ++ (text ++ after))
  | item (before after text rest : Text) (value : Value) (items : List Value)
      (blank : Gap before ∧ Gap after) (spelled : Spelling (.value value) text)
      (more : Spelling (.items items) rest) :
      Spelling (.items (value :: items)) (before ++ (text ++ (after ++ ',' :: rest)))
  | lastMember (before behind inside after literal text : Text) (name : Option Text) (value : Value)
      (blank : Gap before ∧ Gap behind ∧ Gap inside ∧ Gap after)
      (named : StringSpelling literal name) (spelled : Spelling (.value value) text) :
      Spelling (.members [(name, value)])
        (before ++ (literal ++ (behind ++ ':' :: (inside ++ (text ++ after)))))
  | member (before behind inside after literal text rest : Text) (name : Option Text)
      (value : Value) (members : List (Option Text × Value))
      (blank : Gap before ∧ Gap behind ∧ Gap inside ∧ Gap after)
      (named : StringSpelling literal name) (spelled : Spelling (.value value) text)
      (more : Spelling (.members members) rest) :
      Spelling (.members ((name, value) :: members))
        (before ++ (literal ++ (behind ++ ':' :: (inside ++ (text ++ (after ++ ',' :: rest))))))

def Spells (text : Text) (value : Value) : Prop :=
  ∃ before body after, text = before ++ (body ++ after) ∧ Gap before ∧ Gap after ∧
    Spelling (.value value) body

end StatusPrompt.Json
