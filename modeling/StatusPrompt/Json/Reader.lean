import StatusPrompt.Json.Token

/-!
Reading a JSON value from its tokens. The containers that are still open form a stack; a value
that is complete goes to the innermost one, which its closing token completes in turn. The depth
of nesting is bounded by nothing but the text.
-/

namespace StatusPrompt.Json

/-- A container that is open, with what it holds so far, latest first. -/
inductive Frame where
  | array (items : List Value)
  /-- An object and the name of the member whose value comes next. -/
  | object (members : List (Option Text × Value)) (name : Option Text)

mutual

def readValue : List Frame → List Token → Option Value
  | stack, .null :: rest => close stack .null rest
  | stack, .boolean value :: rest => close stack (.boolean value) rest
  | stack, .number literal :: rest => close stack (.number literal) rest
  | stack, .string content :: rest => close stack (.string content) rest
  | stack, .openArray :: .closeArray :: rest => close stack (.array []) rest
  | stack, .openArray :: rest => readValue (.array [] :: stack) rest
  | stack, .openObject :: .closeObject :: rest => close stack (.object []) rest
  | stack, .openObject :: .string name :: .colon :: rest =>
    readValue (.object [] name :: stack) rest
  | _, _ => none

def close : List Frame → Value → List Token → Option Value
  | [], value, [] => some value
  | .array items :: stack, value, .comma :: rest =>
    readValue (.array (value :: items) :: stack) rest
  | .array items :: stack, value, .closeArray :: rest =>
    close stack (.array (value :: items).reverse) rest
  | .object members name :: stack, value, .comma :: .string next :: .colon :: rest =>
    readValue (.object ((name, value) :: members) next :: stack) rest
  | .object members name :: stack, value, .closeObject :: rest =>
    close stack (.object ((name, value) :: members).reverse) rest
  | _, _, _ => none

end

def read? (text : Text) : Option Value := (tokens? text).bind (readValue [])

end StatusPrompt.Json
