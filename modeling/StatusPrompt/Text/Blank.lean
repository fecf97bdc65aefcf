/-!
Text is a list of characters throughout, so that every reader is a recursion on what is left
to read. This module fixes the blank characters and the two views of a text that ignore how
wide its gaps are: the list of its words, and the collapsed form with single spaces.
-/

namespace StatusPrompt

abbrev Text := List Char

def isBlank (c : Char) : Bool :=
  let code := c.toNat
  (0x09 ≤ code && code ≤ 0x0D) || code == 0x20 || code == 0x85 || code == 0xA0 ||
    code == 0x1680 || (0x2000 ≤ code && code ≤ 0x200A) || code == 0x2028 || code == 0x2029 ||
    code == 0x202F || code == 0x205F || code == 0x3000

namespace Text

def extend (c : Char) : List Text → List Text
  | [] => [[c]]
  | piece :: pieces => (c :: piece) :: pieces

/-- The maximal runs without a blank, in order. A character opens a word of its own exactly
when a blank or the end follows it; otherwise it belongs to the word that follows. -/
def words : Text → List Text
  | [] => []
  | c :: rest =>
    if isBlank c then words rest
    else match rest with
      | [] => [[c]]
      | next :: _ => if isBlank next then [c] :: words rest else extend c (words rest)

def joined (separator : Text) : List Text → Text
  | [] => []
  | [word] => word
  | word :: more => word ++ separator ++ joined separator more

/-- No blank at either end, and a single space for every run of blanks inside. -/
def collapse (text : Text) : Text := joined [' '] text.words

def trimStart (text : Text) : Text := text.dropWhile isBlank

def trimEnd (text : Text) : Text := (text.reverse.dropWhile isBlank).reverse

def trim (text : Text) : Text := trimEnd (trimStart text)

def isAllBlank (text : Text) : Bool := text.all isBlank

def before? (mark : Char) : Text → Option Text
  | [] => none
  | c :: rest => if c = mark then some [] else (before? mark rest).map (c :: ·)

def contains (part : Text) : Text → Bool
  | [] => part.isEmpty
  | c :: rest => part.isPrefixOf (c :: rest) || contains part rest

end Text

end StatusPrompt
