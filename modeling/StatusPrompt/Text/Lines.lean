import StatusPrompt.Text.Blank

/-!
Cutting a text at line feeds or at a separator. A carriage return directly before a line feed
belongs to the line end; one at the very end of the text belongs to its line.
-/

namespace StatusPrompt.Text

def lines : Text → List Text
  | [] => []
  | '\n' :: rest => [] :: lines rest
  | '\r' :: '\n' :: rest => [] :: lines rest
  | c :: rest => extend c (lines rest)

def fields (separator : Char) : Text → List Text
  | [] => [[]]
  | c :: rest =>
    if c = separator then [] :: fields separator rest else extend c (fields separator rest)

end StatusPrompt.Text
