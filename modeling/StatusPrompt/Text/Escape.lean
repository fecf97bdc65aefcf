import StatusPrompt.Text.Blank

/-!
Terminal escape sequences. A sequence opens with ESC and `[` and runs up to and including the
first letter; stripping removes every sequence, also one that the text ends in.
-/

namespace StatusPrompt.Escape

def esc : Char := '\x1b'

def setting (codes : Text) : Text := esc :: '[' :: (codes ++ ['m'])

def reset : Text := [esc, '[', '0', 'm']

def isLetter (c : Char) : Bool := ('a' ≤ c && c ≤ 'z') || ('A' ≤ c && c ≤ 'Z')

/-- Removes sequences, where `inside` says that a sequence has been opened before `text`. The
opening bracket needs no state of its own, since it is no letter and so stays inside. -/
def stripFrom : Bool → Text → Text
  | _, [] => []
  | true, c :: rest => stripFrom (!isLetter c) rest
  | false, c :: rest =>
    if c = esc ∧ rest.head? = some '[' then stripFrom true rest else c :: stripFrom false rest

def strip (text : Text) : Text := stripFrom false text

def reopen (codes : Text) : Text → Text
  | [] => []
  | '\x1b' :: '[' :: '0' :: 'm' :: rest => reset ++ setting codes ++ reopen codes rest
  | c :: rest => c :: reopen codes rest

end StatusPrompt.Escape
