import StatusPrompt.Style

/-!
The look of a prompt: its glyphs and whether it is painted.
-/

namespace StatusPrompt

structure Glyphs where
  branch : Text := ['\ue0a0']
  modified : Text := ['Δ']
  dirty : Text := ['✘']
  clean : Text := ['✔']
  untracked : Text := ['?']
  unmerged : Text := ['‼']
  ahead : Text := ['↑']
  behind : Text := ['↓']
  stash : Text := ['⚑']
  deriving DecidableEq, Repr

structure Appearance where
  color : Bool := true
  glyphs : Glyphs := {}
  deriving DecidableEq, Repr

def Appearance.paint (look : Appearance) (style : Style) (text : Text) : Text :=
  style.paint look.color text

end StatusPrompt
