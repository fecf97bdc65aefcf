import StatusPrompt.Snapshot.Basic
import StatusPrompt.Text.Escape

/-!
The palette. Every painted piece of a prompt has a style named for what it shows; a style is a
list of display codes, and painting wraps a text in them and returns to the default after it.
-/

namespace StatusPrompt

inductive Style where
  | health (state : Health)
  | commit (state : Health)
  | ahead
  | behind
  | untracked
  | unmerged
  | modified
  | stash
  | insertions
  | deletions
  /-- The lead of an error message. -/
  | complaint
  deriving DecidableEq, Repr

namespace Style

def healthCode : Health → Text
  | .clean => ['3', '2']
  | .stagedOnly => ['3', '3']
  | .dirty => ['3', '1']

def codes : Style → Text
  | .health state => healthCode state
  | .commit state => '3' :: ';' :: healthCode state
  | .ahead => "2;43;30".toList
  | .behind => "2;41;37".toList
  | .untracked => ['2']
  | .unmerged => ['3', '6']
  | .modified => ['3', '4']
  | .stash => ['3', '5']
  | .insertions => ['3', '2']
  | .deletions => ['3', '1']
  | .complaint => ['3', '1']

/-- An empty text stays empty, so that nothing to show leaves no trace. -/
def paint (color : Bool) (style : Style) (text : Text) : Text :=
  if color = false ∨ text = [] then text
  else Escape.setting style.codes ++ Escape.reopen style.codes text ++ Escape.reset

end Style

end StatusPrompt
