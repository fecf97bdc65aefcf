import StatusPrompt.Glyphs
import StatusPrompt.Text.Numeral

/-!
Format strings. A percent sign and the character after it are a directive; every other character
stands for itself, and so does a percent sign at the very end. What a directive shows is never
read as a format again. The blanks of the finished text are collapsed, so a directive with
nothing to show leaves no gap.
-/

namespace StatusPrompt

inductive Directive where
  | branchGlyph
  | systemName
  | branch
  | remote
  | commit
  | drift
  | untracked
  | unstaged
  | staged
  | lines
  | stash
  /-- Any other character after a percent sign, the percent sign included, shows itself. -/
  | character (c : Char)
  deriving DecidableEq, Repr

namespace Directive

def ofLetter : Char → Directive
  | 'g' => branchGlyph
  | 'n' => systemName
  | 'b' => branch
  | 'r' => remote
  | 'c' => commit
  | 'a' => drift
  | 'u' => untracked
  | 'm' => unstaged
  | 's' => staged
  | 'd' => lines
  | 't' => stash
  | c => character c

def shownIf (shown : Bool) (look : Appearance) (style : Style) (text : Text) : Text :=
  if shown then look.paint style text else []

/-- A glyph and a count, for a count that is not zero. -/
def counted (look : Appearance) (style : Style) (glyph : Text) (count : Nat) : Text :=
  shownIf (0 < count) look style (glyph ++ Numeral.write count)

/-- Inserted and deleted lines, with a slash between them if there are both. -/
def lineStats (look : Appearance) (insertions deletions : Nat) : Text :=
  counted look .insertions ['+'] insertions ++
    (if 0 < insertions ∧ 0 < deletions then ['/'] else []) ++
    counted look .deletions ['-'] deletions

def shows (look : Appearance) (snapshot : Snapshot) : Directive → Text
  | branchGlyph => look.glyphs.branch
  | systemName => "git".toList
  | branch => look.paint (.health snapshot.health) snapshot.branch
  | remote => snapshot.remote
  | commit => look.paint (.commit snapshot.health) snapshot.shortCommit
  | drift =>
    counted look .ahead look.glyphs.ahead snapshot.ahead.toNat ++
      counted look .behind look.glyphs.behind snapshot.behind.toNat
  | untracked => shownIf (0 < snapshot.untracked) look .untracked look.glyphs.untracked
  | unstaged => counted look (.health .dirty) look.glyphs.modified snapshot.unstaged.total.toNat
  | staged => counted look (.health .stagedOnly) look.glyphs.modified snapshot.staged.total.toNat
  | lines => lineStats look snapshot.insertions.toNat snapshot.deletions.toNat
  | stash => shownIf snapshot.stashed look .stash look.glyphs.stash
  | character c => [c]

end Directive

namespace Format

inductive Piece where
  | literal (c : Char)
  | directive (named : Directive)
  deriving DecidableEq, Repr

def pieces : Text → List Piece
  | [] => []
  | ['%'] => [.literal '%']
  | '%' :: letter :: rest => .directive (Directive.ofLetter letter) :: pieces rest
  | c :: rest => .literal c :: pieces rest

def isComplete : Text → Bool
  | [] => true
  | ['%'] => false
  | '%' :: _ :: rest => isComplete rest
  | _ :: rest => isComplete rest

def Piece.shows (look : Appearance) (snapshot : Snapshot) : Piece → Text
  | .literal c => [c]
  | .directive named => named.shows look snapshot

def expand (look : Appearance) (snapshot : Snapshot) (format : Text) : Text :=
  (pieces format).flatMap (Piece.shows look snapshot)

def render (look : Appearance) (snapshot : Snapshot) (format : Text) : Text :=
  (expand look snapshot format).collapse

end Format

end StatusPrompt
