import StatusPrompt.Format

/-!
The three ways to show a snapshot: the fixed layout, a format string, and raw lines for other
programs.
-/

namespace StatusPrompt

namespace Fixed

/-- The drift in one direction, padded by a space on either side. -/
def arrow (look : Appearance) (style : Style) (glyph : Text) (count : Nat) : Text :=
  if 0 < count then look.paint style (' ' :: (glyph ++ Numeral.write count ++ [' '])) else []

def arrows (look : Appearance) (snapshot : Snapshot) : Text :=
  arrow look .ahead look.glyphs.ahead snapshot.ahead.toNat ++
    arrow look .behind look.glyphs.behind snapshot.behind.toNat

def cell (look : Appearance) (present : Bool) (style : Style) (glyph : Text) : Text :=
  if present then look.paint style glyph else [' ']

def cluster (look : Appearance) (snapshot : Snapshot) : Text :=
  cell look (0 < snapshot.untracked) .untracked look.glyphs.untracked ++
    cell look snapshot.hasUnmerged .unmerged look.glyphs.unmerged ++
    cell look snapshot.unstaged.isChanged .modified look.glyphs.modified

def statusGlyph (look : Appearance) (snapshot : Snapshot) : Text :=
  if snapshot.isDirty then look.glyphs.dirty else look.glyphs.clean

def render (look : Appearance) (snapshot : Snapshot) : Text :=
  look.glyphs.branch ++ [' '] ++
    look.paint (.health snapshot.health) snapshot.branch ++ ['@'] ++
    look.paint (.commit snapshot.health) snapshot.shortCommit ++ [' '] ++
    arrows look snapshot ++ [' '] ++
    cluster look snapshot ++ [' '] ++
    look.paint (.health snapshot.health) (statusGlyph look snapshot)

end Fixed

namespace Raw

def flag (value : Bool) : Text := if value then ['1'] else ['0']

/-- The twelve lines, in their fixed positions. Those that hold nothing keep their place. -/
def lines (snapshot : Snapshot) : List Text :=
  [snapshot.branch,
    snapshot.remote,
    ['-'],
    snapshot.tracking,
    Numeral.write snapshot.staged.modified.toNat,
    ['0'],
    Numeral.write snapshot.unstaged.modified.toNat,
    Numeral.write snapshot.untracked.toNat,
    ['0'],
    flag snapshot.isDirty,
    Numeral.write snapshot.insertions.toNat,
    Numeral.write snapshot.deletions.toNat]

def render (snapshot : Snapshot) : Text := (lines snapshot).flatMap (· ++ ['\n'])

end Raw

inductive Layout where
  | fixed
  | format (template : Text)
  | raw
  deriving DecidableEq, Repr

def Layout.render (look : Appearance) (snapshot : Snapshot) : Layout → Text
  | .fixed => Fixed.render look snapshot
  | .format template => Format.render look snapshot template
  | .raw => Raw.render snapshot

end StatusPrompt
