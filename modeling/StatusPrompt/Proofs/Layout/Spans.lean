import Mathlib.Data.List.Basic
import StatusPrompt.Layout

/-!
A prompt as spans. Each span is a text that is shown as it is or a text that is painted in one
style. The fixed layout and a format before its blanks are collapsed are both the spans of the
snapshot, rendered one after the other, and only the rendering of a span knows of colour.
-/

namespace StatusPrompt

inductive Span where
  | plain (text : Text)
  | painted (style : Style) (text : Text)
  deriving DecidableEq, Repr

namespace Span

def text : Span → Text
  | plain text => text
  | painted _ text => text

def render (color : Bool) : Span → Text
  | plain text => text
  | painted style text => style.paint color text

/-- A painted text, if there is a reason to show it. -/
def shownIf (shown : Bool) (style : Style) (text : Text) : List Span :=
  if shown then [painted style text] else []

def counted (style : Style) (glyph : Text) (count : Nat) : List Span :=
  shownIf (0 < count) style (glyph ++ Numeral.write count)

/-- The text of spans, without their colours. -/
def texts (spans : List Span) : Text := spans.flatMap text

def renders (color : Bool) (spans : List Span) : Text := spans.flatMap (render color)

@[simp] theorem renders_append (color : Bool) (first second : List Span) :
    renders color (first ++ second) = renders color first ++ renders color second :=
  List.flatMap_append

theorem renders_false (spans : List Span) : renders false spans = texts spans := by
  refine List.flatMap_congr ?_
  intro span _
  cases span <;> rfl

end Span

namespace Directive

/-- What a directive shows, as spans. -/
def spans (glyphs : Glyphs) (snapshot : Snapshot) : Directive → List Span
  | branchGlyph => [.plain glyphs.branch]
  | systemName => [.plain "git".toList]
  | branch => [.painted (.health snapshot.health) snapshot.branch]
  | remote => [.plain snapshot.remote]
  | commit => [.painted (.commit snapshot.health) snapshot.shortCommit]
  | drift =>
    Span.counted .ahead glyphs.ahead snapshot.ahead.toNat ++
      Span.counted .behind glyphs.behind snapshot.behind.toNat
  | untracked => Span.shownIf (0 < snapshot.untracked) .untracked glyphs.untracked
  | unstaged => Span.counted (.health .dirty) glyphs.modified snapshot.unstaged.total.toNat
  | staged => Span.counted (.health .stagedOnly) glyphs.modified snapshot.staged.total.toNat
  | lines =>
    Span.counted .insertions ['+'] snapshot.insertions.toNat ++
      (if 0 < snapshot.insertions.toNat ∧ 0 < snapshot.deletions.toNat then [.plain ['/']] else []) ++
      Span.counted .deletions ['-'] snapshot.deletions.toNat
  | stash => Span.shownIf snapshot.stashed .stash glyphs.stash
  | character c => [.plain [c]]

theorem shownIf_eq (look : Appearance) (shown : Bool) (style : Style) (text : Text) :
    shownIf shown look style text = Span.renders look.color (Span.shownIf shown style text) := by
  cases shown with
  | true => exact (List.append_nil _).symm
  | false => rfl

theorem counted_eq (look : Appearance) (style : Style) (glyph : Text) (count : Nat) :
    counted look style glyph count = Span.renders look.color (Span.counted style glyph count) :=
  shownIf_eq look _ style _

theorem shows_eq (look : Appearance) (snapshot : Snapshot) (directive : Directive) :
    directive.shows look snapshot =
      Span.renders look.color (directive.spans look.glyphs snapshot) := by
  have plain : ∀ text : Text, text = Span.renders look.color [.plain text] :=
    fun text => (List.append_nil text).symm
  have painted : ∀ style text,
      look.paint style text = Span.renders look.color [.painted style text] :=
    fun style text => (List.append_nil _).symm
  cases directive with
  | branchGlyph => exact plain _
  | systemName => exact plain _
  | branch => exact painted _ _
  | remote => exact plain _
  | commit => exact painted _ _
  | drift => simp only [shows, spans, Span.renders_append, counted_eq]
  | untracked => exact shownIf_eq look _ _ _
  | unstaged => exact counted_eq look _ _ _
  | staged => exact counted_eq look _ _ _
  | lines =>
    simp only [shows, lineStats, spans, Span.renders_append, counted_eq]
    by_cases both : 0 < snapshot.insertions.toNat ∧ 0 < snapshot.deletions.toNat
    · rw [if_pos both, if_pos both, ← plain]
    · rw [if_neg both, if_neg both]
      rfl
  | stash => exact shownIf_eq look _ _ _
  | character c => exact plain _

end Directive

namespace Format

def Piece.spans (glyphs : Glyphs) (snapshot : Snapshot) : Piece → List Span
  | .literal c => [.plain [c]]
  | .directive named => named.spans glyphs snapshot

def spans (glyphs : Glyphs) (snapshot : Snapshot) (template : Text) : List Span :=
  (pieces template).flatMap (Piece.spans glyphs snapshot)

theorem expand_eq (look : Appearance) (snapshot : Snapshot) (template : Text) :
    expand look snapshot template =
      Span.renders look.color (spans look.glyphs snapshot template) := by
  unfold expand spans Span.renders
  rw [List.flatMap_assoc]
  refine List.flatMap_congr ?_
  intro piece _
  cases piece with
  | literal c => rfl
  | directive named => exact named.shows_eq look snapshot

end Format

namespace Fixed

def arrowSpans (style : Style) (glyph : Text) (count : Nat) : List Span :=
  Span.shownIf (0 < count) style (' ' :: (glyph ++ Numeral.write count ++ [' ']))

def cellSpan (present : Bool) (style : Style) (glyph : Text) : Span :=
  if present then .painted style glyph else .plain [' ']

def spans (glyphs : Glyphs) (snapshot : Snapshot) : List Span :=
  [.plain glyphs.branch, .plain [' '], .painted (.health snapshot.health) snapshot.branch,
    .plain ['@'], .painted (.commit snapshot.health) snapshot.shortCommit, .plain [' ']] ++
  arrowSpans .ahead glyphs.ahead snapshot.ahead.toNat ++
  arrowSpans .behind glyphs.behind snapshot.behind.toNat ++
  [.plain [' '], cellSpan (0 < snapshot.untracked) .untracked glyphs.untracked,
    cellSpan snapshot.hasUnmerged .unmerged glyphs.unmerged,
    cellSpan snapshot.unstaged.isChanged .modified glyphs.modified, .plain [' '],
    .painted (.health snapshot.health)
      (if snapshot.isDirty then glyphs.dirty else glyphs.clean)]

theorem arrow_eq (look : Appearance) (style : Style) (glyph : Text) (count : Nat) :
    arrow look style glyph count = Span.renders look.color (arrowSpans style glyph count) := by
  unfold arrow arrowSpans Span.shownIf
  by_cases some : 0 < count
  · simp [some, Span.renders, Span.render, Appearance.paint]
  · simp [some, Span.renders]

theorem cell_eq (look : Appearance) (present : Bool) (style : Style) (glyph : Text) :
    cell look present style glyph = (cellSpan present style glyph).render look.color := by
  cases present <;> rfl

theorem render_eq (look : Appearance) (snapshot : Snapshot) :
    render look snapshot = Span.renders look.color (spans look.glyphs snapshot) := by
  unfold render arrows cluster spans
  rw [arrow_eq, arrow_eq, cell_eq, cell_eq, cell_eq, Span.renders_append, Span.renders_append,
    Span.renders_append]
  simp only [Span.renders, List.flatMap_cons, List.flatMap_nil, Span.render, Appearance.paint,
    statusGlyph, List.append_assoc, List.append_nil]

end Fixed

end StatusPrompt
