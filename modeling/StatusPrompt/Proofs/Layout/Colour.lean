import StatusPrompt.Proofs.Layout.Spans
import StatusPrompt.Proofs.Numeral
import StatusPrompt.Proofs.Text.Escape

/-!
Colour adds escape sequences and nothing else. While no text that is shown holds an escape
character, stripping the painted prompt gives the prompt without colour: in the fixed layout
character for character, and in a format once the blanks are collapsed again, which the sequences
have kept apart.
-/

namespace StatusPrompt

open Escape (esc strip strip_append strip_setting strip_of_plain reopen_of_plain)

def Glyphs.all (glyphs : Glyphs) : List Text :=
  [glyphs.branch, glyphs.modified, glyphs.dirty, glyphs.clean, glyphs.untracked, glyphs.unmerged,
    glyphs.ahead, glyphs.behind, glyphs.stash]

theorem Numeral.esc_not_mem_write (value : Nat) : esc ∉ Numeral.write value := by
  intro member
  exact absurd (isDigit_of_mem_write value esc member) (by decide)

namespace Style

theorem codes_numeric (style : Style) :
    ∀ c ∈ style.codes, Escape.isLetter c = false ∧ isBlank c = false := by
  have checked : style.codes.all (fun c => !Escape.isLetter c && !isBlank c) = true := by
    rcases style with (_ | _ | _) | (_ | _ | _) | _ | _ | _ | _ | _ | _ | _ | _ | _ <;> decide
  intro c member
  have numeric := List.all_eq_true.mp checked c member
  rwa [Bool.and_eq_true, Bool.not_eq_true', Bool.not_eq_true'] at numeric

theorem paint_of_plain (style : Style) (text : Text) (filled : text ≠ []) (plain : esc ∉ text) :
    style.paint true text = Escape.setting style.codes ++ text ++ Escape.setting ['0'] := by
  rw [paint, if_neg (by simp [filled]), reopen_of_plain style.codes text plain]
  rfl

theorem strip_paint_append (style : Style) (text rest : Text) (plain : esc ∉ text) :
    strip (style.paint true text ++ rest) = text ++ strip rest := by
  by_cases empty : text = []
  · rw [paint, if_pos (Or.inr empty), empty]
    rfl
  · calc
      strip (style.paint true text ++ rest)
        = strip (Escape.setting style.codes ++ (text ++ (Escape.setting ['0'] ++ rest))) := by
          rw [paint_of_plain style text empty plain]
          simp only [List.append_assoc]
      _ = strip (text ++ (Escape.setting ['0'] ++ rest)) :=
          strip_setting style.codes _ fun c member => (style.codes_numeric c member).1
      _ = text ++ strip (Escape.setting ['0'] ++ rest) := strip_append text _ plain
      _ = text ++ strip rest := by
          rw [strip_setting ['0'] rest (List.forall_mem_singleton.mpr (by decide))]

/-- Painting leaves no trace once the sequences are stripped, whatever sequences or parts of them
the text holds itself. -/
theorem strip_paint (style : Style) (color : Bool) (text : Text) :
    strip (style.paint color text) = strip text := by
  unfold paint
  split_ifs
  · rfl
  · have numeric : ∀ c ∈ style.codes, Escape.isLetter c = false :=
      fun c member => (style.codes_numeric c member).1
    rw [List.append_assoc, strip_setting _ _ numeric]
    exact Escape.stripFrom_reopen style.codes numeric false text

end Style

namespace Span

theorem strip_renders (spans : List Span) (plain : ∀ span ∈ spans, esc ∉ span.text) :
    strip (renders true spans) = texts spans := by
  induction spans with
  | nil => rfl
  | cons span rest ih =>
    have first : esc ∉ span.text := plain span List.mem_cons_self
    have later := ih fun other member => plain other (List.mem_cons_of_mem span member)
    show strip (span.render true ++ renders true rest) = span.text ++ texts rest
    rw [← later]
    cases span with
    | plain text => exact strip_append text _ first
    | painted style text => exact style.strip_paint_append text _ first

theorem forall_mem_shownIf (holds : Span → Prop) (shown : Bool) (style : Style) (text : Text)
    (whole : holds (.painted style text)) : ∀ span ∈ shownIf shown style text, holds span := by
  intro span member
  cases shown with
  | true => rwa [List.mem_singleton.mp member]
  | false => exact absurd member List.not_mem_nil

theorem plain_of_mem_shownIf (shown : Bool) (style : Style) (text : Text) (plain : esc ∉ text) :
    ∀ span ∈ shownIf shown style text, esc ∉ span.text :=
  forall_mem_shownIf (esc ∉ ·.text) shown style text plain

theorem plain_of_mem_counted (style : Style) (glyph : Text) (count : Nat) (plain : esc ∉ glyph) :
    ∀ span ∈ counted style glyph count, esc ∉ span.text := by
  apply plain_of_mem_shownIf
  rw [List.mem_append, not_or]
  exact ⟨plain, Numeral.esc_not_mem_write count⟩

end Span

theorem Snapshot.mem_of_mem_shortCommit (snapshot : Snapshot) (c : Char)
    (member : c ∈ snapshot.shortCommit) : c ∈ snapshot.commit := by
  unfold shortCommit at member
  split_ifs at member
  · exact member
  · exact List.mem_of_mem_take member

namespace Fixed

theorem plain_of_mem_spans (glyphs : Glyphs) (snapshot : Snapshot) (branch : esc ∉ snapshot.branch)
    (commit : esc ∉ snapshot.commit) (drawn : ∀ glyph ∈ glyphs.all, esc ∉ glyph) :
    ∀ span ∈ spans glyphs snapshot, esc ∉ span.text := by
  have arrow : ∀ style glyph count, esc ∉ glyph →
      ∀ span ∈ arrowSpans style glyph count, esc ∉ span.text := by
    intro style glyph count plain
    apply Span.plain_of_mem_shownIf
    simp only [List.mem_cons, List.mem_append, not_or]
    exact ⟨by decide, ⟨plain, Numeral.esc_not_mem_write count⟩, by decide, List.not_mem_nil⟩
  have cell : ∀ present style glyph, esc ∉ glyph → esc ∉ (cellSpan present style glyph).text := by
    intro present style glyph plain
    cases present with
    | true => exact plain
    | false =>
      show esc ∉ [' ']
      decide
  simp only [Glyphs.all, List.forall_mem_cons] at drawn
  obtain ⟨drawnBranch, modified, dirty, clean, untracked, unmerged, ahead, behind, -⟩ := drawn
  have status : esc ∉ if snapshot.isDirty then glyphs.dirty else glyphs.clean := by
    split_ifs <;> assumption
  have short : esc ∉ snapshot.shortCommit :=
    fun member => commit (snapshot.mem_of_mem_shortCommit esc member)
  simp only [spans, List.forall_mem_append, List.forall_mem_cons]
  refine ⟨⟨⟨⟨drawnBranch, ?_, branch, ?_, short, ?_⟩,
    arrow _ _ _ ahead⟩, arrow _ _ _ behind⟩, ?_, cell _ _ _ untracked, cell _ _ _ unmerged,
    cell _ _ _ modified, ?_, status, nofun⟩ <;> decide

/-- The fixed layout in colour strips to the fixed layout without, character for character. -/
theorem strip_render (glyphs : Glyphs) (snapshot : Snapshot) (branch : esc ∉ snapshot.branch)
    (commit : esc ∉ snapshot.commit) (drawn : ∀ glyph ∈ glyphs.all, esc ∉ glyph) :
    strip (render ⟨true, glyphs⟩ snapshot) = render ⟨false, glyphs⟩ snapshot := by
  rw [render_eq, render_eq, Span.renders_false]
  exact Span.strip_renders _ (plain_of_mem_spans glyphs snapshot branch commit drawn)

/-- Every painted piece is shown, and the names look like ends of escape sequences. -/
def garbledSnapshot : Snapshot where
  branch := "[m 2".toList
  commit := "0m[1;ab".toList
  ahead := 12
  behind := 3
  untracked := 1
  staged := { added := 2 }
  unstaged := { modified := 1 }
  merging := true

theorem strip_render_garbled :
    esc ∈ render ⟨true, { ahead := ['[', '3'] }⟩ garbledSnapshot ∧
      strip (render ⟨true, { ahead := ['[', '3'] }⟩ garbledSnapshot) =
        render ⟨false, { ahead := ['[', '3'] }⟩ garbledSnapshot := by
  have drawn : ∀ glyph ∈ Glyphs.all { ahead := ['[', '3'] }, esc ∉ glyph := by decide
  have branch : esc ∉ garbledSnapshot.branch := by decide
  have commit : esc ∉ garbledSnapshot.commit := by decide
  refine ⟨?_, strip_render _ garbledSnapshot branch commit drawn⟩
  decide +kernel

end Fixed

namespace Directive

theorem eq_of_ofLetter_eq_character (letter c : Char) (named : ofLetter letter = .character c) :
    letter = c := by
  unfold ofLetter at named
  split at named <;> cases named
  rfl

theorem plain_of_mem_spans (glyphs : Glyphs) (snapshot : Snapshot) (directive : Directive)
    (branch : esc ∉ snapshot.branch) (remote : esc ∉ snapshot.remote)
    (commit : esc ∉ snapshot.commit) (drawn : ∀ glyph ∈ glyphs.all, esc ∉ glyph)
    (character : directive ≠ .character esc) :
    ∀ span ∈ directive.spans glyphs snapshot, esc ∉ span.text := by
  have single : ∀ span : Span, esc ∉ span.text → ∀ other ∈ [span], esc ∉ other.text := by
    intro span plain other member
    rwa [List.mem_singleton.mp member]
  simp only [Glyphs.all, List.forall_mem_cons] at drawn
  obtain ⟨drawnBranch, modified, -, -, untracked, -, ahead, behind, stash, -⟩ := drawn
  cases directive with
  | branchGlyph => exact single _ drawnBranch
  | systemName => exact single _ (by decide)
  | branch => exact single _ branch
  | remote => exact single _ remote
  | commit => exact single _ fun member => commit (snapshot.mem_of_mem_shortCommit esc member)
  | drift =>
    rw [spans, List.forall_mem_append]
    exact ⟨Span.plain_of_mem_counted _ _ _ ahead, Span.plain_of_mem_counted _ _ _ behind⟩
  | untracked => exact Span.plain_of_mem_shownIf _ _ _ untracked
  | unstaged => exact Span.plain_of_mem_counted _ _ _ modified
  | staged => exact Span.plain_of_mem_counted _ _ _ modified
  | lines =>
    rw [spans, List.forall_mem_append, List.forall_mem_append]
    refine ⟨⟨Span.plain_of_mem_counted _ _ _ (by decide), ?_⟩,
      Span.plain_of_mem_counted _ _ _ (by decide)⟩
    split_ifs
    · exact single _ (by decide)
    · exact fun _ absent => absurd absent List.not_mem_nil
  | stash => exact Span.plain_of_mem_shownIf _ _ _ stash
  | character c =>
    apply single
    intro member
    exact character (congrArg Directive.character (List.mem_singleton.mp member).symm)

end Directive

namespace Format

theorem mem_of_shown (template : Text) (c : Char)
    (shown : .literal c ∈ pieces template ∨ .directive (.character c) ∈ pieces template) :
    c ∈ template := by
  fun_induction pieces template with
  | case1 => exact absurd shown (by simp)
  | case2 =>
    simp only [List.mem_singleton, Piece.literal.injEq, reduceCtorEq, or_false] at shown
    exact List.mem_singleton.mpr shown
  | case3 letter rest ih =>
    simp only [List.mem_cons, reduceCtorEq, false_or, Piece.directive.injEq] at shown
    rcases shown with later | here | later
    · exact List.mem_cons_of_mem _ (List.mem_cons_of_mem letter (ih (Or.inl later)))
    · rw [Directive.eq_of_ofLetter_eq_character letter c here.symm]
      exact List.mem_cons_of_mem _ List.mem_cons_self
    · exact List.mem_cons_of_mem _ (List.mem_cons_of_mem letter (ih (Or.inr later)))
  | case4 d rest noEnd noDirective ih =>
    simp only [List.mem_cons, reduceCtorEq, false_or, Piece.literal.injEq] at shown
    rcases shown with (rfl | later) | later
    · exact List.mem_cons_self
    · exact List.mem_cons_of_mem d (ih (Or.inl later))
    · exact List.mem_cons_of_mem d (ih (Or.inr later))

section Plain

variable (glyphs : Glyphs) (snapshot : Snapshot) (template : Text) (written : esc ∉ template)
  (branch : esc ∉ snapshot.branch) (remote : esc ∉ snapshot.remote)
  (commit : esc ∉ snapshot.commit) (drawn : ∀ glyph ∈ glyphs.all, esc ∉ glyph)
include written branch remote commit drawn

theorem plain_of_mem_spans : ∀ span ∈ spans glyphs snapshot template, esc ∉ span.text := by
  intro span member
  obtain ⟨piece, reached, inside⟩ := List.mem_flatMap.mp member
  cases piece with
  | literal c =>
    rw [List.mem_singleton.mp inside]
    intro escapes
    obtain rfl : esc = c := List.mem_singleton.mp escapes
    exact written (mem_of_shown template esc (Or.inl reached))
  | directive named =>
    have character : named ≠ .character esc := by
      intro same
      rw [same] at reached
      exact written (mem_of_shown template esc (Or.inr reached))
    exact named.plain_of_mem_spans glyphs snapshot branch remote commit drawn character span inside

theorem strip_expand :
    strip (expand ⟨true, glyphs⟩ snapshot template) = expand ⟨false, glyphs⟩ snapshot template := by
  rw [expand_eq, expand_eq, Span.renders_false]
  exact Span.strip_renders _
    (plain_of_mem_spans glyphs snapshot template written branch remote commit drawn)

/-- A format in colour shows the words of the format without, in their order. -/
theorem collapse_strip_render :
    (strip (render ⟨true, glyphs⟩ snapshot template)).collapse =
      render ⟨false, glyphs⟩ snapshot template := by
  unfold render
  rw [Escape.collapse_strip_collapse,
    strip_expand glyphs snapshot template written branch remote commit drawn]

end Plain

def blankGlyphs : Glyphs := { untracked := [' '], stash := ['\t', '*', ' '] }

def blankSnapshot : Snapshot := { branch := "main".toList, untracked := 1, stashed := true }

theorem collapse_strip_render_blank :
    strip (render ⟨true, blankGlyphs⟩ blankSnapshot " %b %u%%%r %t ".toList) =
        "main  %  * ".toList ∧
      (strip (render ⟨true, blankGlyphs⟩ blankSnapshot " %b %u%%%r %t ".toList)).collapse =
        render ⟨false, blankGlyphs⟩ blankSnapshot " %b %u%%%r %t ".toList := by
  have written : esc ∉ " %b %u%%%r %t ".toList := by decide
  have branch : esc ∉ blankSnapshot.branch := by decide
  have remote : esc ∉ blankSnapshot.remote := by decide
  have commit : esc ∉ blankSnapshot.commit := by decide
  have drawn : ∀ glyph ∈ blankGlyphs.all, esc ∉ glyph := by decide
  refine ⟨?_, collapse_strip_render blankGlyphs blankSnapshot _ written branch remote commit drawn⟩
  decide +kernel

end Format

end StatusPrompt
