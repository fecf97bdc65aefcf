import StatusPrompt.Proofs.Layout.Colour

/-!
A coloured prompt on a terminal. While no text that is shown holds an escape character, the fixed
layout and every format are rows of plain text and blocks: a block sets the codes of one style,
shows a text that is not empty and returns to the default style, and no block stands in another.
Collapsing the blanks of a format keeps this up, since a blank that is owed inside a block is
written in front of the sequence that ends it. A terminal therefore shows every character outside
the blocks in the default style, and so everything that is printed behind the prompt.
-/

namespace StatusPrompt

open Escape (esc setting reset isLetter)
open Text (Stance collapseFrom collapseFrom_blank collapseFrom_letter)

abbrev Cell := Char × List Text

/-- Where a terminal stands in its input. Inside a sequence it keeps the codes read so far. -/
inductive Terminal where
  | outside
  | escaped
  | inside (codes : Text)

namespace Terminal

def put (style : List Text) (code : Text) : List Text :=
  if code = [] ∨ code = ['0'] then [] else style ++ [code]

def settle (style : List Text) (codes : Text) (final : Char) : List Text :=
  if final = 'm' then (Text.fields ';' codes).foldl put style else style

def display : Terminal → List Text → Text → List Cell
  | _, _, [] => []
  | outside, style, c :: rest =>
    if c = esc then display escaped style rest else (c, style) :: display outside style rest
  | escaped, style, c :: rest =>
    if c = '[' then display (inside []) style rest else (c, style) :: display outside style rest
  | inside codes, style, c :: rest =>
    if isLetter c then display outside (settle style codes c) rest
    else display (inside (codes ++ [c])) style rest

def shows (text : Text) : List Cell := display outside [] text

theorem foldl_put (style codes : List Text) (sets : ∀ code ∈ codes, code ≠ [] ∧ code ≠ ['0']) :
    codes.foldl put style = style ++ codes := by
  induction codes generalizing style with
  | nil => exact (List.append_nil style).symm
  | cons code more ih =>
    have first : put style code = style ++ [code] :=
      if_neg (not_or.mpr (sets code List.mem_cons_self))
    have others := ih (style ++ [code]) fun other member =>
      sets other (List.mem_cons_of_mem code member)
    rw [List.foldl_cons, first, others, List.append_assoc, List.singleton_append]

@[simp] theorem display_text_append (style : List Text) (text rest : Text) (plain : esc ∉ text) :
    display outside style (text ++ rest) =
      text.map (fun c => (c, style)) ++ display outside style rest := by
  induction text with
  | nil => rfl
  | cons c more ih =>
    rw [List.mem_cons, not_or] at plain
    rw [List.cons_append, display, if_neg (Ne.symm plain.1), ih plain.2]
    rfl

theorem display_inside (style : List Text) (front codes rest : Text)
    (numeric : ∀ c ∈ codes, isLetter c = false) :
    display (inside front) style (codes ++ 'm' :: rest) =
      display outside (settle style (front ++ codes) 'm') rest := by
  induction codes generalizing front with
  | nil => rw [List.append_nil, List.nil_append, display, if_pos (by decide)]
  | cons c more ih =>
    have passed : isLetter c = false := numeric c List.mem_cons_self
    rw [List.cons_append, display, if_neg (by rw [passed]; exact Bool.false_ne_true),
      ih (front ++ [c]) fun d member => numeric d (List.mem_cons_of_mem c member),
      List.append_assoc, List.singleton_append]

theorem display_setting_append (style : List Text) (codes rest : Text)
    (numeric : ∀ c ∈ codes, isLetter c = false) :
    display outside style (setting codes ++ rest) =
      display outside (settle style codes 'm') rest := by
  have opened : display outside style (setting codes ++ rest) =
      display (inside []) style (codes ++ 'm' :: rest) := by
    simp only [setting, List.cons_append, List.append_assoc, List.nil_append]
    rfl
  rw [opened, display_inside style [] codes rest numeric, List.nil_append]

end Terminal

def palette : List Text :=
  ["32", "33", "31", "3;32", "3;33", "3;31", "2;43;30", "2;41;37", "2", "36", "34", "35"].map
    String.toList

theorem Style.codes_mem_palette (style : Style) : style.codes ∈ palette := by
  rcases style with (_ | _ | _) | (_ | _ | _) | _ | _ | _ | _ | _ | _ | _ | _ | _ <;> decide

theorem numeric_of_mem_palette (codes : Text) (listed : codes ∈ palette) :
    ∀ c ∈ codes, isLetter c = false := by
  have checked : palette.all (fun codes => codes.all fun c => !isLetter c) = true := by decide
  intro c member
  have numeric := List.all_eq_true.mp (List.all_eq_true.mp checked codes listed) c member
  rwa [Bool.not_eq_true'] at numeric

theorem settle_of_mem_palette (codes : Text) (listed : codes ∈ palette) :
    Terminal.settle [] codes 'm' = Text.fields ';' codes := by
  have checked : palette.all (fun codes =>
      (Text.fields ';' codes).all fun code => code ≠ [] ∧ code ≠ ['0']) = true := by decide
  apply Terminal.foldl_put []
  intro code member
  exact of_decide_eq_true
    (List.all_eq_true.mp (List.all_eq_true.mp checked codes listed) code member)

inductive Bracketed : Text → List Cell → Prop
  | nil : Bracketed [] []
  | text (text rest : Text) (cells : List Cell) (plain : esc ∉ text)
      (later : Bracketed rest cells) :
      Bracketed (text ++ rest) (text.map (fun c => (c, [])) ++ cells)
  | block (codes body rest : Text) (cells : List Cell) (listed : codes ∈ palette)
      (filled : body ≠ []) (plain : esc ∉ body) (later : Bracketed rest cells) :
      Bracketed (setting codes ++ body ++ reset ++ rest)
        (body.map (fun c => (c, Text.fields ';' codes)) ++ cells)

namespace Bracketed

@[simp] theorem shows_append {output : Text} {cells : List Cell} (bracketed : Bracketed output cells)
    (rest : Text) : Terminal.shows (output ++ rest) = cells ++ Terminal.shows rest := by
  induction bracketed with
  | nil => rfl
  | text text more cells plain _ ih =>
    rw [List.append_assoc, Terminal.shows, Terminal.display_text_append [] text _ plain,
      ← Terminal.shows, ih, List.append_assoc]
  | block codes body more cells listed _ plain _ ih =>
    have numeric := numeric_of_mem_palette codes listed
    have inForce := settle_of_mem_palette codes listed
    have back : Terminal.display .outside (Text.fields ';' codes) (reset ++ (more ++ rest)) =
        Terminal.shows (more ++ rest) :=
      Terminal.display_setting_append _ ['0'] _ (List.forall_mem_singleton.mpr (by decide))
    rw [List.append_assoc, List.append_assoc, List.append_assoc, Terminal.shows,
      Terminal.display_setting_append [] codes _ numeric, inForce,
      Terminal.display_text_append _ body _ plain, back, ih, List.append_assoc]

end Bracketed

/-- The output is a row of plain text and blocks. A terminal shows what the row is meant to show,
and behind it everything as it would without the output. -/
def WellBracketed (output : Text) : Prop :=
  ∃ cells, Bracketed output cells ∧
    ∀ rest, Terminal.shows (output ++ rest) = cells ++ Terminal.shows rest

theorem wellBracketed_iff (output : Text) :
    WellBracketed output ↔ ∃ cells, Bracketed output cells := by
  constructor
  · intro whole
    obtain ⟨cells, bracketed, -⟩ := whole
    exact ⟨cells, bracketed⟩
  · intro row
    obtain ⟨cells, bracketed⟩ := row
    exact ⟨cells, bracketed, bracketed.shows_append⟩

namespace WellBracketed

theorem nil : WellBracketed [] := (wellBracketed_iff []).mpr ⟨[], .nil⟩

theorem text_append {rest : Text} (later : WellBracketed rest) (text : Text) (plain : esc ∉ text) :
    WellBracketed (text ++ rest) := by
  obtain ⟨cells, bracketed, -⟩ := later
  exact (wellBracketed_iff _).mpr ⟨_, .text text rest cells plain bracketed⟩

theorem block_append {rest : Text} (later : WellBracketed rest) (style : Style) (body : Text)
    (filled : body ≠ []) (plain : esc ∉ body) :
    WellBracketed (setting style.codes ++ (body ++ (reset ++ rest))) := by
  obtain ⟨cells, bracketed, -⟩ := later
  have row := Bracketed.block style.codes body rest cells style.codes_mem_palette filled plain
    bracketed
  simp only [List.append_assoc] at row
  exact (wellBracketed_iff _).mpr ⟨_, row⟩

end WellBracketed

namespace Text

/-- What is left of a text whose blanks are collapsed in front of an escape sequence. A blank that
is owed at its end is written, since the sequence begins with a letter. -/
def bodyFrom : Stance → Text → Text
  | stance, [] => stance.owed
  | stance, c :: rest =>
    if isBlank c then bodyFrom stance.afterBlank rest
    else stance.owed ++ c :: bodyFrom .inside rest

theorem collapseFrom_body_append (stance : Stance) (text codes rest : Text)
    (whole : ∀ c ∈ codes, isBlank c = false) :
    collapseFrom stance (text ++ (setting codes ++ rest)) =
      bodyFrom stance text ++ (setting codes ++ collapseFrom .inside rest) := by
  induction text generalizing stance with
  | nil => exact Escape.collapseFrom_setting_append stance codes rest whole
  | cons c more ih =>
    rw [List.cons_append, bodyFrom]
    cases blank : isBlank c with
    | true => rw [collapseFrom_blank stance c _ blank, ih, if_pos rfl]
    | false =>
      rw [collapseFrom_letter stance c _ blank, ih, if_neg Bool.false_ne_true, List.append_assoc,
        List.cons_append]

theorem esc_not_mem_owed (stance : Stance) : esc ∉ stance.owed := by
  cases stance <;> decide

theorem esc_not_mem_bodyFrom (stance : Stance) (text : Text) (plain : esc ∉ text) :
    esc ∉ bodyFrom stance text := by
  induction text generalizing stance with
  | nil => exact esc_not_mem_owed stance
  | cons c more ih =>
    rw [List.mem_cons, not_or] at plain
    rw [bodyFrom]
    split_ifs
    · exact ih _ plain.2
    · rw [List.mem_append, List.mem_cons, not_or, not_or]
      exact ⟨esc_not_mem_owed stance, plain.1, ih _ plain.2⟩

theorem bodyFrom_behind_ne_nil (text : Text) : bodyFrom .behind text ≠ [] := by
  induction text with
  | nil => exact List.cons_ne_nil _ _
  | cons c more ih =>
    rw [bodyFrom]
    split_ifs
    · exact ih
    · exact List.cons_ne_nil _ _

/-- Inside a block a text never collapses to nothing: one of blanks alone leaves a space. -/
theorem bodyFrom_inside_ne_nil (text : Text) (filled : text ≠ []) : bodyFrom .inside text ≠ [] := by
  obtain ⟨c, more, rfl⟩ := List.exists_cons_of_ne_nil filled
  rw [bodyFrom]
  split_ifs
  · exact bodyFrom_behind_ne_nil more
  · exact List.cons_ne_nil _ _

theorem wellBracketed_collapseFrom_append (text rest : Text) (plain : esc ∉ text)
    (later : ∀ stance, WellBracketed (collapseFrom stance rest)) (stance : Stance) :
    WellBracketed (collapseFrom stance (text ++ rest)) := by
  induction text generalizing stance with
  | nil => exact later stance
  | cons c more ih =>
    rw [List.mem_cons, not_or] at plain
    rw [List.cons_append]
    cases blank : isBlank c with
    | true =>
      rw [collapseFrom_blank stance c _ blank]
      exact ih plain.2 stance.afterBlank
    | false =>
      have shown : esc ∉ [c] := fun member => plain.1 (List.mem_singleton.mp member)
      rw [collapseFrom_letter stance c _ blank]
      exact ((ih plain.2 .inside).text_append [c] shown).text_append _ (esc_not_mem_owed stance)

end Text

namespace Span

theorem wellBracketed_renders (spans : List Span) (plain : ∀ span ∈ spans, esc ∉ span.text) :
    WellBracketed (renders true spans) := by
  induction spans with
  | nil => exact .nil
  | cons span rest ih =>
    have first : esc ∉ span.text := plain span List.mem_cons_self
    have later := ih fun other member => plain other (List.mem_cons_of_mem span member)
    show WellBracketed (span.render true ++ renders true rest)
    cases span with
    | plain text => exact later.text_append text first
    | painted style text =>
      by_cases empty : text = []
      · rwa [render, Style.paint, if_pos (Or.inr empty), empty]
      · rw [render, style.paint_of_plain text empty first, List.append_assoc, List.append_assoc]
        exact later.block_append style text empty first

theorem wellBracketed_collapseFrom (spans : List Span) (plain : ∀ span ∈ spans, esc ∉ span.text)
    (stance : Stance) : WellBracketed (collapseFrom stance (renders true spans)) := by
  induction spans generalizing stance with
  | nil => exact .nil
  | cons span rest ih =>
    have first : esc ∉ span.text := plain span List.mem_cons_self
    have later := ih fun other member => plain other (List.mem_cons_of_mem span member)
    show WellBracketed (collapseFrom stance (span.render true ++ renders true rest))
    cases span with
    | plain text => exact Text.wellBracketed_collapseFrom_append text _ first later stance
    | painted style text =>
      by_cases empty : text = []
      · rw [render, Style.paint, if_pos (Or.inr empty), empty]
        exact later stance
      · have letters : ∀ c ∈ style.codes, isBlank c = false :=
          fun c member => (style.codes_numeric c member).2
        have zero : ∀ c ∈ ['0'], isBlank c = false := List.forall_mem_singleton.mpr (by decide)
        rw [render, style.paint_of_plain text empty first, List.append_assoc, List.append_assoc,
          Escape.collapseFrom_setting_append stance style.codes _ letters,
          Text.collapseFrom_body_append .inside text ['0'] _ zero]
        -- A blank owed in front of the block is written before it, one owed inside stays inside.
        have block := (later .inside).block_append style (Text.bodyFrom .inside text)
          (Text.bodyFrom_inside_ne_nil text empty) (Text.esc_not_mem_bodyFrom .inside text first)
        exact block.text_append _ (Text.esc_not_mem_owed stance)

end Span

/-- A coloured prompt, in the fixed layout or by a format, leaves no style behind. -/
theorem wellBracketed_render (glyphs : Glyphs) (snapshot : Snapshot) (branch : esc ∉ snapshot.branch)
    (commit : esc ∉ snapshot.commit) (drawn : ∀ glyph ∈ glyphs.all, esc ∉ glyph) :
    WellBracketed (Fixed.render ⟨true, glyphs⟩ snapshot) ∧
      ∀ template, esc ∉ template → esc ∉ snapshot.remote →
        WellBracketed (Format.render ⟨true, glyphs⟩ snapshot template) := by
  constructor
  · rw [Fixed.render_eq]
    exact Span.wellBracketed_renders _ (Fixed.plain_of_mem_spans glyphs snapshot branch commit drawn)
  · intro template written remote
    rw [Format.render, Format.expand_eq, Text.collapse_eq_collapseFrom]
    exact Span.wellBracketed_collapseFrom _
      (Format.plain_of_mem_spans glyphs snapshot template written branch remote commit drawn) .front

/-- A blank glyph and one with blanks at its edges keep their blocks. -/
theorem wellBracketed_render_blank :
    esc ∈ Fixed.render ⟨true, Format.blankGlyphs⟩ Format.blankSnapshot ∧
      WellBracketed (Fixed.render ⟨true, Format.blankGlyphs⟩ Format.blankSnapshot) ∧
      Format.render ⟨true, Format.blankGlyphs⟩ Format.blankSnapshot "%u  %t".toList =
        setting ['2'] ++ [' '] ++ reset ++ [' '] ++ setting ['3', '5'] ++ " * ".toList ++ reset ∧
      WellBracketed (Format.render ⟨true, Format.blankGlyphs⟩ Format.blankSnapshot
        "%u  %t".toList) := by
  have branch : esc ∉ Format.blankSnapshot.branch := by decide
  have commit : esc ∉ Format.blankSnapshot.commit := by decide
  have drawn : ∀ glyph ∈ Format.blankGlyphs.all, esc ∉ glyph := by decide
  obtain ⟨fixed, formatted⟩ :=
    wellBracketed_render Format.blankGlyphs Format.blankSnapshot branch commit drawn
  refine ⟨?_, fixed, ?_, formatted "%u  %t".toList (by decide) (by decide)⟩ <;> decide +kernel

end StatusPrompt
