import StatusPrompt.Proofs.Layout.Colour

/-!
Gaps in what is seen of a format. The blanks of a format are collapsed with its escape sequences in
stance, so a blank in front of a sequence and one behind it are not taken for neighbours. What is
seen has no gap exactly when no sequence stands between two blanks, where an end of the text counts
as a blank: glyphs and names without blanks at their edges are always fine, and a glyph that brings
its own space is not, if the format has one beside it.
-/

namespace StatusPrompt

open Escape (esc strip strip_append strip_setting strip_other)
open Text (Stance collapseFrom collapseFrom_blank collapseFrom_letter isSnug)

/-- The characters of a span that are seen, with `none` for every escape sequence around them. -/
def Span.marks : Span → List (Option Char)
  | plain text => text.map some
  | painted _ text => if text = [] then [] else none :: (text.map some ++ [none])

namespace Marks

/-- What is seen of marks when their blanks are collapsed. A sequence is no blank, so a blank that
is owed is written in front of it. -/
def seenFrom : Stance → List (Option Char) → Text
  | _, [] => []
  | stance, none :: rest => stance.owed ++ seenFrom .inside rest
  | stance, some c :: rest =>
    if isBlank c then seenFrom stance.afterBlank rest else stance.owed ++ c :: seenFrom .inside rest

def opensBlank : List (Option Char) → Bool
  | [] => true
  | none :: rest => opensBlank rest
  | some c :: _ => isBlank c

/-- No sequence stands between two blanks, where `blank` says that one is in front of the marks. -/
def isSealed : Bool → List (Option Char) → Bool
  | _, [] => true
  | blank, none :: rest => !(blank && opensBlank rest) && isSealed blank rest
  | _, some c :: rest => isSealed (isBlank c) rest

/-- The marks behind a letter, behind a blank, behind a letter and a sequence, and behind a blank
and a sequence. In the last two a blank can no longer be collapsed with the one before. -/
theorem isSnug_seenFrom (marks : List (Option Char)) :
    isSnug false (seenFrom .inside marks) = isSealed false marks ∧
      isSnug false (seenFrom .behind marks) = isSealed true marks ∧
      isSnug true (seenFrom .inside marks) = (!opensBlank marks && isSealed true marks) ∧
      isSnug true (seenFrom .behind marks) = false := by
  have space : isBlank ' ' = true := by decide
  induction marks with
  | nil => decide
  | cons mark rest ih =>
    obtain ⟨inside, behind, sealedInside, sealedBehind⟩ := ih
    cases mark with
    | none =>
      simp [seenFrom, isSealed, opensBlank, Stance.owed, isSnug, space, inside, sealedInside]
    | some c =>
      cases blank : isBlank c with
      | true =>
        simp [seenFrom, isSealed, opensBlank, Stance.afterBlank, blank, behind, sealedBehind]
      | false => simp [seenFrom, isSealed, opensBlank, Stance.owed, isSnug, blank, inside, space]

theorem isSnug_seenFrom_front (marks : List (Option Char)) (seen : seenFrom .front marks ≠ []) :
    isSnug true (seenFrom .front marks) = isSealed true marks := by
  induction marks with
  | nil => exact absurd rfl seen
  | cons mark rest ih =>
    obtain ⟨inside, -, sealedInside, -⟩ := isSnug_seenFrom rest
    cases mark with
    | none => simp [seenFrom, isSealed, Stance.owed, sealedInside]
    | some c =>
      cases blank : isBlank c with
      | true =>
        simp only [seenFrom, Stance.afterBlank, blank, if_true] at seen ⊢
        rw [isSealed, blank, ih seen]
      | false => simp [seenFrom, isSealed, Stance.owed, isSnug, blank, inside]

theorem opensBlank_eq (marks : List (Option Char)) :
    opensBlank marks = (marks.filterMap id).head?.all isBlank := by
  induction marks with
  | nil => rfl
  | cons mark rest ih =>
    cases mark with
    | none => exact ih
    | some c => rfl

theorem isSealed_text_append (front text : Text) (marks : List (Option Char)) :
    isSealed (front.getLast?.all isBlank) (text.map some ++ marks) =
      isSealed ((front ++ text).getLast?.all isBlank) marks := by
  induction text generalizing front with
  | nil => rw [List.append_nil, List.map_nil, List.nil_append]
  | cons c more ih =>
    have step := ih (front ++ [c])
    rw [List.getLast?_concat, List.append_assoc] at step
    exact step

theorem seenFrom_behind_ne_nil (marks : List (Option Char)) (sequence : none ∈ marks) :
    seenFrom .behind marks ≠ [] := by
  induction marks with
  | nil => exact absurd sequence List.not_mem_nil
  | cons mark rest ih =>
    cases mark with
    | none => exact List.cons_ne_nil _ _
    | some c =>
      rw [seenFrom]
      split_ifs
      · exact ih (List.mem_of_ne_of_mem (Option.some_ne_none c).symm sequence)
      · exact List.cons_ne_nil _ _

theorem seenFrom_append_ne_nil (marks rest : List (Option Char))
    (seen : ∀ stance, seenFrom stance rest ≠ []) (stance : Stance) :
    seenFrom stance (marks ++ rest) ≠ [] := by
  induction marks generalizing stance with
  | nil => exact seen stance
  | cons mark more ih =>
    cases mark with
    | none => exact List.append_ne_nil_of_right_ne_nil _ (ih .inside)
    | some c =>
      rw [List.cons_append, seenFrom]
      split_ifs
      · exact ih _
      · exact List.append_ne_nil_of_right_ne_nil _ (List.cons_ne_nil _ _)

theorem seenFrom_none_cons_ne_nil (stance : Stance) (c : Char) (rest : List (Option Char))
    (sequence : none ∈ rest) : seenFrom stance (none :: some c :: rest) ≠ [] := by
  apply List.append_ne_nil_of_right_ne_nil
  rw [seenFrom]
  split_ifs
  · exact seenFrom_behind_ne_nil rest sequence
  · exact List.cons_ne_nil _ _

def Show (marks : List (Option Char)) (text : Text) : Prop :=
  ∀ stance, strip (collapseFrom stance text) = seenFrom stance marks

@[simp] theorem strip_owed_append (stance : Stance) (rest : Text) :
    strip (stance.owed ++ rest) = stance.owed ++ strip rest := by
  apply strip_append
  cases stance <;> decide

theorem Show.nil : Show [] [] := fun _ => rfl

theorem Show.text_append {marks : List (Option Char)} {rest : Text} (shown : Show marks rest)
    (text : Text) (plain : esc ∉ text) : Show (text.map some ++ marks) (text ++ rest) := by
  induction text with
  | nil => exact shown
  | cons c more ih =>
    rw [List.mem_cons, not_or] at plain
    intro stance
    have later := ih plain.2
    cases blank : isBlank c with
    | true =>
      rw [List.cons_append, collapseFrom_blank stance c _ blank, later, List.map_cons,
        List.cons_append, seenFrom, if_pos blank]
    | false =>
      rw [List.cons_append, collapseFrom_letter stance c _ blank, strip_owed_append,
        strip_other c _ (Ne.symm plain.1), later, List.map_cons, List.cons_append, seenFrom,
        if_neg (by simp [blank])]

theorem Show.setting_append {marks : List (Option Char)} {rest : Text} (shown : Show marks rest)
    (codes : Text) (numeric : ∀ c ∈ codes, Escape.isLetter c = false)
    (whole : ∀ c ∈ codes, isBlank c = false) :
    Show (none :: marks) (Escape.setting codes ++ rest) := by
  intro stance
  rw [Escape.collapseFrom_setting_append stance codes rest whole, strip_owed_append, strip_setting codes _ numeric, shown, seenFrom]

end Marks

namespace Span

@[simp] theorem marks_append (first second : List Span) :
    (first ++ second).flatMap marks = first.flatMap marks ++ second.flatMap marks :=
  List.flatMap_append

theorem show_marks (spans : List Span) (plain : ∀ span ∈ spans, esc ∉ span.text) :
    Marks.Show (spans.flatMap marks) (renders true spans) := by
  induction spans with
  | nil => exact Marks.Show.nil
  | cons span rest ih =>
    have first : esc ∉ span.text := plain span List.mem_cons_self
    have later := ih fun other member => plain other (List.mem_cons_of_mem span member)
    show Marks.Show (span.marks ++ rest.flatMap marks) (span.render true ++ renders true rest)
    cases span with
    | plain text => exact later.text_append text first
    | painted style text =>
      by_cases empty : text = []
      · subst empty
        exact later
      · have codes := style.codes_numeric
        have closed := later.setting_append ['0'] (List.forall_mem_singleton.mpr (by decide))
          (List.forall_mem_singleton.mpr (by decide))
        have shown := (closed.text_append text first).setting_append style.codes
          (fun c member => (codes c member).1) (fun c member => (codes c member).2)
        simpa [render, Style.paint_of_plain style text empty first, marks, empty] using shown

theorem seenFrom_marks_ne_nil (spans : List Span) (stance : Stance) (style : Style) (text : Text)
    (member : .painted style text ∈ spans) (filled : text ≠ []) :
    Marks.seenFrom stance (spans.flatMap marks) ≠ [] := by
  obtain ⟨before, after, rfl⟩ := List.append_of_mem member
  obtain ⟨c, more, rfl⟩ := List.exists_cons_of_ne_nil filled
  rw [marks_append]
  apply Marks.seenFrom_append_ne_nil
  intro stance
  show Marks.seenFrom stance
    (none :: some c :: (more.map some ++ [none] ++ after.flatMap marks)) ≠ []
  apply Marks.seenFrom_none_cons_ne_nil
  simp

def gapes (before after : Text) : Bool :=
  before.getLast?.all isBlank && after.head?.all isBlank

def Sealed (spans : List Span) : Prop :=
  ∀ before style text after, spans = before ++ .painted style text :: after → text ≠ [] →
    gapes (texts before) (text ++ texts after) = false ∧
      gapes (texts before ++ text) (texts after) = false

@[simp] theorem filterMap_marks (spans : List Span) : (spans.flatMap marks).filterMap id = texts spans := by
  induction spans with
  | nil => rfl
  | cons span rest ih =>
    have first : span.marks.filterMap id = span.text := by
      cases span with
      | plain text => simp [marks, Span.text]
      | painted style text => by_cases empty : text = [] <;> simp [marks, Span.text, empty]
    rw [List.flatMap_cons, List.filterMap_append, first, ih]
    rfl

theorem forall_split_cons (span : Span) (rest : List Span)
    (holds : List Span → Style → Text → List Span → Prop) :
    (∀ before style text after, span :: rest = before ++ .painted style text :: after →
        holds before style text after) ↔
      (∀ style text, span = .painted style text → holds [] style text rest) ∧
        ∀ before style text after, rest = before ++ .painted style text :: after →
          holds (span :: before) style text after := by
  constructor
  · intro all
    refine ⟨?_, ?_⟩
    · intro style text same
      exact all [] style text rest (congrArg (· :: rest) same)
    · intro before style text after split
      exact all (span :: before) style text after (congrArg (span :: ·) split)
  · intro both before style text after split
    obtain ⟨here, later⟩ := both
    cases before with
    | nil =>
      obtain ⟨rfl, rfl⟩ := List.cons.inj split
      exact here style text rfl
    | cons first before =>
      obtain ⟨rfl, rfl⟩ := List.cons.inj split
      exact later before style text after rfl

theorem isSealed_painted_append (style : Style) (text : Text) (filled : text ≠ [])
    (rest : List Span) (front : Text) :
    Marks.isSealed (front.getLast?.all isBlank) ((painted style text).marks ++ rest.flatMap marks) =
      (!gapes front (text ++ texts rest) && (!gapes (front ++ text) (texts rest) &&
        Marks.isSealed ((front ++ text).getLast?.all isBlank) (rest.flatMap marks))) := by
  have opens : Marks.opensBlank (text.map some ++ none :: rest.flatMap marks) =
      (text ++ texts rest).head?.all isBlank := by
    rw [Marks.opensBlank_eq, List.filterMap_append, List.filterMap_cons_none rfl, filterMap_marks]
    simp
  have closes : Marks.opensBlank (rest.flatMap marks) = (texts rest).head?.all isBlank := by
    rw [Marks.opensBlank_eq, filterMap_marks]
  have whole : (painted style text).marks ++ rest.flatMap marks =
      none :: (text.map some ++ none :: rest.flatMap marks) := by
    simp [marks, filled]
  rw [whole, Marks.isSealed, opens, Marks.isSealed_text_append, Marks.isSealed, closes]
  rfl

theorem isSealed_marks_iff (spans : List Span) (front : Text) :
    Marks.isSealed (front.getLast?.all isBlank) (spans.flatMap marks) = true ↔
      ∀ before style text after, spans = before ++ .painted style text :: after → text ≠ [] →
        gapes (front ++ texts before) (text ++ texts after) = false ∧
          gapes (front ++ texts before ++ text) (texts after) = false := by
  induction spans generalizing front with
  | nil => simp [Marks.isSealed]
  | cons span rest ih =>
    have next : ∀ before, front ++ texts (span :: before) = front ++ span.text ++ texts before :=
      fun before => (List.append_assoc front span.text (texts before)).symm
    rw [forall_split_cons, List.flatMap_cons]
    simp only [next, ← ih]
    cases span with
    | plain text =>
      rw [marks, Marks.isSealed_text_append]
      simp [Span.text]
    | painted style text =>
      by_cases empty : text = []
      · simp [marks, Span.text, empty]
      · rw [isSealed_painted_append style text empty]
        simp only [Bool.and_eq_true, Bool.not_eq_true', Span.text]
        constructor
        · intro both
          obtain ⟨first, second, later⟩ := both
          refine ⟨?_, later⟩
          intro style text same filled
          cases same
          simpa [texts] using ⟨first, second⟩
        · intro both
          obtain ⟨here, later⟩ := both
          have edges := here style text rfl empty
          simp only [texts, List.flatMap_nil, List.append_nil] at edges
          exact ⟨edges.1, edges.2, later⟩

theorem noGaps_iff_sealed (spans : List Span) (plain : ∀ span ∈ spans, esc ∉ span.text) :
    (strip (renders true spans).collapse).NoGaps ↔ Sealed spans := by
  have seen :
      strip (renders true spans).collapse = Marks.seenFrom .front (spans.flatMap marks) := by
    rw [Text.collapse_eq_collapseFrom, show_marks spans plain]
  have edges : Marks.isSealed true (spans.flatMap marks) = true ↔ Sealed spans :=
    isSealed_marks_iff spans []
  rw [seen, Text.noGaps_iff, ← edges]
  by_cases nothing : Marks.seenFrom .front (spans.flatMap marks) = []
  · have sealed : Sealed spans := by
      intro before style text after split filled
      have member : .painted style text ∈ spans := by
        rw [split]
        exact List.mem_append_right before List.mem_cons_self
      exact absurd nothing (seenFrom_marks_ne_nil _ .front style text member filled)
    exact ⟨fun _ => edges.mpr sealed, fun _ => Or.inl nothing⟩
  · rw [Marks.isSnug_seenFrom_front _ nothing]
    exact ⟨fun either => either.resolve_left nothing, Or.inr⟩

def IsTight : Span → Prop
  | plain _ => True
  | painted _ text => Text.IsTight text

theorem sealed_of_tight (spans : List Span) (tight : ∀ span ∈ spans, span.IsTight) :
    Sealed spans := by
  intro before style text after split filled
  have member : .painted style text ∈ spans := by
    rw [split]
    exact List.mem_append_right before List.mem_cons_self
  have edges : Text.IsTight text := tight _ member
  have front : (text ++ texts after).head?.all isBlank = false := by
    rw [List.head?_append_of_ne_nil text filled, List.head?_eq_some_head filled]
    exact edges.front _ (List.head?_eq_some_head filled)
  have back : (texts before ++ text).getLast?.all isBlank = false := by
    rw [List.getLast?_append_of_ne_nil _ filled, List.getLast?_eq_some_getLast filled]
    exact edges.back _ (List.getLast?_eq_some_getLast filled)
  rw [gapes, gapes, front, back, Bool.and_false, Bool.false_and]
  exact ⟨rfl, rfl⟩

theorem tight_of_mem_counted (style : Style) (glyph : Text) (count : Nat)
    (tight : glyph.IsTight) : ∀ span ∈ counted style glyph count, span.IsTight := by
  have digits : (Numeral.write count).IsTight :=
    Text.isTight_of_letters _ (Numeral.not_blank_of_mem_write count)
  exact forall_mem_shownIf IsTight _ style _ (tight.append digits)

end Span

section Tight

variable (glyphs : Glyphs) (snapshot : Snapshot) (branch : snapshot.branch.IsTight)
  (commit : snapshot.shortCommit.IsTight) (drawn : ∀ glyph ∈ glyphs.all, glyph.IsTight)
include branch commit drawn

theorem Directive.tight_of_mem_spans (directive : Directive) :
    ∀ span ∈ directive.spans glyphs snapshot, span.IsTight := by
  have single : ∀ span : Span, span.IsTight → ∀ other ∈ [span], other.IsTight := by
    intro span tight other member
    rwa [List.mem_singleton.mp member]
  have letter : ∀ c, isBlank c = false → Text.IsTight [c] :=
    fun c letter => Text.isTight_of_letters [c] (List.forall_mem_singleton.mpr letter)
  simp only [Glyphs.all, List.forall_mem_cons] at drawn
  obtain ⟨-, modified, -, -, untracked, -, ahead, behind, stash, -⟩ := drawn
  cases directive with
  | branch => exact single _ branch
  | commit => exact single _ commit
  | drift =>
    rw [spans, List.forall_mem_append]
    exact ⟨Span.tight_of_mem_counted _ _ _ ahead, Span.tight_of_mem_counted _ _ _ behind⟩
  | untracked => exact Span.forall_mem_shownIf Span.IsTight _ _ _ untracked
  | unstaged => exact Span.tight_of_mem_counted _ _ _ modified
  | staged => exact Span.tight_of_mem_counted _ _ _ modified
  | lines =>
    rw [spans, List.forall_mem_append, List.forall_mem_append]
    refine ⟨⟨Span.tight_of_mem_counted _ _ _ (letter '+' (by decide)), ?_⟩,
      Span.tight_of_mem_counted _ _ _ (letter '-' (by decide))⟩
    split_ifs
    · exact single _ trivial
    · exact fun _ absent => absurd absent List.not_mem_nil
  | stash => exact Span.forall_mem_shownIf Span.IsTight _ _ _ stash
  | branchGlyph | systemName | remote | character => exact single _ trivial

theorem Format.tight_of_mem_spans (template : Text) :
    ∀ span ∈ spans glyphs snapshot template, span.IsTight := by
  intro span member
  obtain ⟨piece, -, inside⟩ := List.mem_flatMap.mp member
  cases piece with
  | literal c =>
    rw [List.mem_singleton.mp inside]
    trivial
  | directive named =>
    exact named.tight_of_mem_spans glyphs snapshot branch commit drawn span inside

end Tight

namespace Format

section Plain

variable (look : Appearance) (snapshot : Snapshot) (template : Text) (written : esc ∉ template)
  (branch : esc ∉ snapshot.branch) (remote : esc ∉ snapshot.remote)
  (commit : esc ∉ snapshot.commit) (drawn : ∀ glyph ∈ look.glyphs.all, esc ∉ glyph)
include written branch remote commit drawn

theorem noGaps_strip_render_uncoloured (color : look.color = false) :
    (strip (render look snapshot template)).NoGaps := by
  have plain := plain_of_mem_spans look.glyphs snapshot template written branch remote commit drawn
  have shown : esc ∉ expand look snapshot template := by
    rw [expand_eq, color, Span.renders_false, Span.texts, List.mem_flatMap]
    intro inside
    obtain ⟨span, member, escapes⟩ := inside
    exact plain span member escapes
  rw [render, Escape.strip_of_plain _ (Escape.esc_not_mem_collapse _ shown)]
  exact Text.noGaps_collapse _

theorem noGaps_strip_render_coloured_iff (color : look.color = true) :
    (strip (render look snapshot template)).NoGaps ↔
      Span.Sealed (spans look.glyphs snapshot template) := by
  have plain := plain_of_mem_spans look.glyphs snapshot template written branch remote commit drawn
  rw [render, expand_eq, color]
  exact Span.noGaps_iff_sealed _ plain

theorem noGaps_strip_render_of_tight (branchTight : snapshot.branch.IsTight)
    (commitTight : snapshot.shortCommit.IsTight)
    (drawnTight : ∀ glyph ∈ look.glyphs.all, glyph.IsTight) :
    (strip (render look snapshot template)).NoGaps := by
  by_cases color : look.color = true
  · rw [noGaps_strip_render_coloured_iff look snapshot template written branch remote commit drawn
      color]
    apply Span.sealed_of_tight
    exact tight_of_mem_spans look.glyphs snapshot branchTight commitTight drawnTight template
  · exact noGaps_strip_render_uncoloured look snapshot template written branch remote commit drawn
      (Bool.eq_false_iff.mpr color)

/-- What is seen of a format has no gap exactly when it is shown without colour or no painted text
has at one of its edges a blank that meets another one or an end of the prompt. -/
theorem noGaps_strip_render_iff :
    (strip (render look snapshot template)).NoGaps ↔
      (look.color = true → Span.Sealed (spans look.glyphs snapshot template)) := by
  by_cases color : look.color = true
  · rw [noGaps_strip_render_coloured_iff look snapshot template written branch remote commit drawn
      color]
    exact ⟨fun closed _ => closed, fun closed => closed color⟩
  · have seen := noGaps_strip_render_uncoloured look snapshot template written branch remote commit
      drawn (Bool.eq_false_iff.mpr color)
    exact ⟨fun _ shown => absurd shown color, fun _ => seen⟩

end Plain

def paddedLook : Appearance where
  glyphs := { untracked := [' ', '?'] }

def paddedSnapshot : Snapshot := { branch := "main".toList, untracked := 1 }

/-- The space of the glyph is the only one beside it. -/
theorem noGaps_strip_render_padded :
    strip (render paddedLook paddedSnapshot "%b%u".toList) = "main ?".toList ∧
      (strip (render paddedLook paddedSnapshot "%b%u".toList)).NoGaps := by
  have written : esc ∉ "%b%u".toList := by decide
  have branch : esc ∉ paddedSnapshot.branch := by decide
  have remote : esc ∉ paddedSnapshot.remote := by decide
  have commit : esc ∉ paddedSnapshot.commit := by decide
  have drawn : ∀ glyph ∈ paddedLook.glyphs.all, esc ∉ glyph := by decide
  have closed : Span.Sealed (spans paddedLook.glyphs paddedSnapshot "%b%u".toList) :=
    (Span.isSealed_marks_iff _ []).mp (by decide +kernel)
  have edges := noGaps_strip_render_iff paddedLook paddedSnapshot _ written branch remote commit
    drawn
  refine ⟨?_, edges.mpr fun _ => closed⟩
  decide +kernel

/-- A second space in the format is not collapsed with the one in the glyph. -/
theorem gap_strip_render_padded :
    (esc ∉ "%b %u".toList ∧ esc ∉ paddedSnapshot.branch ∧ esc ∉ paddedSnapshot.remote ∧
        esc ∉ paddedSnapshot.commit ∧ ∀ glyph ∈ paddedLook.glyphs.all, esc ∉ glyph) ∧
      strip (render paddedLook paddedSnapshot "%b %u".toList) = "main  ?".toList ∧
      ¬(strip (render paddedLook paddedSnapshot "%b %u".toList)).NoGaps := by
  have shown : strip (render paddedLook paddedSnapshot "%b %u".toList) = "main  ?".toList := by
    decide +kernel
  refine ⟨by decide, shown, ?_⟩
  rw [shown]
  decide

end Format

end StatusPrompt
