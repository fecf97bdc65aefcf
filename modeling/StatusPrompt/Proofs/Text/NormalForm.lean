import Mathlib.Data.List.Chain
import StatusPrompt.Format
import StatusPrompt.Proofs.Text.Collapse

/-!
Collapsed texts as normal forms. The blanks of a collapsed text are single spaces between letters,
and a text whose blanks are so already is left as it is. Collapsing keeps the letters and the words,
and nothing but the words: two texts collapse to the same one exactly when they have the same words.
So a format is shown on one line, whatever line ends stand in it, in the glyphs or in the names.
-/

namespace StatusPrompt

namespace Text

/-- No blank at either end, and every blank a single space between two letters. -/
structure IsCollapsed (text : Text) : Prop extends IsTight text where
  between : ∀ before c after, text = before ++ c :: after → isBlank c = true →
    c = ' ' ∧ (∃ d, before.getLast? = some d ∧ isBlank d = false) ∧
      ∃ d, after.head? = some d ∧ isBlank d = false

def letters (text : Text) : Text := text.filter fun c => !isBlank c

def lineEnds : List Char := ['\n', '\x0b', '\x0c', '\r', '\u0085', '\u2028', '\u2029']

def IsOneLine (text : Text) : Prop := ∀ c ∈ '\t' :: lineEnds, c ∉ text

theorem IsCollapsed.eq_space {text : Text} (collapsed : text.IsCollapsed) (c : Char)
    (member : c ∈ text) (blank : isBlank c = true) : c = ' ' := by
  obtain ⟨before, after, split⟩ := List.append_of_mem member
  exact (collapsed.between before c after split blank).1

theorem isCollapsed_of_noGaps {text : Text} (snug : text.NoGaps)
    (spaces : ∀ c ∈ text, isBlank c = true → c = ' ') : text.IsCollapsed := by
  refine ⟨snug.toIsTight, ?_⟩
  intro before c after split blank
  obtain rfl := split
  have neighbours := List.isChain_iff_forall_rel_of_append_cons_cons.mp snug.inside
  have apart : isBlank c ≠ false := by
    rw [blank]
    decide
  refine ⟨spaces c (List.mem_append_right before List.mem_cons_self) blank, ?_, ?_⟩
  · rcases List.eq_nil_or_concat' before with rfl | ⟨front, d, rfl⟩
    · exact absurd (snug.front c rfl) apart
    · have either := neighbours (show front ++ [d] ++ c :: after = front ++ d :: c :: after by simp)
      exact ⟨d, List.getLast?_concat, either.resolve_right apart⟩
  · cases after with
    | nil => exact absurd (snug.back c List.getLast?_concat) apart
    | cons d back => exact ⟨d, rfl, (neighbours rfl).resolve_left apart⟩

theorem IsCollapsed.noGaps {text : Text} (collapsed : text.IsCollapsed) : text.NoGaps := by
  refine ⟨collapsed.toIsTight, ?_⟩
  rw [List.isChain_iff_forall_rel_of_append_cons_cons]
  intro first second before after split
  cases blank : isBlank first with
  | false => exact Or.inl rfl
  | true =>
    obtain ⟨-, -, d, next, letter⟩ := collapsed.between before first (second :: after) split blank
    obtain rfl : second = d := Option.some.inj next
    exact Or.inr letter

theorem isCollapsed_collapse (text : Text) : text.collapse.IsCollapsed :=
  isCollapsed_of_noGaps (noGaps_collapse text) fun c member blank =>
    eq_space_of_mem_collapse text c blank member

/-- A space that the scan owes is all that it adds to a text without gaps. In front of a word or
behind a blank, no blank may follow. -/
theorem collapseFrom_of_isSnug (stance : Stance) (text : Text)
    (snug : isSnug (stance != .inside) text = true)
    (spaces : ∀ c ∈ text, isBlank c = true → c = ' ') :
    collapseFrom stance text = stance.owed ++ text := by
  induction text generalizing stance with
  | nil =>
    cases stance with
    | inside => rfl
    | _ => cases snug
  | cons c rest ih =>
    obtain ⟨first, later⟩ := List.forall_mem_cons.mp spaces
    rw [isSnug, Bool.and_eq_true, Bool.not_eq_true'] at snug
    obtain ⟨here, behind⟩ := snug
    cases blank : isBlank c with
    | true =>
      rw [blank] at here behind
      cases stance with
      | inside =>
        rw [collapseFrom_blank _ c rest blank]
        show collapseFrom .behind rest = c :: rest
        rw [ih .behind behind later, first blank]
        rfl
      | _ => cases here
    | false =>
      rw [blank] at behind
      rw [collapseFrom_letter stance c rest blank, ih .inside behind later]
      rfl

theorem collapse_eq_self_iff (text : Text) : text.collapse = text ↔ text.IsCollapsed := by
  constructor
  · intro same
    rw [← same]
    exact isCollapsed_collapse text
  · intro collapsed
    rw [collapse_eq_collapseFrom]
    rcases (noGaps_iff text).mp collapsed.noGaps with rfl | snug
    · rfl
    · exact collapseFrom_of_isSnug .front text snug collapsed.eq_space

@[simp] theorem letters_collapseFrom (stance : Stance) (text : Text) :
    (collapseFrom stance text).letters = text.letters := by
  induction text generalizing stance with
  | nil => rfl
  | cons c rest ih =>
    cases blank : isBlank c with
    | true =>
      rw [collapseFrom_blank stance c rest blank, ih]
      simp [letters, blank]
    | false =>
      have owed : stance.owed.letters = [] := by cases stance <;> decide
      rw [collapseFrom_letter stance c rest blank]
      simp only [letters] at ih owed ⊢
      simp [owed, blank, ih]

@[simp] theorem letters_collapse (text : Text) : text.collapse.letters = text.letters := by
  simp [collapse_eq_collapseFrom]

theorem collapse_eq_collapse_iff (text other : Text) :
    text.collapse = other.collapse ↔ text.words = other.words := by
  constructor
  · intro same
    rw [← words_collapse text, same, words_collapse]
  · intro same
    rw [collapse, same, collapse]

theorem IsCollapsed.isOneLine {text : Text} (collapsed : text.IsCollapsed) : text.IsOneLine := by
  intro c breaks member
  have blanks : ('\t' :: lineEnds).all isBlank = true := by decide
  have noSpace : ' ' ∉ '\t' :: lineEnds := by decide
  have blank : isBlank c = true := List.all_eq_true.mp blanks c breaks
  rw [collapsed.eq_space c member blank] at breaks
  exact noSpace breaks

/-- Collapsing brings a text into the normal form of its words, in which a format is shown. -/
theorem collapse_normalForm (text other : Text) (look : Appearance) (snapshot : Snapshot)
    (format : Text) :
    text.collapse.IsCollapsed ∧ text.collapse.letters = text.letters ∧
      text.collapse.collapse = text.collapse ∧ (text.collapse = text ↔ text.IsCollapsed) ∧
      (text.collapse = other.collapse ↔ text.words = other.words) ∧
      (Format.render look snapshot format).IsCollapsed ∧
      (Format.render look snapshot format).IsOneLine := by
  have shown : (Format.render look snapshot format).IsCollapsed := isCollapsed_collapse _
  exact ⟨isCollapsed_collapse text, letters_collapse text,
    (collapse_eq_self_iff text.collapse).mpr (isCollapsed_collapse text),
    collapse_eq_self_iff text, collapse_eq_collapse_iff text other, shown, shown.isOneLine⟩

end Text

end StatusPrompt
