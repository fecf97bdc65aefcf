import StatusPrompt.Proofs.Text.Collapse
import StatusPrompt.Style

/-!
Stripping and what it leaves alone. A text without an escape character passes through whatever
follows it, a sequence is taken out whole, and so a painted text strips to the text itself. Where a
text holds sequences of its own, or parts of them, painting leaves them to strip as they did before.
Stripping and collapsing do not disturb each other: a blank is neither the escape character nor
the bracket nor a letter, so the sequences of a text are the same before and after its blanks are
collapsed.
-/

namespace StatusPrompt.Escape

open Text (Stance collapseFrom collapseFrom_blank collapseFrom_letter collapse_eq_collapseFrom)

@[simp] theorem not_blank_esc : isBlank esc = false := by decide

@[simp] theorem not_blank_bracket : isBlank '[' = false := by decide

theorem not_blank_of_mem_setting (codes : Text) (letters : ∀ c ∈ codes, isBlank c = false) :
    ∀ c ∈ setting codes, isBlank c = false := by
  simp only [setting, List.forall_mem_cons, List.forall_mem_append]
  exact ⟨not_blank_esc, not_blank_bracket, letters, by decide, nofun⟩

theorem ne_of_blank (c d : Char) (blank : isBlank c = true) (other : isBlank d = false) :
    c ≠ d := by
  intro same
  rw [same, other] at blank
  cases blank

theorem not_letter_of_blank (c : Char) (blank : isBlank c = true) : isLetter c = false := by
  rw [← Bool.not_eq_true]
  intro letter
  have outside := Text.bounds_of_blank c blank
  simp only [Char.toNat] at outside
  simp only [isLetter, Bool.or_eq_true, Bool.and_eq_true, decide_eq_true_eq, Char.le_def,
    UInt32.le_iff_toNat_le, Char.reduceVal, UInt32.reduceToNat] at letter
  omega

@[simp] theorem stripFrom_passed (c : Char) (rest : Text) (passed : isLetter c = false) :
    stripFrom true (c :: rest) = stripFrom true rest := by
  rw [stripFrom, passed, Bool.not_false]

/-- What closes a sequence that is open: everything up to the first letter. -/
def IsTail (text : Text) : Prop :=
  ∃ body last, text = body ++ [last] ∧ (∀ c ∈ body, isLetter c = false) ∧ isLetter last = true

def IsSequence (text : Text) : Prop :=
  ∃ tail, text = esc :: tail ∧ tail.head? = some '[' ∧ IsTail tail

theorem IsTail.ne_nil {text : Text} (closes : IsTail text) : text ≠ [] := by
  obtain ⟨body, last, rfl, -, -⟩ := closes
  exact List.append_ne_nil_of_right_ne_nil body (List.cons_ne_nil last [])

theorem isTail_letter (c : Char) (letter : isLetter c = true) : IsTail [c] :=
  ⟨[], c, rfl, nofun, letter⟩

theorem IsTail.cons {text : Text} (closes : IsTail text) (c : Char)
    (passed : isLetter c = false) : IsTail (c :: text) := by
  obtain ⟨body, last, rfl, within, letter⟩ := closes
  exact ⟨c :: body, last, rfl, List.forall_mem_cons.mpr ⟨passed, within⟩, letter⟩

@[simp] theorem stripFrom_tail (tail rest : Text) (closes : IsTail tail) :
    stripFrom true (tail ++ rest) = strip rest := by
  obtain ⟨body, last, rfl, passed, letter⟩ := closes
  induction body with
  | nil =>
    show stripFrom true (last :: rest) = _
    rw [stripFrom, letter, Bool.not_true]
    rfl
  | cons d more ih =>
    obtain ⟨here, later⟩ := List.forall_mem_cons.mp passed
    rw [List.cons_append, List.cons_append, stripFrom_passed d _ here]
    exact ih later

@[simp] theorem strip_other (c : Char) (rest : Text) (other : c ≠ esc) :
    strip (c :: rest) = c :: strip rest := by
  unfold strip
  rw [stripFrom, if_neg fun opens => other opens.1]

@[simp] theorem strip_append (text rest : Text) (plain : esc ∉ text) :
    strip (text ++ rest) = text ++ strip rest := by
  induction text with
  | nil => rfl
  | cons c more ih =>
    rw [List.mem_cons, not_or] at plain
    simp [Ne.symm plain.1, ih plain.2]

@[simp] theorem strip_of_plain (text : Text) (plain : esc ∉ text) : strip text = text := by
  have whole := strip_append text [] plain
  rwa [List.append_nil, show strip [] = [] from rfl, List.append_nil] at whole

theorem strip_sequence (sequence rest : Text) (whole : IsSequence sequence) :
    strip (sequence ++ rest) = strip rest := by
  obtain ⟨tail, rfl, bracket, closes⟩ := whole
  have opens : (tail ++ rest).head? = some '[' := by
    rw [List.head?_append_of_ne_nil tail closes.ne_nil, bracket]
  show stripFrom false (esc :: (tail ++ rest)) = strip rest
  rw [stripFrom, if_pos ⟨rfl, opens⟩, stripFrom_tail tail rest closes]

@[simp] theorem strip_setting (codes rest : Text) (numeric : ∀ c ∈ codes, isLetter c = false) :
    strip (setting codes ++ rest) = strip rest := by
  have passed : ∀ c ∈ '[' :: codes, isLetter c = false :=
    List.forall_mem_cons.mpr ⟨by decide, numeric⟩
  exact strip_sequence _ rest ⟨_, rfl, rfl, '[' :: codes, 'm', rfl, passed, by decide⟩

@[simp] theorem reopen_of_plain (codes text : Text) (plain : esc ∉ text) : reopen codes text = text := by
  induction text with
  | nil => rfl
  | cons c more ih =>
    rw [List.mem_cons, not_or] at plain
    rw [reopen.eq_3 codes c more fun rest same _ => plain.1 same.symm, ih plain.2]

@[simp] theorem stripFrom_reset (inside : Bool) (rest : Text) :
    stripFrom inside (reset ++ rest) = strip rest := by
  have closes : IsTail reset := (((isTail_letter 'm' rfl).cons '0' rfl).cons '[' rfl).cons esc rfl
  cases inside with
  | true => exact stripFrom_tail reset rest closes
  | false => exact strip_setting ['0'] rest (List.forall_mem_singleton.mpr rfl)

/-- What is written into a text and behind it never begins with a bracket, so it opens no sequence
for the character in front. -/
@[simp] theorem head?_reopen_iff (codes text : Text) :
    (reopen codes text ++ reset).head? = some '[' ↔ text.head? = some '[' := by
  fun_cases reopen codes text with
  | case1 => decide
  | case2 rest => rfl
  | case3 c rest other => rfl

/-- The sequences that are written into a text strip with the resets that they follow. The
induction follows the resets of the text, and the stripper may be inside of a sequence at any of
them. -/
theorem stripFrom_reopen (codes : Text) (numeric : ∀ c ∈ codes, isLetter c = false)
    (inside : Bool) (text : Text) :
    stripFrom inside (reopen codes text ++ reset) = stripFrom inside text := by
  fun_induction reopen codes text generalizing inside with
  | case1 => cases inside <;> rfl
  | case2 rest ih =>
    calc
      stripFrom inside (reset ++ setting codes ++ reopen codes rest ++ reset)
        = stripFrom inside (reset ++ (setting codes ++ (reopen codes rest ++ reset))) := by
          simp only [List.append_assoc]
      _ = strip (setting codes ++ (reopen codes rest ++ reset)) := stripFrom_reset inside _
      _ = strip (reopen codes rest ++ reset) := strip_setting codes _ numeric
      _ = strip rest := ih false
      _ = stripFrom inside (reset ++ rest) := (stripFrom_reset inside rest).symm
  | case3 c rest other ih =>
    rw [List.cons_append]
    cases inside with
    | true => rw [stripFrom, stripFrom, ih]
    | false =>
      have opens := head?_reopen_iff codes rest
      simp only [stripFrom, opens, ih]

theorem esc_not_mem_collapse (text : Text) (plain : esc ∉ text) : esc ∉ text.collapse := by
  intro member
  rw [collapse_eq_collapseFrom] at member
  rcases Text.mem_of_mem_collapseFrom .front text esc member with inside | space
  · exact plain inside
  · exact absurd space (by decide)

theorem collapseFrom_setting_append (stance : Stance) (codes rest : Text)
    (whole : ∀ c ∈ codes, isBlank c = false) :
    collapseFrom stance (setting codes ++ rest) =
      stance.owed ++ (setting codes ++ collapseFrom .inside rest) :=
  Text.collapseFrom_word_append stance _ rest (List.cons_ne_nil _ _)
    (not_blank_of_mem_setting codes whole)

theorem collapseFrom_behind_head? (text : Text) (c : Char)
    (first : (collapseFrom .behind text).head? = some c) : c = ' ' := by
  rw [(Text.collapseFrom_words text).1] at first
  cases split : text.words with
  | nil =>
    rw [split] at first
    cases first
  | cons word more =>
    rw [split] at first
    exact (Option.some.inj first).symm

theorem collapseFrom_bracket_iff (rest : Text) :
    (collapseFrom .inside rest).head? = some '[' ↔ rest.head? = some '[' := by
  cases rest with
  | nil => rfl
  | cons c more =>
    cases blank : isBlank c with
    | true =>
      rw [collapseFrom_blank _ c more blank]
      constructor
      · intro first
        exact absurd (collapseFrom_behind_head? more '[' first) (by decide)
      · intro first
        exact absurd (Option.some.inj first) (ne_of_blank c '[' blank not_blank_bracket)
    | false =>
      rw [collapseFrom_letter _ c more blank]
      rfl

/-- Stripping a letter that does not close a sequence. The letter itself is left or taken out with
the text in front of it and behind it unchanged. -/
theorem collapseFrom_stripFrom_letter (outer : Stance) (inside : Bool) (c : Char) (rest : Text)
    (letter : isBlank c = false)
    (ih : ∀ outer inside, collapseFrom outer (stripFrom inside (collapseFrom .inside rest)) =
      collapseFrom outer (stripFrom inside rest)) :
    collapseFrom outer (stripFrom inside (c :: collapseFrom .inside rest)) =
      collapseFrom outer (stripFrom inside (c :: rest)) := by
  cases inside with
  | true => rw [stripFrom, stripFrom, ih]
  | false =>
    rw [stripFrom, stripFrom]
    by_cases opens : c = esc ∧ rest.head? = some '['
    · rw [if_pos opens, if_pos ⟨opens.1, (collapseFrom_bracket_iff rest).mpr opens.2⟩, ih]
    · rw [if_neg opens,
        if_neg fun other => opens ⟨other.1, (collapseFrom_bracket_iff rest).mp other.2⟩,
        collapseFrom_letter outer c _ letter, collapseFrom_letter outer c _ letter, ih]

/-- The collapse after stripping does not see one before it. Outside a sequence, the blank that
the first collapse owes is one that the second has already passed. -/
theorem collapseFrom_stripFrom (outer inner : Stance) (inside : Bool) (text : Text)
    (begun : inner = .front → outer = .front) :
    collapseFrom outer (stripFrom inside (collapseFrom inner text)) =
      collapseFrom (if inner = .behind ∧ inside = false then outer.afterBlank else outer)
        (stripFrom inside text) := by
  induction text generalizing outer inner inside with
  | nil => simp only [collapseFrom, stripFrom]
  | cons c rest ih =>
    cases blank : isBlank c with
    | true =>
      have further : inner.afterBlank = .front → outer = .front := by
        intro front
        cases inner with
        | front => exact begun rfl
        | _ => cases front
      rw [collapseFrom_blank inner c rest blank, ih outer inner.afterBlank inside further]
      cases inside with
      | true =>
        rw [stripFrom_passed c rest (not_letter_of_blank c blank)]
        simp only [Bool.true_eq_false, and_false, ↓reduceIte]
      | false =>
        change _ = collapseFrom _ (strip (c :: rest))
        rw [strip_other c rest (ne_of_blank c esc blank not_blank_esc),
          collapseFrom_blank _ c _ blank]
        cases inner with
        | front =>
          rw [begun rfl]
          rfl
        | inside => rfl
        | behind =>
          show collapseFrom outer.afterBlank _ = collapseFrom outer.afterBlank.afterBlank _
          rw [Stance.afterBlank_afterBlank]
          rfl
    | false =>
      have later : ∀ outer inside,
          collapseFrom outer (stripFrom inside (collapseFrom .inside rest)) =
            collapseFrom outer (stripFrom inside rest) :=
        fun outer inside => ih outer .inside inside fun front => absurd front (by decide)
      rw [collapseFrom_letter inner c rest blank]
      cases inner with
      | behind =>
        cases inside with
        | true => exact collapseFrom_stripFrom_letter outer true c rest blank later
        | false => exact collapseFrom_stripFrom_letter outer.afterBlank false c rest blank later
      | _ => exact collapseFrom_stripFrom_letter outer inside c rest blank later

theorem collapse_strip_collapse (text : Text) :
    (strip text.collapse).collapse = (strip text).collapse := by
  simp only [collapse_eq_collapseFrom]
  exact collapseFrom_stripFrom .front .front false text fun front => front

end StatusPrompt.Escape
