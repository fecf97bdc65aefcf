import Mathlib.Data.List.Infix
import StatusPrompt.Proofs.Text.Escape

/-!
What stripping leaves behind. Sequences are taken out in one pass, and what stood in front of a
sequence and behind it are neighbours from then on. An escape character that opened nothing can so
come to stand in front of a bracket, where it opens a sequence that the text did not have. There is
no other way: what is left holds a sequence, and changes when it is stripped again, exactly when the
text has such a seam.
-/

namespace StatusPrompt.Escape

def opening : Text := [esc, '[']

/-- Whether a sequence is open at the end of a text: it has been opened, and no letter has come
since. -/
def IsOpen (text : Text) : Prop :=
  ∃ front body, text = front ++ esc :: body ∧ body.head? = some '[' ∧
    ∀ c ∈ body, isLetter c = false

def Uncovers (text : Text) : Prop :=
  ∃ row after, text = row.flatten ++ '[' :: after ∧ row ≠ [] ∧ ∀ sequence ∈ row, IsSequence sequence

/-- An escape character outside of any sequence to which a bracket is brought, where `isOpen` says
which texts in front of it leave a sequence open. -/
def SeamAfter (isOpen : Text → Prop) (text : Text) : Prop :=
  ∃ before rest, text = before ++ esc :: rest ∧ ¬isOpen before ∧ Uncovers rest

def HasSeam (text : Text) : Prop := SeamAfter IsOpen text

def IsOpenFrom (inside : Bool) (text : Text) : Prop :=
  IsOpen text ∨ (inside = true ∧ ∀ c ∈ text, isLetter c = false)

theorem strip_row (row : List Text) (rest : Text)
    (whole : ∀ sequence ∈ row, IsSequence sequence) :
    strip (row.flatten ++ rest) = strip rest := by
  induction row with
  | nil => rfl
  | cons sequence more ih =>
    obtain ⟨first, later⟩ := List.forall_mem_cons.mp whole
    rw [List.flatten_cons, List.append_assoc, strip_sequence sequence _ first, ih later]

/-- The first character that is left of a text stands behind whole sequences only, and behind the
end of one that is open in front. -/
theorem exists_row (inside : Bool) (text : Text) (c : Char)
    (first : (stripFrom inside text).head? = some c) :
    ∃ (lead : Text) (row : List Text) (after : Text),
      text = lead ++ (row.flatten ++ c :: after) ∧
      (if inside then IsTail lead else lead = []) ∧ ∀ sequence ∈ row, IsSequence sequence := by
  induction text generalizing inside with
  | nil => cases inside <;> cases first
  | cons d rest ih =>
    cases inside with
    | true =>
      rw [stripFrom] at first
      obtain ⟨lead, row, after, split, led, whole⟩ := ih _ first
      refine ⟨d :: lead, row, after, by rw [split, List.cons_append], ?_, whole⟩
      cases letter : isLetter d with
      | true =>
        rw [letter] at led
        rw [show lead = [] from led]
        exact isTail_letter d letter
      | false =>
        rw [letter] at led
        exact IsTail.cons led d letter
    | false =>
      rw [stripFrom] at first
      split_ifs at first with opens
      · obtain ⟨lead, row, after, rfl, led, whole⟩ := ih true first
        have closes : IsTail lead := led
        have bracket : lead.head? = some '[' := by
          rw [← List.head?_append_of_ne_nil lead closes.ne_nil]
          exact opens.2
        refine ⟨[], (esc :: lead) :: row, after, ?_, rfl, ?_⟩
        · rw [opens.1]
          simp only [List.flatten_cons, List.cons_append, List.append_assoc, List.nil_append]
        · exact List.forall_mem_cons.mpr ⟨⟨lead, rfl, bracket, closes⟩, whole⟩
      · obtain rfl : d = c := Option.some.inj first
        exact ⟨[], [], rest, rfl, rfl, List.forall_mem_nil _⟩

theorem Uncovers.head?_eq {text : Text} (uncovers : Uncovers text) : text.head? = some esc := by
  obtain ⟨row, after, rfl, filled, whole⟩ := uncovers
  obtain ⟨sequence, more, rfl⟩ := List.exists_cons_of_ne_nil filled
  obtain ⟨tail, rfl, -, -⟩ := whole sequence List.mem_cons_self
  rfl

theorem head?_strip_iff (text : Text) :
    (strip text).head? = some '[' ↔ text.head? = some '[' ∨ Uncovers text := by
  constructor
  · intro first
    obtain ⟨lead, row, after, rfl, led, whole⟩ := exists_row false text '[' first
    rw [show lead = [] from led, List.nil_append]
    by_cases bare : row = []
    · rw [bare]
      exact Or.inl rfl
    · exact Or.inr ⟨row, after, rfl, bare, whole⟩
  · intro either
    rcases either with first | ⟨row, after, rfl, -, whole⟩
    · obtain ⟨rest, rfl⟩ := List.head?_eq_some_iff.mp first
      rw [strip_other '[' rest (by decide)]
      rfl
    · rw [strip_row row _ whole, strip_other '[' after (by decide)]
      rfl

theorem isOpen_cons_iff (c : Char) (text : Text) :
    IsOpen (c :: text) ↔
      (c = esc ∧ text.head? = some '[' ∧ ∀ d ∈ text, isLetter d = false) ∨ IsOpen text := by
  constructor
  · intro opened
    obtain ⟨front, body, split, bracket, within⟩ := opened
    cases front with
    | nil =>
      obtain ⟨rfl, rfl⟩ := List.cons.inj split
      exact Or.inl ⟨rfl, bracket, within⟩
    | cons d more =>
      obtain ⟨-, rfl⟩ := List.cons.inj split
      exact Or.inr ⟨more, body, rfl, bracket, within⟩
  · intro either
    rcases either with ⟨rfl, bracket, within⟩ | ⟨front, body, rfl, bracket, within⟩
    · exact ⟨[], text, rfl, bracket, within⟩
    · exact ⟨c :: front, body, rfl, bracket, within⟩

@[simp] theorem isOpenFrom_nil_iff (inside : Bool) : IsOpenFrom inside [] ↔ inside = true := by
  constructor
  · intro opened
    rcases opened with ⟨front, body, split, -, -⟩ | ⟨within, -⟩
    · exact absurd split (by simp)
    · exact within
  · intro within
    exact Or.inr ⟨within, nofun⟩

@[simp] theorem isOpenFrom_true_cons (c : Char) (text : Text) :
    IsOpenFrom true (c :: text) ↔ IsOpenFrom (!isLetter c) text := by
  have passed : c = esc → isLetter c = false := by
    intro same
    rw [same]
    decide
  unfold IsOpenFrom
  rw [isOpen_cons_iff, List.forall_mem_cons, Bool.not_eq_true']
  tauto

theorem isOpenFrom_opening (text : Text) (bracket : text.head? = some '[') :
    IsOpenFrom false (esc :: text) ↔ IsOpenFrom true text := by
  unfold IsOpenFrom
  rw [isOpen_cons_iff]
  simp only [bracket]
  tauto

theorem isOpenFrom_other (c : Char) (text : Text) (other : ¬(c = esc ∧ text.head? = some '[')) :
    IsOpenFrom false (c :: text) ↔ IsOpenFrom false text := by
  unfold IsOpenFrom
  rw [isOpen_cons_iff]
  tauto

theorem seamAfter_congr (one other : Text → Prop) (text : Text)
    (same : ∀ before rest, text = before ++ esc :: rest → (one before ↔ other before)) :
    SeamAfter one text ↔ SeamAfter other text := by
  constructor
  · intro seam
    obtain ⟨before, rest, split, outside, uncovers⟩ := seam
    exact ⟨before, rest, split, (not_congr (same before rest split)).mp outside, uncovers⟩
  · intro seam
    obtain ⟨before, rest, split, outside, uncovers⟩ := seam
    exact ⟨before, rest, split, (not_congr (same before rest split)).mpr outside, uncovers⟩

theorem seamAfter_cons_iff (isOpen : Text → Prop) (c : Char) (text : Text) :
    SeamAfter isOpen (c :: text) ↔
      (¬isOpen [] ∧ c = esc ∧ Uncovers text) ∨
        SeamAfter (fun before => isOpen (c :: before)) text := by
  constructor
  · intro seam
    obtain ⟨before, rest, split, outside, uncovers⟩ := seam
    cases before with
    | nil =>
      obtain ⟨rfl, rfl⟩ := List.cons.inj split
      exact Or.inl ⟨outside, rfl, uncovers⟩
    | cons d more =>
      obtain ⟨rfl, rfl⟩ := List.cons.inj split
      exact Or.inr ⟨more, rest, rfl, outside, uncovers⟩
  · intro either
    rcases either with ⟨outside, rfl, uncovers⟩ | ⟨before, rest, rfl, outside, uncovers⟩
    · exact ⟨[], text, rfl, outside, uncovers⟩
    · exact ⟨c :: before, rest, rfl, outside, uncovers⟩

theorem seamAfter_true_cons (c : Char) (text : Text) :
    SeamAfter (IsOpenFrom true) (c :: text) ↔ SeamAfter (IsOpenFrom (!isLetter c)) text := by
  rw [seamAfter_cons_iff, isOpenFrom_nil_iff,
    seamAfter_congr _ _ text fun before _ _ => isOpenFrom_true_cons c before]
  simp only [not_true_eq_false, false_and, false_or]

/-- What stands in front of an escape character begins with a bracket if the whole text does. -/
theorem head?_append_esc_iff (before rest : Text) :
    (before ++ esc :: rest).head? = some '[' ↔ before.head? = some '[' := by
  cases before with
  | nil => exact iff_of_false (by simp [esc]) (by simp)
  | cons c more => rfl

theorem seamAfter_opening (text : Text) (bracket : text.head? = some '[') :
    SeamAfter (IsOpenFrom false) (esc :: text) ↔ SeamAfter (IsOpenFrom true) text := by
  have covered : ¬Uncovers text := by
    intro uncovers
    rw [uncovers.head?_eq] at bracket
    exact absurd bracket (by decide)
  have opened : ∀ before rest, text = before ++ esc :: rest →
      (IsOpenFrom false (esc :: before) ↔ IsOpenFrom true before) := by
    intro before rest split
    rw [split] at bracket
    exact isOpenFrom_opening before ((head?_append_esc_iff before rest).mp bracket)
  rw [seamAfter_cons_iff, seamAfter_congr _ _ text opened]
  simp only [covered, and_false, false_or]

theorem seamAfter_other (c : Char) (text : Text) (other : ¬(c = esc ∧ text.head? = some '[')) :
    SeamAfter (IsOpenFrom false) (c :: text) ↔
      (c = esc ∧ Uncovers text) ∨ SeamAfter (IsOpenFrom false) text := by
  have passed : ∀ before rest, text = before ++ esc :: rest →
      (IsOpenFrom false (c :: before) ↔ IsOpenFrom false before) := by
    intro before rest split
    rw [split, head?_append_esc_iff] at other
    exact isOpenFrom_other c before other
  rw [seamAfter_cons_iff, isOpenFrom_nil_iff, seamAfter_congr _ _ text passed]
  simp only [Bool.false_eq_true, not_false_eq_true, true_and]

theorem opening_infix_cons_iff (c : Char) (text : Text) :
    opening <:+: c :: text ↔ (c = esc ∧ text.head? = some '[') ∨ opening <:+: text := by
  rw [List.infix_cons_iff, opening, List.cons_prefix_cons, List.head?_eq_some_iff]
  apply or_congr_left
  exact and_congr eq_comm (exists_congr fun rest => eq_comm)

theorem opening_infix_stripFrom_iff (inside : Bool) (text : Text) :
    opening <:+: stripFrom inside text ↔ SeamAfter (IsOpenFrom inside) text := by
  induction text generalizing inside with
  | nil =>
    have left : stripFrom inside [] = [] := by cases inside <;> rfl
    rw [left]
    simp [opening, SeamAfter]
  | cons c rest ih =>
    cases inside with
    | true => rw [stripFrom, ih, seamAfter_true_cons]
    | false =>
      rw [stripFrom]
      split_ifs with opens
      · rw [ih, opens.1, seamAfter_opening rest opens.2]
      · rw [opening_infix_cons_iff, ih, seamAfter_other c rest opens]
        apply or_congr_left
        show c = esc ∧ (strip rest).head? = some '[' ↔ _
        rw [head?_strip_iff]
        tauto

theorem opening_infix_strip_iff (text : Text) : opening <:+: strip text ↔ HasSeam text := by
  have outside : ∀ before, IsOpenFrom false before ↔ IsOpen before := by
    intro before
    simp [IsOpenFrom]
  rw [strip, opening_infix_stripFrom_iff, HasSeam,
    seamAfter_congr _ _ text fun before _ _ => outside before]

theorem length_stripFrom_le (inside : Bool) (text : Text) :
    (stripFrom inside text).length ≤ text.length := by
  induction text generalizing inside with
  | nil => cases inside <;> exact Nat.le_refl 0
  | cons c rest ih =>
    cases inside with
    | true => exact (ih _).trans (Nat.le_succ _)
    | false =>
      rw [stripFrom]
      split_ifs
      · exact (ih true).trans (Nat.le_succ _)
      · exact Nat.succ_le_succ (ih false)

theorem strip_eq_self_iff (text : Text) : strip text = text ↔ ¬opening <:+: text := by
  induction text with
  | nil => simp [opening, strip, stripFrom]
  | cons c rest ih =>
    rw [opening_infix_cons_iff, strip, stripFrom]
    split_ifs with opens
    · have shorter := length_stripFrom_le true rest
      have changed : stripFrom true rest ≠ c :: rest := by
        intro same
        rw [same, List.length_cons] at shorter
        omega
      exact iff_of_false changed (not_not_intro (Or.inl opens))
    · rw [List.cons.injEq]
      simp only [true_and, opens, false_or]
      exact ih

/-- A sequence is left exactly if the text has a seam, and only then is there something to strip
the second time. -/
theorem strip_complete_iff (text : Text) :
    (opening <:+: strip text ↔ HasSeam text) ∧
      (strip (strip text) = strip text ↔ ¬HasSeam text) := by
  have left : opening <:+: strip text ↔ HasSeam text := opening_infix_strip_iff text
  exact ⟨left, (strip_eq_self_iff (strip text)).trans (not_congr left)⟩

def seamedText : Text := esc :: (reset ++ "[31mred".toList ++ reset)

theorem strip_seamed :
    strip seamedText = esc :: "[31mred".toList ∧ opening <:+: strip seamedText ∧
      strip (strip seamedText) ≠ strip seamedText := by
  decide

end StatusPrompt.Escape
