import StatusPrompt.Proofs.Text.Cutting

/-!
Collapsing as a scan. The words of a text say what its collapsed form is; a scan with three stances
(in front of the words, inside one, behind one) gives the same form a character at a time, and that
is the form in which a text with something else in it can be followed. A blank behind a word is
owed until the next word begins, so none is left at the end.
-/

namespace StatusPrompt.Text

inductive Stance where
  | front
  | inside
  | behind
  deriving DecidableEq, Repr

def Stance.afterBlank : Stance → Stance
  | .front => .front
  | _ => .behind

def Stance.owed : Stance → Text
  | .behind => [' ']
  | _ => []

def collapseFrom : Stance → Text → Text
  | _, [] => []
  | stance, c :: rest =>
    if isBlank c then collapseFrom stance.afterBlank rest
    else stance.owed ++ c :: collapseFrom .inside rest

@[simp] theorem Stance.afterBlank_afterBlank (stance : Stance) :
    stance.afterBlank.afterBlank = stance.afterBlank := by
  cases stance <;> rfl

@[simp] theorem collapseFrom_blank (stance : Stance) (c : Char) (rest : Text) (blank : isBlank c = true) :
    collapseFrom stance (c :: rest) = collapseFrom stance.afterBlank rest := by
  rw [collapseFrom, if_pos blank]

@[simp] theorem collapseFrom_letter (stance : Stance) (c : Char) (rest : Text)
    (letter : isBlank c = false) :
    collapseFrom stance (c :: rest) = stance.owed ++ c :: collapseFrom .inside rest := by
  rw [collapseFrom, if_neg (by rw [letter]; exact Bool.false_ne_true)]

@[simp] theorem collapseFrom_inside_append (word rest : Text) (whole : ∀ c ∈ word, isBlank c = false) :
    collapseFrom .inside (word ++ rest) = word ++ collapseFrom .inside rest := by
  induction word with
  | nil => rfl
  | cons c more ih =>
    rw [List.cons_append, collapseFrom_letter _ c _ (whole c List.mem_cons_self),
      ih fun d member => whole d (List.mem_cons_of_mem c member)]
    rfl

/-- A word is written whole, behind what is owed, and leaves the scan inside of it. -/
theorem collapseFrom_word_append (stance : Stance) (word rest : Text) (filled : word ≠ [])
    (whole : ∀ c ∈ word, isBlank c = false) :
    collapseFrom stance (word ++ rest) = stance.owed ++ (word ++ collapseFrom .inside rest) := by
  obtain ⟨c, more, rfl⟩ := List.exists_cons_of_ne_nil filled
  obtain ⟨letter, letters⟩ := List.forall_mem_cons.mp whole
  rw [List.cons_append, collapseFrom_letter stance c _ letter,
    collapseFrom_inside_append more rest letters, List.cons_append]

@[simp] theorem joined_cons (word : Text) (more : List Text) :
    joined [' '] (word :: more) = word ++ more.flatMap (' ' :: ·) := by
  induction more generalizing word with
  | nil => exact (List.append_nil word).symm
  | cons next rest ih =>
    show word ++ [' '] ++ joined [' '] (next :: rest) = _
    rw [ih next, List.flatMap_cons]
    simp only [List.append_assoc, List.cons_append, List.nil_append]

theorem joined_extend (c : Char) (pieces : List Text) (filled : pieces ≠ []) :
    joined [' '] (extend c pieces) = c :: joined [' '] pieces := by
  cases pieces with
  | nil => exact absurd rfl filled
  | cons piece more =>
    show joined [' '] ((c :: piece) :: more) = _
    simp

theorem flatMap_space (pieces : List Text) (filled : pieces ≠ []) :
    pieces.flatMap (' ' :: ·) = ' ' :: joined [' '] pieces := by
  cases pieces with
  | nil => exact absurd rfl filled
  | cons piece more => rw [joined_cons, List.flatMap_cons, List.cons_append]

/-- Behind a word every further word has a space in front; inside a word the letters that follow
are part of it. The two are proved together, since the scan goes back and forth between them. -/
theorem collapseFrom_words (text : Text) :
    collapseFrom .behind text = text.words.flatMap (' ' :: ·) ∧
      ∀ c, isBlank c = false →
        c :: collapseFrom .inside text = joined [' '] (words (c :: text)) := by
  induction text with
  | nil =>
    refine ⟨rfl, ?_⟩
    intro c letter
    rw [words_letter c letter]
    rfl
  | cons d rest ih =>
    obtain ⟨behind, inside⟩ := ih
    cases opens : isBlank d with
    | true =>
      refine ⟨?_, ?_⟩
      · rw [collapseFrom_blank _ d rest opens, words_cons_blank d rest opens]
        exact behind
      · intro c letter
        rw [collapseFrom_blank _ d rest opens, words_letter_blank c d rest letter opens,
          words_cons_blank d rest opens, joined_cons]
        exact congrArg (c :: ·) behind
    | false =>
      have filled : words (d :: rest) ≠ [] := words_ne_nil d rest opens
      refine ⟨?_, ?_⟩
      · rw [collapseFrom_letter _ d rest opens, inside d opens, flatMap_space _ filled]
        rfl
      · intro c letter
        rw [collapseFrom_letter _ d rest opens, words_letter_letter c d rest letter opens,
          joined_extend c _ filled, ← inside d opens]
        rfl

theorem collapse_eq_collapseFrom (text : Text) : text.collapse = collapseFrom .front text := by
  induction text with
  | nil => rfl
  | cons c rest ih =>
    cases opens : isBlank c with
    | true =>
      rw [collapseFrom_blank _ c rest opens, collapse, words_cons_blank c rest opens]
      exact ih
    | false =>
      rw [collapseFrom_letter _ c rest opens]
      exact ((collapseFrom_words rest).2 c opens).symm

theorem mem_of_mem_collapseFrom (stance : Stance) (text : Text) (c : Char)
    (member : c ∈ collapseFrom stance text) : c ∈ text ∨ c = ' ' := by
  induction text generalizing stance with
  | nil => exact absurd member List.not_mem_nil
  | cons d rest ih =>
    cases opens : isBlank d with
    | true =>
      rw [collapseFrom_blank stance d rest opens] at member
      exact (ih _ member).imp_left (List.mem_cons_of_mem d)
    | false =>
      rw [collapseFrom_letter stance d rest opens, List.mem_append, List.mem_cons] at member
      rcases member with owed | rfl | later
      · cases stance with
        | behind => exact Or.inr (List.mem_singleton.mp owed)
        | _ => exact absurd owed List.not_mem_nil
      · exact Or.inl List.mem_cons_self
      · exact (ih _ later).imp_left (List.mem_cons_of_mem d)

theorem eq_space_of_mem_collapse (text : Text) (c : Char) (blank : isBlank c = true)
    (member : c ∈ text.collapse) : c = ' ' := by
  rw [collapse_eq_collapseFrom] at member
  generalize Stance.front = stance at member
  induction text generalizing stance with
  | nil => exact absurd member List.not_mem_nil
  | cons d rest ih =>
    cases opens : isBlank d with
    | true =>
      rw [collapseFrom_blank stance d rest opens] at member
      exact ih _ member
    | false =>
      rw [collapseFrom_letter stance d rest opens, List.mem_append, List.mem_cons] at member
      rcases member with owed | rfl | later
      · cases stance with
        | behind => exact List.mem_singleton.mp owed
        | _ => exact absurd owed List.not_mem_nil
      · rw [opens] at blank
        cases blank
      · exact ih _ later

structure IsTight (text : Text) : Prop where
  front : ∀ c, text.head? = some c → isBlank c = false
  back : ∀ c, text.getLast? = some c → isBlank c = false

theorem isTight_of_letters (text : Text) (letters : ∀ c ∈ text, isBlank c = false) :
    text.IsTight := by
  refine ⟨?_, ?_⟩
  · intro c first
    exact letters c (List.mem_of_head? first)
  · intro c last
    exact letters c (List.mem_of_getLast? last)

theorem IsTight.append {first second : Text} (one : first.IsTight) (two : second.IsTight) :
    (first ++ second).IsTight := by
  by_cases opens : first = []
  · rwa [opens]
  by_cases closes : second = []
  · rwa [closes, List.append_nil]
  refine ⟨?_, ?_⟩
  · rw [List.head?_append_of_ne_nil first opens]
    exact one.front
  · rw [List.getLast?_append_of_ne_nil first closes]
    exact two.back

/-- No blank at either end and no two of them side by side. -/
structure NoGaps (text : Text) : Prop extends IsTight text where
  inside : text.IsChain fun first second => isBlank first = false ∨ isBlank second = false

/-- A scan for gaps, where `blank` says that a blank or the beginning stands in front. The end
counts as a blank. -/
def isSnug : Bool → Text → Bool
  | blank, [] => !blank
  | blank, c :: rest => !(blank && isBlank c) && isSnug (isBlank c) rest

theorem isSnug_cons_iff (c : Char) (rest : Text) :
    isSnug (isBlank c) rest = true ↔
      (c :: rest).IsChain (fun first second => isBlank first = false ∨ isBlank second = false) ∧
        ∀ last, (c :: rest).getLast? = some last → isBlank last = false := by
  induction rest generalizing c with
  | nil => simp [isSnug]
  | cons d more ih =>
    rw [isSnug, Bool.and_eq_true, ih d, List.isChain_cons_cons, List.getLast?_cons_cons, and_assoc,
      Bool.not_eq_true', Bool.and_eq_false_iff]

theorem noGaps_iff (text : Text) : text.NoGaps ↔ text = [] ∨ isSnug true text = true := by
  cases text with
  | nil =>
    have absent : ∀ c : Char, none = some c → isBlank c = false := nofun
    exact ⟨fun _ => Or.inl rfl, fun _ => ⟨⟨absent, absent⟩, List.IsChain.nil⟩⟩
  | cons c rest =>
    have first : isSnug true (c :: rest) = true ↔
        isBlank c = false ∧ isSnug (isBlank c) rest = true := by
      rw [isSnug, Bool.true_and, Bool.and_eq_true, Bool.not_eq_true']
    rw [first, isSnug_cons_iff]
    constructor
    · intro whole
      exact Or.inr ⟨whole.front c rfl, whole.inside, whole.back⟩
    · rintro (empty | ⟨letter, inside, back⟩)
      · cases empty
      · refine ⟨⟨?_, back⟩, inside⟩
        intro d same
        rwa [← Option.some.inj same]

instance (text : Text) : Decidable text.NoGaps := decidable_of_iff _ (noGaps_iff text).symm

theorem isSnug_collapseFrom (stance : Stance) (begun : stance ≠ .front) (text : Text) :
    isSnug false (collapseFrom stance text) = true := by
  induction text generalizing stance with
  | nil => rfl
  | cons c rest ih =>
    cases opens : isBlank c with
    | true =>
      rw [collapseFrom_blank stance c rest opens]
      apply ih
      cases stance <;> simp_all [Stance.afterBlank]
    | false =>
      have later : isSnug false (collapseFrom .inside rest) = true := ih .inside (by decide)
      rw [collapseFrom_letter stance c rest opens]
      cases stance with
      | front => exact absurd rfl begun
      | inside => simp [Stance.owed, isSnug, opens, later]
      | behind => simp [Stance.owed, isSnug, opens, later]

theorem noGaps_collapse (text : Text) : text.collapse.NoGaps := by
  rw [collapse_eq_collapseFrom, noGaps_iff]
  induction text with
  | nil => exact Or.inl rfl
  | cons c rest ih =>
    cases opens : isBlank c with
    | true =>
      rw [collapseFrom_blank .front c rest opens]
      exact ih
    | false =>
      have later : isSnug false (collapseFrom .inside rest) = true :=
        isSnug_collapseFrom .inside (by decide) rest
      rw [collapseFrom_letter .front c rest opens]
      exact Or.inr (by simp [Stance.owed, isSnug, opens, later])

/-- Something is left of a text unless it is all blanks. -/
theorem collapse_ne_nil_iff (text : Text) : text.collapse ≠ [] ↔ ∃ c ∈ text, isBlank c = false := by
  rw [collapse_eq_collapseFrom]
  induction text with
  | nil => simp [collapseFrom]
  | cons c rest ih =>
    cases opens : isBlank c with
    | true =>
      rw [collapseFrom_blank .front c rest opens]
      simpa [Stance.afterBlank, opens] using ih
    | false =>
      rw [collapseFrom_letter .front c rest opens]
      exact ⟨fun _ => ⟨c, List.mem_cons_self, opens⟩, fun _ => List.cons_ne_nil _ _⟩

@[simp] theorem collapse_of_letters (text : Text) (letters : ∀ c ∈ text, isBlank c = false) :
    text.collapse = text := by
  by_cases empty : text = []
  · rw [empty]
    rfl
  · rw [collapse, words_of_word text empty letters]
    rfl

theorem ne_nil_of_mem_words (text word : Text) (member : word ∈ words text) : word ≠ [] := by
  obtain ⟨before, after, split⟩ := List.append_of_mem member
  obtain ⟨front, back, -, earlier, -, through⟩ := exists_cut text word before after split
  rintro rfl
  rw [List.append_nil, earlier] at through
  exact absurd through (by simp)

theorem words_joined (pieces : List Text) (filled : ∀ piece ∈ pieces, piece ≠ [])
    (letters : ∀ piece ∈ pieces, ∀ c ∈ piece, isBlank c = false) :
    words (joined [' '] pieces) = pieces := by
  induction pieces with
  | nil => rfl
  | cons piece more ih =>
    have first : words piece = [piece] :=
      words_of_word piece (filled piece List.mem_cons_self) (letters piece List.mem_cons_self)
    cases more with
    | nil => exact first
    | cons next rest =>
      have later := ih (fun other member => filled other (List.mem_cons_of_mem piece member))
        fun other member => letters other (List.mem_cons_of_mem piece member)
      show words (piece ++ [' '] ++ joined [' '] (next :: rest)) = _
      rw [List.append_assoc, List.singleton_append, words_append_blank ' ' (by decide), first,
        later]
      rfl

@[simp] theorem words_collapse (text : Text) : words text.collapse = words text :=
  words_joined (words text) (ne_nil_of_mem_words text) (not_blank_of_mem_words text)

end StatusPrompt.Text
