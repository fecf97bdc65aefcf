import Mathlib.Data.List.Basic
import Mathlib.Data.List.TakeWhile
import StatusPrompt.Text.Lines

/-!
How a text is cut. A blank cuts the words of a text in two, so the words in front of it stand
whatever follows. The lines of a text are its pieces between line feeds, less the carriage return
in front of a line feed and less an empty piece at the end.
-/

namespace StatusPrompt.Text

theorem bounds_of_blank (c : Char) (blank : isBlank c = true) :
    c.toNat ≤ 0x20 ∨ 0x85 ≤ c.toNat := by
  simp only [isBlank, Bool.or_eq_true, Bool.and_eq_true, decide_eq_true_eq, beq_iff_eq] at blank
  omega

theorem extend_append (c : Char) (first second : List Text) (filled : first ≠ []) :
    extend c (first ++ second) = extend c first ++ second := by
  cases first with
  | nil => exact absurd rfl filled
  | cons piece pieces => rfl

@[simp] theorem words_cons_blank (c : Char) (rest : Text) (blank : isBlank c = true) :
    words (c :: rest) = words rest := by
  simp only [words, blank, ↓reduceIte]

@[simp] theorem words_letter (c : Char) (letter : isBlank c = false) : words [c] = [[c]] := by
  simp only [words, letter, Bool.false_eq_true, ↓reduceIte]

@[simp] theorem words_letter_blank (c next : Char) (rest : Text) (letter : isBlank c = false)
    (blank : isBlank next = true) : words (c :: next :: rest) = [c] :: words (next :: rest) := by
  simp only [words, letter, blank, Bool.false_eq_true, ↓reduceIte]

@[simp] theorem words_letter_letter (c next : Char) (rest : Text) (letter : isBlank c = false)
    (joins : isBlank next = false) :
    words (c :: next :: rest) = extend c (words (next :: rest)) := by
  simp only [words, letter, joins, Bool.false_eq_true, ↓reduceIte]

theorem words_ne_nil (c : Char) (rest : Text) (letter : isBlank c = false) :
    words (c :: rest) ≠ [] := by
  cases rest with
  | nil =>
    rw [words_letter c letter]
    exact List.cons_ne_nil _ _
  | cons next more =>
    cases opens : isBlank next with
    | true =>
      rw [words_letter_blank c next more letter opens]
      exact List.cons_ne_nil _ _
    | false =>
      rw [words_letter_letter c next more letter opens]
      cases words (next :: more) <;> exact List.cons_ne_nil _ _

@[simp] theorem words_append_blank (c : Char) (blank : isBlank c = true) (before after : Text) :
    words (before ++ c :: after) = words before ++ words after := by
  induction before with
  | nil => exact words_cons_blank c after blank
  | cons d rest ih =>
    cases opens : isBlank d with
    | true => rw [List.cons_append, words_cons_blank d _ opens, words_cons_blank d _ opens, ih]
    | false =>
      -- Whether a letter goes on with the word behind it is seen at the character after it.
      cases rest with
      | nil =>
        rw [List.singleton_append, words_letter_blank d c after opens blank,
          words_cons_blank c after blank, words_letter d opens]
        rfl
      | cons next more =>
        simp only [List.cons_append] at ih ⊢
        cases joins : isBlank next with
        | true =>
          rw [words_letter_blank d next _ opens joins, words_letter_blank d next _ opens joins, ih]
          rfl
        | false =>
          rw [words_letter_letter d next _ opens joins, words_letter_letter d next _ opens joins,
            ih, extend_append d _ _ (words_ne_nil next more joins)]

theorem words_append_of_blanks (lead rest : Text) (blank : ∀ c ∈ lead, isBlank c = true) :
    words (lead ++ rest) = words rest := by
  induction lead with
  | nil => rfl
  | cons c more ih =>
    rw [List.cons_append, words_cons_blank c _ (blank c List.mem_cons_self)]
    exact ih fun d member => blank d (List.mem_cons_of_mem c member)

@[simp] theorem words_append_return (line : Text) : words (line ++ ['\r']) = words line := by
  rw [words_append_blank '\r' (by decide) line [], words, List.append_nil]

@[simp] theorem words_of_word (word : Text) (filled : word ≠ [])
    (whole : ∀ c ∈ word, isBlank c = false) : words word = [word] := by
  induction word with
  | nil => exact absurd rfl filled
  | cons c rest ih =>
    have letter : isBlank c = false := whole c List.mem_cons_self
    cases rest with
    | nil => exact words_letter c letter
    | cons next more =>
      have joins : isBlank next = false :=
        whole next (List.mem_cons_of_mem c List.mem_cons_self)
      have tail : words (next :: more) = [next :: more] :=
        ih (List.cons_ne_nil _ _) fun d member => whole d (List.mem_cons_of_mem c member)
      rw [words_letter_letter c next more letter joins, tail]
      rfl

theorem words_between (lead word rest : Text) (blank : ∀ c ∈ lead, isBlank c = true)
    (filled : word ≠ []) (whole : ∀ c ∈ word, isBlank c = false)
    (ends : ∀ c ∈ rest.head?, isBlank c = true) :
    words (lead ++ word ++ rest) = word :: words rest := by
  rw [List.append_assoc, words_append_of_blanks lead _ blank]
  cases rest with
  | nil =>
    rw [List.append_nil, words_of_word word filled whole]
    rfl
  | cons c more =>
    have apart : isBlank c = true := ends c rfl
    rw [words_append_blank c apart, words_of_word word filled whole, words_cons_blank c more apart]
    rfl

theorem exists_span (holds : Char → Bool) (text : Text) :
    ∃ front rest, text = front ++ rest ∧ (∀ c ∈ front, holds c = true) ∧
      ∀ c ∈ rest.head?, holds c = false := by
  refine ⟨text.takeWhile holds, text.dropWhile holds, List.takeWhile_append_dropWhile.symm,
    fun c => List.mem_takeWhile_imp, ?_⟩
  intro c first
  have stops := List.head?_dropWhile_not holds text
  rw [Option.mem_def.mp first] at stops
  exact stops

theorem exists_first_word (text word : Text) (others : List Text)
    (split : words text = word :: others) :
    ∃ lead rest, text = lead ++ word ++ rest ∧ words rest = others ∧
      (∀ c ∈ lead, isBlank c = true) ∧ word ≠ [] ∧ (∀ c ∈ word, isBlank c = false) ∧
        ∀ c ∈ rest.head?, isBlank c = true := by
  obtain ⟨lead, behind, rfl, blank, opens⟩ := exists_span isBlank text
  obtain ⟨first, rest, rfl, letters, stops⟩ := exists_span (fun c => !isBlank c) behind
  have whole : ∀ c ∈ first, isBlank c = false := fun c member => by simpa using letters c member
  have ends : ∀ c ∈ rest.head?, isBlank c = true := fun c head => by simpa using stops c head
  have filled : first ≠ [] := by
    rintro rfl
    -- What follows the leading blanks would then begin with a blank and with a letter.
    cases rest with
    | nil =>
      rw [List.append_nil, words_append_of_blanks lead _ blank] at split
      cases split
    | cons c more => exact absurd (ends c rfl) (by rw [opens c rfl]; decide)
  rw [← List.append_assoc, words_between lead first rest blank filled whole ends] at split
  obtain ⟨rfl, rfl⟩ := List.cons.inj split
  exact ⟨lead, rest, (List.append_assoc _ _ _).symm, rfl, blank, filled, whole, ends⟩

/-- A word of a text stands somewhere in it, with the words before it on the one side and the words
after it on the other. -/
theorem exists_cut (text word : Text) (before after : List Text)
    (split : words text = before ++ word :: after) :
    ∃ front back, text = front ++ word ++ back ∧ words front = before ∧ words back = after ∧
      words (front ++ word) = before ++ [word] := by
  induction before generalizing text with
  | nil =>
    obtain ⟨lead, rest, rfl, behind, blank, filled, whole, -⟩ :=
      exists_first_word text word after split
    have none : words lead = [] := by
      rw [← List.append_nil lead, words_append_of_blanks lead [] blank, words]
    refine ⟨lead, rest, rfl, none, behind, ?_⟩
    rw [words_append_of_blanks lead word blank, words_of_word word filled whole]
    rfl
  | cons first more ih =>
    obtain ⟨lead, rest, rfl, behind, blank, filled, whole, ends⟩ :=
      exists_first_word text first _ split
    obtain ⟨front, back, rfl, earlier, later, through⟩ := ih rest behind
    -- What follows the first word begins with a blank, however much of it there is.
    have opens : ∀ part others : Text, front ++ word ++ back = part ++ others →
        ∀ c ∈ part.head?, isBlank c = true := by
      intro part others same c head
      apply ends c
      rw [same, Option.mem_def, List.head?_append, Option.mem_def.mp head]
      rfl
    refine ⟨lead ++ first ++ front, back, by simp only [List.append_assoc], ?_, later, ?_⟩
    · rw [words_between lead first front blank filled whole
        (opens front (word ++ back) (List.append_assoc _ _ _)), earlier]
    · rw [List.append_assoc, words_between lead first (front ++ word) blank filled whole
        (opens (front ++ word) back rfl), through]
      rfl

theorem mem_extend (c : Char) (pieces : List Text) (piece : Text)
    (member : piece ∈ extend c pieces) :
    piece ∈ pieces ∨ ∃ rest, piece = c :: rest ∧ (rest = [] ∨ rest ∈ pieces) := by
  cases pieces with
  | nil => exact Or.inr ⟨[], List.mem_singleton.mp member, Or.inl rfl⟩
  | cons first more =>
    rcases List.mem_cons.mp member with here | later
    · exact Or.inr ⟨first, here, Or.inr List.mem_cons_self⟩
    · exact Or.inl (List.mem_cons_of_mem first later)

theorem not_blank_of_mem_words (text word : Text) (member : word ∈ words text) :
    ∀ c ∈ word, isBlank c = false := by
  induction text generalizing word with
  | nil => exact absurd member List.not_mem_nil
  | cons d rest ih =>
    cases opens : isBlank d with
    | true =>
      rw [words_cons_blank d rest opens] at member
      exact ih word member
    | false =>
      have alone : ∀ c ∈ [d], isBlank c = false := by
        intro c same
        rwa [List.mem_singleton.mp same]
      cases rest with
      | nil =>
        rw [words_letter d opens, List.mem_singleton] at member
        rwa [member]
      | cons next more =>
        cases joins : isBlank next with
        | true =>
          rw [words_letter_blank d next more opens joins, List.mem_cons] at member
          rcases member with here | later
          · rwa [here]
          · exact ih word later
        | false =>
          rw [words_letter_letter d next more opens joins] at member
          rcases mem_extend d _ word member with later | ⟨tail, rfl, empty | later⟩
          · exact ih word later
          · rwa [empty]
          · exact List.forall_mem_cons.mpr ⟨opens, ih tail later⟩

@[simp] theorem dropWhile_of_letters (text : Text) (letters : ∀ c ∈ text, isBlank c = false) :
    text.dropWhile isBlank = text := by
  cases text with
  | nil => rfl
  | cons c rest => exact List.dropWhile_cons_of_neg (by rw [letters c List.mem_cons_self]; decide)

@[simp] theorem trim_of_letters (text : Text) (letters : ∀ c ∈ text, isBlank c = false) :
    trim text = text := by
  have backwards : ∀ c ∈ text.reverse, isBlank c = false :=
    fun c member => letters c (List.mem_reverse.mp member)
  rw [trim, trimEnd, trimStart, dropWhile_of_letters text letters,
    dropWhile_of_letters text.reverse backwards, List.reverse_reverse]

@[simp] theorem trim_concat (text : Text) (c : Char) (blank : isBlank c = true) :
    trim (text ++ [c]) = trim text := by
  have trimmed : ∀ rest : Text, trimEnd (rest ++ [c]) = trimEnd rest := by
    intro rest
    rw [trimEnd, List.reverse_concat, List.dropWhile_cons_of_pos blank]
    rfl
  unfold trim trimStart
  rw [List.dropWhile_append]
  split_ifs with empty
  · rw [List.isEmpty_iff.mp empty, List.dropWhile_cons_of_pos blank]
    rfl
  · exact trimmed _

@[simp] theorem fields_ne_nil (separator : Char) (text : Text) : fields separator text ≠ [] := by
  cases text with
  | nil => exact List.cons_ne_nil _ _
  | cons c rest =>
    rw [fields]
    split_ifs
    · exact List.cons_ne_nil _ _
    · cases fields separator rest <;> exact List.cons_ne_nil _ _

@[simp] theorem fields_of_whole (separator : Char) (piece : Text) (whole : separator ∉ piece) :
    fields separator piece = [piece] := by
  induction piece with
  | nil => rfl
  | cons c rest ih =>
    rw [List.mem_cons, not_or] at whole
    rw [fields, if_neg fun same => whole.1 same.symm, ih whole.2]
    rfl

@[simp] theorem fields_append_separator (separator : Char) (before after : Text) :
    fields separator (before ++ separator :: after) =
      fields separator before ++ fields separator after := by
  induction before with
  | nil =>
    show fields separator (separator :: after) = [] :: fields separator after
    rw [fields, if_pos rfl]
  | cons c rest ih =>
    rw [List.cons_append, fields, fields, ih]
    split_ifs
    · rfl
    · exact extend_append c _ _ (fields_ne_nil separator rest)

@[simp] theorem fields_append (separator : Char) (piece rest : Text) (whole : separator ∉ piece) :
    fields separator (piece ++ separator :: rest) = piece :: fields separator rest := by
  rw [fields_append_separator, fields_of_whole separator piece whole, List.singleton_append]

/-- Another character at the end of a text belongs to its last piece. -/
theorem fields_concat (separator c : Char) (text : Text) (other : c ≠ separator) :
    ∃ front last, fields separator text = front ++ [last] ∧
      fields separator (text ++ [c]) = front ++ [last ++ [c]] := by
  induction text with
  | nil =>
    refine ⟨[], [], rfl, ?_⟩
    rw [List.nil_append, fields, if_neg other]
    rfl
  | cons d rest ih =>
    obtain ⟨front, last, cut, further⟩ := ih
    rw [List.cons_append, fields, fields, cut, further]
    split_ifs
    · exact ⟨[] :: front, last, rfl, rfl⟩
    · cases front with
      | nil => exact ⟨[], d :: last, rfl, rfl⟩
      | cons first more => exact ⟨(d :: first) :: more, last, rfl, rfl⟩

/-- Pieces without a separator, put together with one between neighbours, are cut at the same
places again. -/
theorem fields_joined (separator : Char) (pieces : List Text) (filled : pieces ≠ [])
    (whole : ∀ piece ∈ pieces, separator ∉ piece) :
    fields separator (joined [separator] pieces) = pieces := by
  induction pieces with
  | nil => exact absurd rfl filled
  | cons piece more ih =>
    have first : separator ∉ piece := whole piece List.mem_cons_self
    cases more with
    | nil => exact fields_of_whole separator piece first
    | cons next rest =>
      have later := ih (List.cons_ne_nil next rest) fun other member =>
        whole other (List.mem_cons_of_mem piece member)
      change fields separator (piece ++ [separator] ++ joined [separator] (next :: rest)) = _
      rw [List.append_assoc, List.singleton_append, fields_append separator _ _ first, later]

def dropReturn (piece : Text) : Text :=
  if piece.getLast? = some '\r' then piece.dropLast else piece

/-- Lines from the pieces between line feeds: the last piece is a line only if it holds something,
and keeps its carriage return. -/
def linesOfPieces : List Text → List Text
  | [] => []
  | [last] => if last = [] then [] else [last]
  | piece :: more => dropReturn piece :: linesOfPieces more

theorem dropReturn_cons (c : Char) (piece : Text) (inside : piece ≠ [] ∨ c ≠ '\r') :
    dropReturn (c :: piece) = c :: dropReturn piece := by
  cases piece with
  | nil =>
    have other : c ≠ '\r' := inside.resolve_left fun filled => filled rfl
    simp [dropReturn, other]
  | cons d rest =>
    unfold dropReturn
    rw [List.getLast?_cons_cons]
    split_ifs <;> rfl

@[simp] theorem words_dropReturn (piece : Text) : words (dropReturn piece) = words piece := by
  unfold dropReturn
  split_ifs with ends
  · obtain ⟨before, rfl⟩ := List.getLast?_eq_some_iff.mp ends
    rw [List.dropLast_concat, words_append_return]
  · rfl

/-- A first piece is empty only at the end of the text or in front of a separator. -/
theorem eq_nil_or_eq_cons_of_fields (separator : Char) (text : Text) (more : List Text)
    (cut : fields separator text = [] :: more) :
    text = [] ∨ ∃ rest, text = separator :: rest := by
  cases text with
  | nil => exact Or.inl rfl
  | cons c rest =>
    rw [fields] at cut
    split_ifs at cut with same
    · exact Or.inr ⟨rest, by rw [same]⟩
    · cases pieces : fields separator rest with
      | nil => exact absurd pieces (fields_ne_nil separator rest)
      | cons piece others =>
        rw [pieces, extend, List.cons.injEq] at cut
        exact absurd cut.1 (List.cons_ne_nil _ _)

theorem lines_eq (text : Text) : lines text = linesOfPieces (fields '\n' text) := by
  fun_induction lines text with
  | case1 => rfl
  | case2 rest ih =>
    obtain ⟨piece, more, cut⟩ := List.exists_cons_of_ne_nil (fields_ne_nil '\n' rest)
    rw [fields, if_pos rfl, ih, cut]
    rfl
  | case3 rest ih =>
    obtain ⟨piece, more, cut⟩ := List.exists_cons_of_ne_nil (fields_ne_nil '\n' rest)
    have front : fields '\n' ('\r' :: '\n' :: rest) = ['\r'] :: fields '\n' rest :=
      fields_append '\n' ['\r'] rest (by decide)
    rw [front, ih, cut]
    rfl
  | case4 c rest noFeed noReturn ih =>
    have letter : c ≠ '\n' := fun same => noFeed same
    rw [ih, fields, if_neg letter]
    cases cut : fields '\n' rest with
    | nil => exact absurd cut (fields_ne_nil '\n' rest)
    | cons piece more =>
      cases more with
      | nil =>
        by_cases empty : piece = []
        · rw [empty]
          rfl
        · simp [extend, linesOfPieces, empty]
      | cons next others =>
        -- A return in front of a line feed is the case before, so none is lost here.
        have inside : piece ≠ [] ∨ c ≠ '\r' := by
          by_contra outside
          rw [not_or, not_ne_iff, not_ne_iff] at outside
          obtain ⟨rfl, rfl⟩ := outside
          rcases eq_nil_or_eq_cons_of_fields '\n' rest _ cut with rfl | ⟨after, rfl⟩
          · cases cut
          · exact noReturn after rfl rfl
        simp only [extend, linesOfPieces, dropReturn_cons c piece inside]

def Unbroken (line : Text) : Prop := '\n' ∉ line ∧ '\r' ∉ line

instance : DecidablePred Unbroken := fun _ => inferInstanceAs (Decidable (_ ∧ _))

theorem not_mem_of_letters (text : Text) (c : Char) (blank : isBlank c = true)
    (letters : ∀ d ∈ text, isBlank d = false) : c ∉ text := by
  intro member
  rw [letters c member] at blank
  cases blank

theorem unbroken_of_words (word : Text) (whole : ∀ c ∈ word, isBlank c = false) :
    Unbroken word :=
  ⟨not_mem_of_letters word '\n' (by decide) whole, not_mem_of_letters word '\r' (by decide) whole⟩

@[simp] theorem lines_append_feed (line rest : Text) (whole : '\n' ∉ line) :
    lines (line ++ '\n' :: rest) = dropReturn line :: lines rest := by
  obtain ⟨piece, more, pieces⟩ := List.exists_cons_of_ne_nil (fields_ne_nil '\n' rest)
  rw [lines_eq, lines_eq, fields_append '\n' line rest whole, pieces]
  rfl

/-- Lines that are each ended by a line feed are the lines of the text they make, less their
carriage returns. -/
theorem lines_flatMap_feed (pieces : List Text) (whole : ∀ piece ∈ pieces, '\n' ∉ piece) :
    lines (pieces.flatMap (· ++ ['\n'])) = pieces.map dropReturn := by
  induction pieces with
  | nil => rfl
  | cons piece more ih =>
    have later := ih fun other member => whole other (List.mem_cons_of_mem piece member)
    rw [List.flatMap_cons, List.append_assoc, List.singleton_append,
      lines_append_feed piece _ (whole piece List.mem_cons_self), later]
    rfl

@[simp] theorem dropReturn_of_unbroken (line : Text) (unbroken : Unbroken line) :
    dropReturn line = line := by
  have noReturn : line.getLast? ≠ some '\r' :=
    fun ends => unbroken.2 (List.mem_of_getLast? ends)
  rw [dropReturn, if_neg noReturn]

theorem lines_of_unbroken (pieces : List Text) (unbroken : ∀ piece ∈ pieces, Unbroken piece) :
    lines (pieces.flatMap (· ++ ['\n'])) = pieces := by
  rw [lines_flatMap_feed pieces fun piece member => (unbroken piece member).1]
  calc
    pieces.map dropReturn = pieces.map id :=
      List.map_congr_left fun piece member => dropReturn_of_unbroken piece (unbroken piece member)
    _ = pieces := List.map_id pieces

/-- A carriage return at the end of a line belongs to what follows the last other mark in it. -/
theorem dropReturn_append (front : Text) (mark : Char) (rest : Text) (other : mark ≠ '\r') :
    dropReturn (front ++ mark :: rest) = front ++ mark :: dropReturn rest := by
  have marked : dropReturn (mark :: rest) = mark :: dropReturn rest :=
    dropReturn_cons mark rest (Or.inr other)
  induction front with
  | nil => exact marked
  | cons c more ih =>
    have filled : more ++ mark :: rest ≠ [] := by simp
    rw [List.cons_append, dropReturn_cons c _ (Or.inl filled), ih]
    rfl

end StatusPrompt.Text
