import StatusPrompt.Proofs.Layout.Agreement

/-!
The fixed layout read back. Without colour, and while its marks are single characters, a reader that
works from both ends finds all that the layout says of a snapshot. The last six characters hold the
marks. The first blank behind the glyph of the branch ends the names, and the last `@` in front of
it parts the branch from the commit. What is left between the two holds at most two words, one for
each direction of the drift. So layouts that look the same say the same.
-/

namespace StatusPrompt

def Text.cutFirst (holds : Char → Bool) (text : Text) : Text × Text :=
  (text.takeWhile holds, (text.dropWhile holds).drop 1)

def Text.cutLast (holds : Char → Bool) (text : Text) : Text × Text :=
  let (back, front) := Text.cutFirst holds text.reverse
  (front.reverse, back.reverse)

section Cut

variable (holds : Char → Bool) (front rest : Text) (mark : Char) (stops : ¬holds mark = true)
include stops

theorem Text.cutFirst_append (inside : ∀ c ∈ front, holds c = true) :
    Text.cutFirst holds (front ++ mark :: rest) = (front, rest) := by
  rw [Text.cutFirst, List.takeWhile_append_of_pos inside, List.dropWhile_append_of_pos inside,
    List.takeWhile_cons_of_neg stops, List.dropWhile_cons_of_neg stops, List.append_nil]
  rfl

theorem Text.cutLast_append (inside : ∀ c ∈ rest, holds c = true) :
    Text.cutLast holds (front ++ mark :: rest) = (front, rest) := by
  have turned : (front ++ mark :: rest).reverse = rest.reverse ++ mark :: front.reverse := by simp
  have passed : ∀ c ∈ rest.reverse, holds c = true :=
    fun c member => inside c (List.mem_reverse.mp member)
  rw [Text.cutLast, turned, Text.cutFirst_append holds _ _ mark stops passed]
  simp only [List.reverse_reverse]

end Cut

/-- Each direction of the drift has a mark of its own. -/
structure Glyphs.AreArrows (glyphs : Glyphs) : Prop where
  ahead : IsMark glyphs.ahead
  behind : IsMark glyphs.behind
  apart : glyphs.ahead ≠ glyphs.behind

theorem Glyphs.areArrows_default : Glyphs.AreArrows {} where
  ahead := ⟨'↑', rfl, by decide⟩
  behind := ⟨'↓', rfl, by decide⟩
  apart := by decide

/-- The branch can be told from the commit behind it, and both from what follows. -/
structure Snapshot.NamesApart (snapshot : Snapshot) : Prop where
  branch : ∀ c ∈ snapshot.branch, isBlank c = false
  commit : ∀ c ∈ snapshot.commit, isBlank c = false
  unmarked : '@' ∉ snapshot.commit

namespace Fixed

/-- What the fixed layout says of a snapshot. -/
structure Facts where
  branch : Text
  commit : Text
  ahead : Nat
  behind : Nat
  untracked : Bool
  unmerged : Bool
  modified : Bool
  dirty : Bool
  deriving DecidableEq, Repr

def factsOf (snapshot : Snapshot) : Facts where
  branch := snapshot.branch
  commit := snapshot.shortCommit
  ahead := snapshot.ahead.toNat
  behind := snapshot.behind.toNat
  untracked := 0 < snapshot.untracked
  unmerged := snapshot.hasUnmerged
  modified := snapshot.unstaged.isChanged
  dirty := snapshot.isDirty

def cutEnding? (text : Text) : Option (Text × Ending) :=
  match text.reverse with
  | status :: ' ' :: modified :: unmerged :: untracked :: ' ' :: front =>
    some (front.reverse, ⟨untracked, unmerged, modified, status⟩)
  | _ => none

def countAfter (glyph arrows : Text) : Nat :=
  match arrows.words.find? glyph.isPrefixOf with
  | some word => Numeral.ofDigits (word.drop glyph.length)
  | none => 0

def read? (glyphs : Glyphs) (text : Text) : Option Facts := do
  let (front, ending) ← cutEnding? text
  -- The glyph of the branch may hold blanks of its own, so it is passed by its length.
  let body := front.drop (glyphs.branch ++ [' ']).length
  let (names, arrows) := Text.cutFirst (fun c => !isBlank c) body
  let (branch, commit) := Text.cutLast (· ≠ '@') names
  some {
    branch, commit
    ahead := countAfter glyphs.ahead arrows
    behind := countAfter glyphs.behind arrows
    untracked := glyphs.untracked = [ending.untracked]
    unmerged := glyphs.unmerged = [ending.unmerged]
    modified := glyphs.modified = [ending.modified]
    dirty := glyphs.dirty = [ending.status] }

@[simp] theorem cutEnding?_append (front : Text) (ending : Ending) :
    cutEnding? (front ++ ending.text) = some (front, ending) := by
  have turned : (front ++ ending.text).reverse =
      ending.status :: ' ' :: ending.modified :: ending.unmerged :: ending.untracked :: ' ' ::
        front.reverse := by
    simp [Ending.text]
  rw [cutEnding?, turned]
  simp only [List.reverse_reverse]

def arrowWords (glyph : Text) (count : Nat) : List Text :=
  if 0 < count then [glyph ++ Numeral.write count] else []

theorem words_arrow_append (glyphs : Glyphs) (style : Style) (glyph rest : Text) (count : Nat)
    (mark : IsMark glyph) :
    Text.words (arrow ⟨false, glyphs⟩ style glyph count ++ rest) =
      arrowWords glyph count ++ rest.words := by
  unfold arrow arrowWords
  split_ifs
  · have filled : glyph ++ Numeral.write count ≠ [] :=
      List.append_ne_nil_of_right_ne_nil _ (Numeral.write_ne_nil count)
    have letters : ∀ c ∈ glyph ++ Numeral.write count, isBlank c = false := by
      obtain ⟨drawn, rfl, letter⟩ := mark
      exact List.forall_mem_cons.mpr ⟨letter, Numeral.not_blank_of_mem_write count⟩
    have shape : Appearance.paint ⟨false, glyphs⟩ style
        (' ' :: (glyph ++ Numeral.write count ++ [' '])) ++ rest =
          [' '] ++ (glyph ++ Numeral.write count) ++ ' ' :: rest := by
      rw [Appearance.paint, style.paint_false]
      simp
    rw [shape, Text.words_between [' '] _ _ (List.forall_mem_singleton.mpr (by decide)) filled
      letters (by simp [isBlank]), Text.words_cons_blank ' ' rest (by decide)]
    rfl
  · rfl

theorem words_arrows (glyphs : Glyphs) (snapshot : Snapshot) (marks : glyphs.AreArrows) :
    Text.words (arrows ⟨false, glyphs⟩ snapshot) =
      arrowWords glyphs.ahead snapshot.ahead.toNat ++
        arrowWords glyphs.behind snapshot.behind.toNat := by
  have second :=
    words_arrow_append glyphs .behind glyphs.behind [] snapshot.behind.toNat marks.behind
  rw [Text.words, List.append_nil, List.append_nil] at second
  rw [arrows, words_arrow_append glyphs .ahead _ _ _ marks.ahead, second]

theorem find?_arrowWords (glyph : Text) (count : Nat) :
    (arrowWords glyph count).find? glyph.isPrefixOf =
      if 0 < count then some (glyph ++ Numeral.write count) else none := by
  unfold arrowWords
  split_ifs
  · have begins : glyph.isPrefixOf (glyph ++ Numeral.write count) = true :=
      List.isPrefixOf_iff_prefix.mpr (List.prefix_append _ _)
    rw [List.find?_cons_of_pos begins]
  · rfl

theorem find?_arrowWords_other (glyph other : Text) (count : Nat) (mark : IsMark glyph)
    (next : IsMark other) (apart : glyph ≠ other) :
    (arrowWords other count).find? glyph.isPrefixOf = none := by
  obtain ⟨c, rfl, -⟩ := mark
  obtain ⟨d, rfl, -⟩ := next
  have differ : c ≠ d := fun same => apart (congrArg (fun e => [e]) same)
  unfold arrowWords
  split_ifs
  · simp [differ]
  · rfl

theorem countAfter_of_find? (glyph arrows : Text) (count : Nat)
    (found : arrows.words.find? glyph.isPrefixOf =
      if 0 < count then some (glyph ++ Numeral.write count) else none) :
    countAfter glyph arrows = count := by
  rw [countAfter, found]
  by_cases drifts : 0 < count
  · rw [if_pos drifts]
    show Numeral.ofDigits ((glyph ++ Numeral.write count).drop glyph.length) = count
    rw [List.drop_left, Numeral.ofDigits_write]
  · rw [if_neg drifts]
    show 0 = count
    omega

section Drift

variable (glyphs : Glyphs) (snapshot : Snapshot) (marks : glyphs.AreArrows)
include marks

theorem countAfter_ahead :
    countAfter glyphs.ahead (arrows ⟨false, glyphs⟩ snapshot) = snapshot.ahead.toNat := by
  apply countAfter_of_find?
  rw [words_arrows glyphs snapshot marks, List.find?_append, find?_arrowWords,
    find?_arrowWords_other _ _ _ marks.ahead marks.behind marks.apart, Option.or_none]

theorem countAfter_behind :
    countAfter glyphs.behind (arrows ⟨false, glyphs⟩ snapshot) = snapshot.behind.toNat := by
  apply countAfter_of_find?
  rw [words_arrows glyphs snapshot marks, List.find?_append, find?_arrowWords,
    find?_arrowWords_other _ _ _ marks.behind marks.ahead marks.apart.symm, Option.none_or]

end Drift

theorem exists_render_eq (glyphs : Glyphs) (snapshot : Snapshot) (marks : glyphs.AreMarks) :
    ∃ ending : Ending, ending.Tells glyphs snapshot ∧
      render ⟨false, glyphs⟩ snapshot =
        (glyphs.branch ++ [' ']) ++ ((snapshot.branch ++ '@' :: snapshot.shortCommit) ++
          ' ' :: arrows ⟨false, glyphs⟩ snapshot) ++ ending.text := by
  obtain ⟨ending, told, drawn⟩ := exists_ending glyphs snapshot marks
  refine ⟨ending, told, ?_⟩
  rw [← drawn, render]
  simp [Appearance.paint]

theorem read?_render (glyphs : Glyphs) (marks : glyphs.AreMarks) (arrows : glyphs.AreArrows)
    (snapshot : Snapshot) (names : snapshot.NamesApart) :
    read? glyphs (render ⟨false, glyphs⟩ snapshot) = some (factsOf snapshot) := by
  obtain ⟨ending, told, drawn⟩ := exists_render_eq glyphs snapshot marks
  have short : ∀ c ∈ snapshot.shortCommit, isBlank c = false := fun c member =>
    names.commit c (snapshot.mem_of_mem_shortCommit c member)
  have letters : ∀ c ∈ snapshot.branch ++ '@' :: snapshot.shortCommit,
      (!isBlank c) = true := by
    simp only [Bool.not_eq_true', List.forall_mem_append, List.forall_mem_cons]
    exact ⟨names.branch, by decide, short⟩
  have unmarked : ∀ c ∈ snapshot.shortCommit, decide (c ≠ '@') = true := by
    intro c member
    rw [decide_eq_true_eq]
    intro same
    subst same
    exact names.unmarked (snapshot.mem_of_mem_shortCommit '@' member)
  have untracked : decide (glyphs.untracked = [ending.untracked]) =
      decide (0 < snapshot.untracked) := decide_eq_decide.mpr told.untracked
  have unmerged : decide (glyphs.unmerged = [ending.unmerged]) = snapshot.hasUnmerged := by
    rw [Bool.eq_iff_iff, decide_eq_true_eq, told.unmerged]
  have modified : decide (glyphs.modified = [ending.modified]) = snapshot.unstaged.isChanged := by
    rw [Bool.eq_iff_iff, decide_eq_true_eq, told.modified]
  have dirty : decide (glyphs.dirty = [ending.status]) = snapshot.isDirty := by
    rw [Bool.eq_iff_iff, decide_eq_true_eq, told.status]
  rw [read?, drawn, cutEnding?_append]
  simp only [Option.bind_eq_bind, Option.bind_some, List.drop_left,
    Text.cutFirst_append _ _ _ ' ' (by decide) letters,
    Text.cutLast_append _ _ _ '@' (by decide) unmarked,
    countAfter_ahead glyphs snapshot arrows, countAfter_behind glyphs snapshot arrows, untracked,
    unmerged, modified, dirty]
  rfl

/-- Nothing else of a snapshot is in the layout, not even its health, which only gives colours. -/
theorem render_of_factsOf (glyphs : Glyphs) (first second : Snapshot)
    (same : factsOf first = factsOf second) :
    render ⟨false, glyphs⟩ first = render ⟨false, glyphs⟩ second := by
  have branch : first.branch = second.branch := congrArg Facts.branch same
  have commit : first.shortCommit = second.shortCommit := congrArg Facts.commit same
  have ahead : first.ahead = second.ahead :=
    UInt32.toNat_inj.mp (congrArg Facts.ahead same)
  have behind : first.behind = second.behind :=
    UInt32.toNat_inj.mp (congrArg Facts.behind same)
  have untracked : decide (0 < first.untracked) = decide (0 < second.untracked) :=
    congrArg Facts.untracked same
  have unmerged : first.hasUnmerged = second.hasUnmerged := congrArg Facts.unmerged same
  have modified : first.unstaged.isChanged = second.unstaged.isChanged :=
    congrArg Facts.modified same
  have dirty : first.isDirty = second.isDirty := congrArg Facts.dirty same
  simp only [render, arrows, cluster, statusGlyph, Appearance.paint, Style.paint_false, branch,
    commit, ahead, behind, untracked, unmerged, modified, dirty]

/-- Without colour the fixed layout is unambiguous. It can be read back, and two snapshots look the
same exactly if they agree in the branch, the abbreviated commit, the drift in each direction, and
in whether something is untracked, unmerged, changed or staged. -/
theorem render_unambiguous (glyphs : Glyphs) (marks : glyphs.AreMarks) (arrows : glyphs.AreArrows)
    (first second : Snapshot) (one : first.NamesApart) (two : second.NamesApart) :
    read? glyphs (render ⟨false, glyphs⟩ first) = some (factsOf first) ∧
      (render ⟨false, glyphs⟩ first = render ⟨false, glyphs⟩ second ↔
        factsOf first = factsOf second) := by
  have back := read?_render glyphs marks arrows first one
  refine ⟨back, ?_, render_of_factsOf glyphs first second⟩
  intro same
  have other := read?_render glyphs marks arrows second two
  rw [← same, back] at other
  exact Option.some.inj other

def arrowSnapshot : Snapshot where
  branch := "↑3@ab".toList
  commit := initialCommit
  ahead := 12
  untracked := 1
  merging := true

theorem render_unambiguous_arrow :
    let other : Snapshot := { arrowSnapshot with untracked := 40, unmerged := 2, merging := false }
    let drifted : Snapshot := { arrowSnapshot with ahead := 1, behind := 2 }
    Glyphs.AreMarks {} ∧ Glyphs.AreArrows {} ∧ arrowSnapshot.NamesApart ∧
      read? {} (render { color := false } arrowSnapshot) = some (factsOf arrowSnapshot) ∧
      render { color := false } arrowSnapshot = render { color := false } other ∧
      render { color := false } arrowSnapshot ≠ render { color := false } drifted := by
  intro other drifted
  have letters : (arrowSnapshot.branch ++ arrowSnapshot.commit).all (fun c => !isBlank c) = true :=
    by decide
  have apart : arrowSnapshot.NamesApart := by
    simp only [List.all_eq_true, Bool.not_eq_true', List.forall_mem_append] at letters
    exact ⟨letters.1, letters.2, by decide⟩
  have unchanged : other.NamesApart := ⟨apart.branch, apart.commit, apart.unmarked⟩
  have named : drifted.NamesApart := ⟨apart.branch, apart.commit, apart.unmarked⟩
  obtain ⟨back, alike⟩ := render_unambiguous {} Glyphs.areMarks_default Glyphs.areArrows_default
    arrowSnapshot other apart unchanged
  obtain ⟨-, differ⟩ := render_unambiguous {} Glyphs.areMarks_default Glyphs.areArrows_default
    arrowSnapshot drifted apart named
  refine ⟨Glyphs.areMarks_default, Glyphs.areArrows_default, apart, back, alike.mpr rfl, ?_⟩
  intro same
  exact absurd (differ.mp same) (by decide)

end Fixed

end StatusPrompt
