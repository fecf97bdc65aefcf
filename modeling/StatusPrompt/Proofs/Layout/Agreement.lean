import StatusPrompt.Proofs.Layout.Colour
import StatusPrompt.Proofs.Layout.RawLines
import StatusPrompt.Proofs.Report.Counting
import StatusPrompt.Proofs.Text.Collapse

/-!
The three layouts tell the same facts. The fixed layout begins with the branch and the commit as a
format shows them, and while its marks are single characters they can be read off its end. A mark
stands there exactly when the directive of the same name shows something, and exactly when the raw
line of the same name says so.
-/

namespace StatusPrompt

def Text.HasLetter (text : Text) : Prop := ∃ c ∈ text, isBlank c = false

theorem Text.HasLetter.append_right {second : Text} (some : second.HasLetter) (first : Text) :
    Text.HasLetter (first ++ second) := by
  obtain ⟨c, member, letter⟩ := some
  exact ⟨c, List.mem_append_right first member, letter⟩

theorem Text.not_hasLetter_nil : ¬Text.HasLetter [] := by
  rintro ⟨c, member, -⟩
  exact List.not_mem_nil member

@[simp] theorem Text.hasLetter_append_iff (first second : Text) :
    Text.HasLetter (first ++ second) ↔ first.HasLetter ∨ second.HasLetter := by
  simp only [Text.HasLetter, List.mem_append, or_and_right, exists_or]

theorem Numeral.hasLetter_write (value : Nat) : (Numeral.write value).HasLetter := by
  obtain ⟨digit, rest, written⟩ := List.exists_cons_of_ne_nil (Numeral.write_ne_nil value)
  have member : digit ∈ Numeral.write value := by
    rw [written]
    exact List.mem_cons_self
  exact ⟨digit, member, Numeral.not_blank_of_mem_write value digit member⟩

@[simp] theorem Numeral.write_eq_zero_iff (value : Nat) : Numeral.write value = ['0'] ↔ value = 0 := by
  constructor
  · intro written
    have read := Numeral.ofDigits_write value
    rw [written] at read
    exact read.symm
  · rintro rfl
    rfl

namespace Style

variable (style : Style) (text : Text)

@[simp] theorem paint_false : style.paint false text = text := if_pos (Or.inl rfl)

/-- Painting puts no blank into a text, also where it sets its style again. -/
theorem not_blank_of_mem_paint (color : Bool) (letters : ∀ c ∈ text, isBlank c = false) :
    ∀ c ∈ style.paint color text, isBlank c = false := by
  have setting := Escape.not_blank_of_mem_setting style.codes fun c member =>
    (style.codes_numeric c member).2
  have reset : ∀ c ∈ Escape.reset, isBlank c = false :=
    Escape.not_blank_of_mem_setting ['0'] (List.forall_mem_singleton.mpr (by decide))
  have reopened : ∀ c ∈ Escape.reopen style.codes text, isBlank c = false := by
    fun_induction Escape.reopen style.codes text with
    | case1 => exact List.forall_mem_nil _
    | case2 rest ih =>
      simp only [List.forall_mem_cons] at letters
      simp only [List.forall_mem_append]
      exact ⟨⟨reset, setting⟩, ih letters.2.2.2.2⟩
    | case3 c rest other ih =>
      rw [List.forall_mem_cons] at letters
      exact List.forall_mem_cons.mpr ⟨letters.1, ih letters.2⟩
  unfold paint
  split_ifs
  · exact letters
  · exact List.forall_mem_append.mpr ⟨List.forall_mem_append.mpr ⟨setting, reopened⟩, reset⟩

theorem hasLetter_paint (color : Bool) (some : text.HasLetter) :
    (style.paint color text).HasLetter := by
  unfold paint
  split_ifs
  · exact some
  · exact ⟨Escape.esc, List.mem_cons_self, Escape.not_blank_esc⟩

end Style

namespace Directive

variable (look : Appearance) (style : Style)

theorem hasLetter_shownIf_iff (shown : Bool) (text : Text) (some : text.HasLetter) :
    (shownIf shown look style text).HasLetter ↔ shown = true := by
  cases shown with
  | false => exact ⟨fun seen => absurd seen Text.not_hasLetter_nil, nofun⟩
  | true => exact ⟨fun _ => rfl, fun _ => style.hasLetter_paint text look.color some⟩

@[simp] theorem hasLetter_counted_iff (glyph : Text) (count : Nat) :
    (counted look style glyph count).HasLetter ↔ 0 < count := by
  have some := (Numeral.hasLetter_write count).append_right glyph
  rw [counted, hasLetter_shownIf_iff look style _ _ some, decide_eq_true_eq]

end Directive

theorem Format.render_ne_nil_iff (look : Appearance) (snapshot : Snapshot) (template : Text) :
    Format.render look snapshot template ≠ [] ↔
      (Format.expand look snapshot template).HasLetter :=
  Text.collapse_ne_nil_iff _

theorem Format.render_directive_ne_nil_iff (look : Appearance) (snapshot : Snapshot)
    (letter : Char) :
    Format.render look snapshot ['%', letter] ≠ [] ↔
      ((Directive.ofLetter letter).shows look snapshot).HasLetter := by
  have alone : Format.expand look snapshot ['%', letter] =
      (Directive.ofLetter letter).shows look snapshot ++ [] := rfl
  rw [Format.render_ne_nil_iff, alone, List.append_nil]

def IsMark (glyph : Text) : Prop := ∃ c, glyph = [c] ∧ isBlank c = false

/-- The glyphs at the end of the fixed layout are single characters. Those of the cluster can be
told from the space that keeps their place, and those of the status from each other. -/
structure Glyphs.AreMarks (glyphs : Glyphs) : Prop where
  untracked : IsMark glyphs.untracked
  unmerged : IsMark glyphs.unmerged
  modified : IsMark glyphs.modified
  status : ∃ clean dirty, glyphs.clean = [clean] ∧ glyphs.dirty = [dirty] ∧ clean ≠ dirty

theorem Glyphs.areMarks_default : Glyphs.AreMarks {} where
  untracked := ⟨'?', rfl, by decide⟩
  unmerged := ⟨'‼', rfl, by decide⟩
  modified := ⟨'Δ', rfl, by decide⟩
  status := ⟨'✔', '✘', rfl, rfl, by decide⟩

theorem IsMark.hasLetter {glyph : Text} (mark : IsMark glyph) : glyph.HasLetter := by
  obtain ⟨c, rfl, letter⟩ := mark
  exact ⟨c, List.mem_singleton_self c, letter⟩

namespace Fixed

structure Ending where
  untracked : Char
  unmerged : Char
  modified : Char
  status : Char
  deriving DecidableEq, Repr

def Ending.text (ending : Ending) : Text :=
  [' ', ending.untracked, ending.unmerged, ending.modified, ' ', ending.status]

def opening (look : Appearance) (snapshot : Snapshot) : Text :=
  look.glyphs.branch ++ [' '] ++ Format.render look snapshot "%b@%c".toList ++ [' ']

/-- A place of the cluster is one character, which is the glyph or the space. -/
theorem cell_of_mark (glyphs : Glyphs) (present : Bool) (style : Style) (glyph : Text)
    (mark : IsMark glyph) :
    ∃ c, cell ⟨false, glyphs⟩ present style glyph = [c] ∧ (glyph = [c] ↔ present = true) := by
  obtain ⟨c, rfl, letter⟩ := mark
  cases present with
  | true => exact ⟨c, style.paint_false [c], by simp⟩
  | false =>
    have other : c ≠ ' ' := by
      rintro rfl
      exact absurd letter (by decide)
    exact ⟨' ', rfl, by simp [other]⟩

theorem statusGlyph_of_marks (glyphs : Glyphs) (snapshot : Snapshot) (marks : glyphs.AreMarks) :
    ∃ c, statusGlyph ⟨false, glyphs⟩ snapshot = [c] ∧
      (glyphs.dirty = [c] ↔ snapshot.isDirty = true) := by
  obtain ⟨clean, dirty, drawnClean, drawnDirty, differ⟩ := marks.status
  unfold statusGlyph
  cases snapshot.isDirty with
  | true => exact ⟨dirty, drawnDirty, by simp [drawnDirty]⟩
  | false => exact ⟨clean, drawnClean, by simp [drawnDirty, differ.symm]⟩

theorem arrow_eq_nil_iff (glyphs : Glyphs) (style : Style) (glyph : Text) (count : Nat) :
    arrow ⟨false, glyphs⟩ style glyph count = [] ↔ ¬0 < count := by
  unfold arrow
  split_ifs with shown
  · have filled : (⟨false, glyphs⟩ : Appearance).paint style
        (' ' :: (glyph ++ Numeral.write count ++ [' '])) ≠ [] := by
      rw [Appearance.paint, style.paint_false]
      exact List.cons_ne_nil _ _
    exact ⟨fun empty => absurd empty filled, fun none => absurd shown none⟩
  · exact ⟨fun _ => shown, fun _ => rfl⟩

structure Ending.Tells (ending : Ending) (glyphs : Glyphs) (snapshot : Snapshot) : Prop where
  untracked : glyphs.untracked = [ending.untracked] ↔ 0 < snapshot.untracked
  unmerged : glyphs.unmerged = [ending.unmerged] ↔ snapshot.hasUnmerged = true
  modified : glyphs.modified = [ending.modified] ↔ snapshot.unstaged.isChanged = true
  status : glyphs.dirty = [ending.status] ↔ snapshot.isDirty = true

theorem exists_ending (glyphs : Glyphs) (snapshot : Snapshot) (marks : glyphs.AreMarks) :
    ∃ ending : Ending, ending.Tells glyphs snapshot ∧
      [' '] ++ cluster ⟨false, glyphs⟩ snapshot ++ [' '] ++
        Appearance.paint ⟨false, glyphs⟩ (.health snapshot.health)
          (statusGlyph ⟨false, glyphs⟩ snapshot) = ending.text := by
  obtain ⟨untracked, drawnUntracked, isUntracked⟩ :=
    cell_of_mark glyphs (0 < snapshot.untracked) .untracked glyphs.untracked marks.untracked
  obtain ⟨unmerged, drawnUnmerged, isUnmerged⟩ :=
    cell_of_mark glyphs snapshot.hasUnmerged .unmerged glyphs.unmerged marks.unmerged
  obtain ⟨modified, drawnModified, isModified⟩ :=
    cell_of_mark glyphs snapshot.unstaged.isChanged .modified glyphs.modified marks.modified
  obtain ⟨status, drawnStatus, isDirty⟩ := statusGlyph_of_marks glyphs snapshot marks
  rw [decide_eq_true_eq] at isUntracked
  refine ⟨⟨untracked, unmerged, modified, status⟩,
    ⟨isUntracked, isUnmerged, isModified, isDirty⟩, ?_⟩
  rw [cluster, drawnUntracked, drawnUnmerged, drawnModified, drawnStatus, Appearance.paint,
    Style.paint_false]
  rfl

section Names

variable (look : Appearance) (snapshot : Snapshot)
  (branch : ∀ c ∈ snapshot.branch, isBlank c = false)
  (commit : ∀ c ∈ snapshot.commit, isBlank c = false)
include branch commit

/-- Names without blanks stand in a format as they stand in the fixed layout. -/
theorem opening_eq :
    opening look snapshot = look.glyphs.branch ++ [' '] ++
      look.paint (.health snapshot.health) snapshot.branch ++ ['@'] ++
      look.paint (.commit snapshot.health) snapshot.shortCommit ++ [' '] := by
  have short : ∀ c ∈ snapshot.shortCommit, isBlank c = false :=
    fun c member => commit c (snapshot.mem_of_mem_shortCommit c member)
  have expanded : Format.expand look snapshot "%b@%c".toList =
      look.paint (.health snapshot.health) snapshot.branch ++ (['@'] ++
        (look.paint (.commit snapshot.health) snapshot.shortCommit ++ [])) := rfl
  have letters : ∀ c ∈ look.paint (.health snapshot.health) snapshot.branch ++ (['@'] ++
      (look.paint (.commit snapshot.health) snapshot.shortCommit ++ [])), isBlank c = false := by
    simp only [List.append_nil, List.forall_mem_append, List.forall_mem_singleton]
    exact ⟨Style.not_blank_of_mem_paint _ _ look.color branch, by decide,
      Style.not_blank_of_mem_paint _ _ look.color short⟩
  rw [opening, Format.render, expanded, Text.collapse_of_letters _ letters]
  simp only [List.append_assoc, List.append_nil]

theorem render_eq_opening :
    render look snapshot = opening look snapshot ++ (arrows look snapshot ++ [' '] ++
      cluster look snapshot ++ [' '] ++
      look.paint (.health snapshot.health) (statusGlyph look snapshot)) := by
  rw [opening_eq look snapshot branch commit, render]
  simp only [List.append_assoc]

end Names

end Fixed

def Raw.line (snapshot : Snapshot) (number : Nat) : Option Text :=
  (Raw.render snapshot).lines[number - 1]?

/-- A format, the raw lines and the fixed layout, as it is read from its end, say the same of a
snapshot. A merge under way is a mark of the fixed layout alone. -/
structure Agree (glyphs : Glyphs) (snapshot : Snapshot) (arrows : Text) (ending : Fixed.Ending)
    (shows : Text → Prop) : Prop where
  untracked : (shows ['%', 'u'] ↔ Raw.line snapshot 8 ≠ some ['0']) ∧
    (Raw.line snapshot 8 ≠ some ['0'] ↔ glyphs.untracked = [ending.untracked])
  staged : (shows ['%', 's'] ↔ Raw.line snapshot 10 = some ['1']) ∧
    (Raw.line snapshot 10 = some ['1'] ↔ glyphs.dirty = [ending.status])
  unstaged : (shows ['%', 'm'] ↔ glyphs.modified = [ending.modified]) ∧
    (glyphs.modified = [ending.modified] ↔ snapshot.health = .dirty)
  drift : (¬shows ['%', 'a'] ↔ arrows = []) ∧
    (arrows = [] ↔ snapshot.ahead = 0 ∧ snapshot.behind = 0)
  unmerged : glyphs.unmerged = [ending.unmerged] ↔ snapshot.hasUnmerged = true

section Directives

variable (look : Appearance) (snapshot : Snapshot)

theorem Format.shows_untracked_iff (mark : IsMark look.glyphs.untracked) :
    Format.render look snapshot ['%', 'u'] ≠ [] ↔ 0 < snapshot.untracked := by
  have named : Directive.ofLetter 'u' = .untracked := rfl
  rw [Format.render_directive_ne_nil_iff, named, Directive.shows,
    Directive.hasLetter_shownIf_iff look _ _ _ mark.hasLetter, decide_eq_true_eq]

theorem Format.shows_staged_iff :
    Format.render look snapshot ['%', 's'] ≠ [] ↔ snapshot.isDirty = true := by
  have named : Directive.ofLetter 's' = .staged := rfl
  rw [Format.render_directive_ne_nil_iff, named, Directive.shows, Directive.hasLetter_counted_iff,
    Counter.toNat_pos_iff, Snapshot.isDirty, Tally.isChanged, decide_eq_true_eq]

theorem Format.shows_unstaged_iff :
    Format.render look snapshot ['%', 'm'] ≠ [] ↔ snapshot.unstaged.isChanged = true := by
  have named : Directive.ofLetter 'm' = .unstaged := rfl
  rw [Format.render_directive_ne_nil_iff, named, Directive.shows, Directive.hasLetter_counted_iff,
    Counter.toNat_pos_iff, Tally.isChanged, decide_eq_true_eq]

theorem Format.shows_drift_iff :
    Format.render look snapshot ['%', 'a'] ≠ [] ↔ 0 < snapshot.ahead ∨ 0 < snapshot.behind := by
  have named : Directive.ofLetter 'a' = .drift := rfl
  rw [Format.render_directive_ne_nil_iff, named, Directive.shows, Text.hasLetter_append_iff,
    Directive.hasLetter_counted_iff, Directive.hasLetter_counted_iff, Counter.toNat_pos_iff,
    Counter.toNat_pos_iff]

end Directives

theorem Fixed.arrows_eq_nil_iff (glyphs : Glyphs) (snapshot : Snapshot) :
    Fixed.arrows ⟨false, glyphs⟩ snapshot = [] ↔ ¬0 < snapshot.ahead ∧ ¬0 < snapshot.behind := by
  rw [Fixed.arrows, List.append_eq_nil_iff, Fixed.arrow_eq_nil_iff, Fixed.arrow_eq_nil_iff,
    Counter.toNat_pos_iff, Counter.toNat_pos_iff]

theorem Raw.line_eight_ne_zero_iff (snapshot : Snapshot) (names : snapshot.NamesUnbroken) :
    Raw.line snapshot 8 ≠ some ['0'] ↔ 0 < snapshot.untracked := by
  have eighth : (Raw.lines snapshot)[7]? = some (Numeral.write snapshot.untracked.toNat) := rfl
  rw [Raw.line, Raw.lines_render snapshot names, eighth, ne_eq, Option.some.injEq,
    Numeral.write_eq_zero_iff, Counter.toNat_eq_zero_iff, UInt32.pos_iff_ne_zero]

theorem Raw.line_ten_eq_one_iff (snapshot : Snapshot) (names : snapshot.NamesUnbroken) :
    Raw.line snapshot 10 = some ['1'] ↔ snapshot.isDirty = true := by
  have tenth : (Raw.lines snapshot)[9]? = some (Raw.flag snapshot.isDirty) := rfl
  rw [Raw.line, Raw.lines_render snapshot names, tenth, Option.some.injEq]
  cases snapshot.isDirty <;> decide

theorem agree_of_tells (glyphs : Glyphs) (snapshot : Snapshot) (color : Bool)
    (marks : glyphs.AreMarks) (names : snapshot.NamesUnbroken) (ending : Fixed.Ending)
    (told : ending.Tells glyphs snapshot) :
    Agree glyphs snapshot (Fixed.arrows ⟨false, glyphs⟩ snapshot) ending fun template =>
      Format.render ⟨color, glyphs⟩ snapshot template ≠ [] := by
  have eighth := Raw.line_eight_ne_zero_iff snapshot names
  have tenth := Raw.line_ten_eq_one_iff snapshot names
  have shownUntracked := Format.shows_untracked_iff ⟨color, glyphs⟩ snapshot marks.untracked
  have shownStaged := Format.shows_staged_iff ⟨color, glyphs⟩ snapshot
  have shownUnstaged := Format.shows_unstaged_iff ⟨color, glyphs⟩ snapshot
  have shownDrift := Format.shows_drift_iff ⟨color, glyphs⟩ snapshot
  have noArrows := Fixed.arrows_eq_nil_iff glyphs snapshot
  refine ⟨⟨shownUntracked.trans eighth.symm, eighth.trans told.untracked.symm⟩,
    ⟨shownStaged.trans tenth.symm, tenth.trans told.status.symm⟩,
    ⟨shownUnstaged.trans told.modified.symm, told.modified.trans snapshot.health_eq_dirty_iff.symm⟩,
    ⟨?_, ?_⟩, told.unmerged⟩
  · rw [shownDrift, noArrows, not_or]
  · rw [noArrows, UInt32.not_lt, UInt32.not_lt, UInt32.le_zero_iff, UInt32.le_zero_iff]

/-- The layouts agree on every snapshot whose names hold no blanks, while the marks are single
characters. In either colour the fixed layout begins with the names as a format shows them. Without
colour it is this beginning, the arrows and the marks at its end, and what can be read there is what
a format, in either colour, and the raw lines say. -/
theorem layouts_agree (glyphs : Glyphs) (snapshot : Snapshot) (marks : glyphs.AreMarks)
    (names : ∀ c ∈ snapshot.branch ++ snapshot.commit ++ snapshot.remote ++ snapshot.tracking,
      isBlank c = false) :
    (∀ color, Fixed.opening ⟨color, glyphs⟩ snapshot <+: Fixed.render ⟨color, glyphs⟩ snapshot) ∧
      (Raw.render snapshot).lines.length = 12 ∧
      ∃ arrows ending,
        Fixed.render ⟨false, glyphs⟩ snapshot =
          Fixed.opening ⟨false, glyphs⟩ snapshot ++ arrows ++ ending.text ∧
        ∀ color, Agree glyphs snapshot arrows ending fun template =>
          Format.render ⟨color, glyphs⟩ snapshot template ≠ [] := by
  simp only [List.forall_mem_append] at names
  obtain ⟨⟨⟨branch, commit⟩, remote⟩, tracking⟩ := names
  have unbroken : snapshot.NamesUnbroken := ⟨Text.unbroken_of_words _ branch,
    Text.unbroken_of_words _ remote, Text.unbroken_of_words _ tracking⟩
  obtain ⟨ending, told, drawn⟩ := Fixed.exists_ending glyphs snapshot marks
  refine ⟨?_, ?_, Fixed.arrows ⟨false, glyphs⟩ snapshot, ending, ?_, ?_⟩
  · intro color
    rw [Fixed.render_eq_opening ⟨color, glyphs⟩ snapshot branch commit]
    exact List.prefix_append _ _
  · rw [Raw.lines_render snapshot unbroken]
    rfl
  · rw [Fixed.render_eq_opening ⟨false, glyphs⟩ snapshot branch commit, ← drawn]
    simp only [List.append_assoc]
  · intro color
    exact agree_of_tells glyphs snapshot color marks unbroken ending told

/-- A merge with a change that is not staged, on a branch without a remote. -/
theorem layouts_agree_merging :
    let snapshot : Snapshot :=
      { branch := "main".toList, commit := "0123456789".toList, ahead := 2,
        unstaged := { modified := 1 }, merging := true }
    Glyphs.AreMarks {} ∧
      (∀ c ∈ snapshot.branch ++ snapshot.commit ++ snapshot.remote ++ snapshot.tracking,
        isBlank c = false) ∧
      Fixed.opening {} snapshot <+: Fixed.render {} snapshot ∧
      ∃ (arrows : Text) (ending : Fixed.Ending),
        Fixed.render { color := false } snapshot =
          Fixed.opening { color := false } snapshot ++ arrows ++ ending.text ∧
        arrows ≠ [] ∧ ending.unmerged = '‼' ∧ ending.modified = 'Δ' ∧ ending.untracked ≠ '?' ∧
        ending.status ≠ '✘' := by
  intro snapshot
  have letters : (snapshot.branch ++ snapshot.commit).all (fun c => !isBlank c) = true := by decide
  have names : ∀ c ∈ snapshot.branch ++ snapshot.commit ++ snapshot.remote ++ snapshot.tracking,
      isBlank c = false := by
    intro c member
    have letter := List.all_eq_true.mp letters c (by simpa [snapshot] using member)
    rwa [Bool.not_eq_true'] at letter
  obtain ⟨opens, -, arrows, ending, drawn, agree⟩ :=
    layouts_agree {} snapshot Glyphs.areMarks_default names
  obtain ⟨untracked, staged, unstaged, drift, unmerged⟩ := agree true
  have drifts : arrows ≠ [] := by
    rw [ne_eq, drift.2]
    decide
  have cell : '‼' = ending.unmerged := (List.cons.inj (unmerged.mpr (by decide))).1
  have changed : 'Δ' = ending.modified := (List.cons.inj (unstaged.2.mpr (by decide))).1
  have noUntracked : ¬Glyphs.untracked {} = [ending.untracked] := by
    rw [← untracked.2]
    decide
  have noStaged : ¬Glyphs.dirty {} = [ending.status] := by
    rw [← staged.2]
    decide
  refine ⟨Glyphs.areMarks_default, names, opens true, arrows, ending, drawn, drifts, cell.symm,
    changed.symm, ?_, ?_⟩
  · intro mark
    exact noUntracked (congrArg (fun c => [c]) mark.symm)
  · intro mark
    exact noStaged (congrArg (fun c => [c]) mark.symm)

end StatusPrompt
