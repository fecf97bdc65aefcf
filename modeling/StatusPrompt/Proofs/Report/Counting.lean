import StatusPrompt.Proofs.Counter
import StatusPrompt.Proofs.Report.KeyPosition

/-!
The counting law of a status report. Every counter of a snapshot is the number of lines that
state its mark: the first word tells the kind of a line, and in an entry the two letters of the
second word tell the changes. What the counters say about health is then said of lines, as long as
the sum of a tally fits in its width.
-/

namespace StatusPrompt

theorem Change.ofLetter?_eq_some_iff (c : Char) (change : Change) :
    Change.ofLetter? c = some change ↔ c = change.letter := by
  constructor
  · intro named
    unfold Change.ofLetter? at named
    split at named <;> cases named <;> rfl
  · rintro rfl
    exact Change.ofLetter?_letter change

theorem Change.stagedOf_eq_some_iff (pair : Text) (change : Change) :
    Change.stagedOf pair = some change ↔ pair[0]? = some change.letter := by
  rw [Change.stagedOf, List.head?_eq_getElem?, Option.bind_eq_some_iff]
  simp only [Change.ofLetter?_eq_some_iff, exists_eq_right]

theorem Change.unstagedOf_eq_some_iff (pair : Text) (change : Change) :
    Change.unstagedOf pair = some change ↔ pair[1]? = some change.letter := by
  rw [Change.unstagedOf, List.head?_drop, Option.bind_eq_some_iff]
  simp only [Change.ofLetter?_eq_some_iff, exists_eq_right]

namespace Snapshot

theorem health_eq_dirty_iff (snapshot : Snapshot) :
    snapshot.health = .dirty ↔ snapshot.unstaged.isChanged = true := by
  unfold health
  split_ifs with unstaged staged <;> simp [unstaged]

theorem health_eq_stagedOnly_iff (snapshot : Snapshot) :
    snapshot.health = .stagedOnly ↔
      ¬snapshot.unstaged.isChanged = true ∧ snapshot.staged.isChanged = true := by
  unfold health
  split_ifs with unstaged staged <;> simp [unstaged, staged]

theorem health_eq_clean_iff (snapshot : Snapshot) :
    snapshot.health = .clean ↔
      ¬snapshot.unstaged.isChanged = true ∧ ¬snapshot.staged.isChanged = true := by
  unfold health
  split_ifs with unstaged staged <;> simp [unstaged, staged]

end Snapshot

namespace Report

def isEntry (line : Text) : Bool := line.words[0]? = some ['1'] || line.words[0]? = some ['2']

def pairLetter? (position : Nat) (line : Text) : Option Char :=
  line.words[1]?.bind fun pair => pair[position]?

def HasChange (position : Nat) (line : Text) : Prop :=
  isEntry line = true ∧ ∃ change : Change, pairLetter? position line = some change.letter

instance (position : Nat) (line : Text) : Decidable (HasChange position line) :=
  decidable_of_iff (isEntry line = true ∧
      ∃ change ∈ [Change.modified, .added, .deleted, .renamed, .copied],
        pairLetter? position line = some change.letter) <| by
    unfold HasChange
    refine and_congr_right fun _ => exists_congr fun change => and_iff_right ?_
    cases change <;> decide

/-- What a status report counts. -/
inductive Mark where
  | untracked
  | unmerged
  | staged (change : Change)
  | unstaged (change : Change)
  deriving DecidableEq, Repr

namespace Mark

def fact : Mark → Fact
  | untracked => .untracked
  | unmerged => .unmerged
  | staged change => .staged change
  | unstaged change => .unstaged change

def counter (snapshot : Snapshot) : Mark → UInt32
  | untracked => snapshot.untracked
  | unmerged => snapshot.unmerged
  | staged change => snapshot.staged.count change
  | unstaged change => snapshot.unstaged.count change

def isOn (line : Text) : Mark → Bool
  | untracked => line.words[0]? = some ['?']
  | unmerged => line.words[0]? = some ['u']
  | staged change => isEntry line && pairLetter? 0 line = some change.letter
  | unstaged change => isEntry line && pairLetter? 1 line = some change.letter

theorem fact_key? (mark : Mark) : mark.fact.key? = none := by
  cases mark <;> rfl

end Mark

/-- A status pair states a change on either side by the letter at that side's position. -/
theorem count_pairFacts (pair : Text) (mark : Mark) :
    (pairFacts pair).count mark.fact =
      match mark with
      | .staged change => if pair[0]? = some change.letter then 1 else 0
      | .unstaged change => if pair[1]? = some change.letter then 1 else 0
      | _ => 0 := by
  simp only [pairFacts, List.count_append, ← Change.stagedOf_eq_some_iff,
    ← Change.unstagedOf_eq_some_iff]
  cases Change.stagedOf pair <;> cases Change.unstagedOf pair <;> cases mark <;>
    simp [Mark.fact, List.count_singleton]

theorem count_factsOfLine (mark : Mark) (line : Text) :
    (factsOfLine line).count mark.fact = if mark.isOn line then 1 else 0 := by
  have states := factsOfLine_lineFacts line
  generalize factsOfLine line = facts at states ⊢
  generalize split : line.words = words at states
  cases states with
  | blank => cases mark <;> simp [Mark.isOn, isEntry, split]
  | header words =>
    have absent : mark.fact ∉ (headers words).flatMap Header.facts := by
      intro member
      obtain ⟨header, -, stated⟩ := List.mem_flatMap.mp member
      have keyed := header.facts_key? mark.fact stated
      rw [mark.fact_key?] at keyed
      cases keyed
    rw [List.count_eq_zero.mpr absent]
    cases mark <;> simp [Mark.isOn, isEntry, split]
  | entry tag words tagged =>
    have entry : isEntry line = true := by
      rcases tagged with rfl | rfl <;> simp [isEntry, split]
    have noSign : tag ≠ ['?'] ∧ tag ≠ ['u'] := by
      rcases tagged with rfl | rfl <;> decide
    cases words with
    | nil => cases mark <;> simp [Mark.isOn, entry, pairLetter?, split, noSign]
    | cons pair rest =>
      rw [List.head?_cons, Option.map_some, Option.getD_some, count_pairFacts]
      cases mark <;> simp [Mark.isOn, entry, pairLetter?, split, noSign]
  | unmerged words => cases mark <;> simp [Mark.isOn, Mark.fact, isEntry, split]
  | untracked words => cases mark <;> simp [Mark.isOn, Mark.fact, isEntry, split]
  | other tag words unknown => cases mark <;> simp [Mark.isOn, isEntry, split, unknown]

theorem count_factsOf (mark : Mark) (text : Text) :
    (factsOf text).count mark.fact = text.lines.countP fun line => mark.isOn line := by
  unfold factsOf
  induction text.lines with
  | nil => rfl
  | cons line rest ih =>
    rw [List.flatMap_cons, List.count_append, ih, count_factsOfLine, List.countP_cons, Nat.add_comm]

theorem one_hasChange (position : Nat) (line : Text) :
    (if HasChange position line then 1 else 0) =
      ([Change.modified, .added, .deleted, .renamed, .copied].map fun change =>
        if isEntry line && pairLetter? position line = some change.letter then 1 else 0).sum := by
  by_cases holds : HasChange position line
  · obtain ⟨entry, change, letter⟩ := id holds
    rw [if_pos holds, entry, letter]
    cases change <;> decide
  · have none : ∀ change : Change,
        (isEntry line && pairLetter? position line = some change.letter) = false := by
      intro change
      rw [Bool.and_eq_false_iff, decide_eq_false_iff_not]
      by_contra both
      simp only [not_or, Bool.not_eq_false, not_not] at both
      exact holds ⟨both.1, change, both.2⟩
    simp only [if_neg holds, none, Bool.false_eq_true, ↓reduceIte, List.map_cons, List.map_nil,
      List.sum_cons, List.sum_nil, Nat.add_zero]

/-- An entry holds one letter at a position, so the kinds of change share the entries out. -/
theorem countP_hasChange (position : Nat) (lines : List Text) :
    (lines.countP fun line => HasChange position line) =
      ([Change.modified, .added, .deleted, .renamed, .copied].map fun change =>
        lines.countP fun line => isEntry line && pairLetter? position line = some change.letter).sum := by
  induction lines with
  | nil => rfl
  | cons line rest ih =>
    have first := one_hasChange position line
    simp only [List.map_cons, List.map_nil, List.sum_cons, List.sum_nil] at ih first ⊢
    simp only [List.countP_cons, ih, decide_eq_true_eq, first]
    omega

theorem isChanged_iff_exists (tally : Tally) (position : Nat) (lines : List Text)
    (counted : ∀ change, (tally.count change).toNat = (lines.countP fun line =>
      isEntry line && pairLetter? position line = some change.letter) % 2 ^ 32)
    (fits : (lines.countP fun line => HasChange position line) < 2 ^ 32) :
    tally.isChanged = true ↔ ∃ line ∈ lines, HasChange position line := by
  have modified := counted .modified
  have added := counted .added
  have deleted := counted .deleted
  have renamed := counted .renamed
  have copied := counted .copied
  have shared := countP_hasChange position lines
  simp only [List.map_cons, List.map_nil, List.sum_cons, List.sum_nil] at shared
  simp only [Tally.count] at modified added deleted renamed copied
  have total := tally.toNat_total
  have exact : tally.total.toNat = lines.countP fun line => HasChange position line := by omega
  rw [Tally.isChanged_iff, ne_eq, ← Counter.toNat_eq_zero_iff, exact, ← ne_eq,
    ← Nat.pos_iff_ne_zero, List.countP_pos_iff]
  simp only [decide_eq_true_eq]

/-- What the lines of a text say of health. -/
structure LineHealth (text : Text) (snapshot : Snapshot) : Prop where
  dirty_iff : snapshot.health = .dirty ↔ ∃ line ∈ text.lines, HasChange 1 line
  stagedOnly_iff : snapshot.health = .stagedOnly ↔
    (¬∃ line ∈ text.lines, HasChange 1 line) ∧ ∃ line ∈ text.lines, HasChange 0 line
  clean_iff : snapshot.health = .clean ↔
    (¬∃ line ∈ text.lines, HasChange 1 line) ∧ ¬∃ line ∈ text.lines, HasChange 0 line
  isDirty_iff : snapshot.isDirty = true ↔ ∃ line ∈ text.lines, HasChange 0 line

/-- A snapshot holds what a reader counts in the lines of a text, as far as its counters go, and
nothing else is set. -/
structure LineCounts (reader : Reader) (text : Text) (snapshot : Snapshot) : Prop where
  untracked : snapshot.untracked.toNat =
    (text.lines.countP fun line => line.words[0]? = some ['?']) % 2 ^ 32
  unmerged : snapshot.unmerged.toNat =
    (text.lines.countP fun line => line.words[0]? = some ['u']) % 2 ^ 32
  staged : ∀ change : Change, (snapshot.staged.count change).toNat =
    (text.lines.countP fun line =>
      isEntry line && pairLetter? 0 line = some change.letter) % 2 ^ 32
  unstaged : ∀ change : Change, (snapshot.unstaged.count change).toNat =
    (text.lines.countP fun line =>
      isEntry line && pairLetter? 1 line = some change.letter) % 2 ^ 32
  workDir : snapshot.workDir = reader.workDir
  metadataDir : snapshot.metadataDir = none
  insertions : snapshot.insertions = 0
  deletions : snapshot.deletions = 0
  stashed : snapshot.stashed = false
  merging : snapshot.merging = false
  /-- The sum of either side fits in its width. -/
  health : (text.lines.countP fun line => HasChange 0 line) < 2 ^ 32 →
    (text.lines.countP fun line => HasChange 1 line) < 2 ^ 32 → LineHealth text snapshot

namespace Reader

variable (reader : Reader)

theorem note_counter (snapshot : Snapshot) (fact : Fact) (mark : Mark) :
    mark.counter (note snapshot (reader.shown fact)) =
      mark.counter snapshot + if fact = mark.fact then 1 else 0 := by
  cases fact with
  | staged change =>
    cases mark <;> simp [shown, note, Mark.counter, Mark.fact, Tally.count_record, eq_comm]
  | unstaged change =>
    cases mark <;> simp [shown, note, Mark.counter, Mark.fact, Tally.count_record, eq_comm]
  | unmerged => cases mark <;> simp [shown, note, Mark.counter, Mark.fact]
  | untracked => cases mark <;> simp [shown, note, Mark.counter, Mark.fact]
  | _ => cases mark <;> exact (UInt32.add_zero _).symm

theorem foldl_counter (reading : Reading) (facts : List Fact) (mark : Mark) :
    mark.counter (facts.foldl reader.takeIn reading).snapshot =
      mark.counter reading.snapshot + UInt32.ofNat (facts.count mark.fact) := by
  induction facts generalizing reading with
  | nil => exact (UInt32.add_zero _).symm
  | cons fact rest ih =>
    rw [List.foldl_cons, ih, takeIn_snapshot, note_counter, List.count_cons, UInt32.add_assoc,
      UInt32.add_comm (ite _ _ _), UInt32.ofNat_add]
    simp only [beq_iff_eq]
    split_ifs <;> rfl

theorem read_counter (text : Text) (snapshot : Snapshot)
    (readable : (reader.read text).1 = .ok snapshot) (mark : Mark) :
    (mark.counter snapshot).toNat = (text.lines.countP fun line => mark.isOn line) % 2 ^ 32 := by
  obtain ⟨-, rfl⟩ := (read_eq_ok_iff reader text snapshot).mp readable
  have empty : mark.counter reader.start.snapshot = 0 := by
    cases mark with
    | untracked => rfl
    | unmerged => rfl
    | staged change => cases change <;> rfl
    | unstaged change => cases change <;> rfl
  simp [foldl_counter, count_factsOf, empty]

/-- The counting law of a report that reads well, and what it means for the health that is shown.
A letter that is not counted, a missing letter and a missing pair leave every counter alone. -/
theorem read_counts (text : Text) (snapshot : Snapshot)
    (readable : (reader.read text).1 = .ok snapshot) : LineCounts reader text snapshot := by
  have counter := read_counter reader text snapshot readable
  have around := read_surroundings reader text snapshot readable
  simp only [Snapshot.surroundings, Surroundings.mk.injEq] at around
  obtain ⟨workDir, metadataDir, insertions, deletions, stashed, merging⟩ := around
  exact {
    untracked := counter .untracked
    unmerged := counter .unmerged
    staged := fun change => counter (.staged change)
    unstaged := fun change => counter (.unstaged change)
    workDir := workDir
    metadataDir := metadataDir
    insertions := insertions
    deletions := deletions
    stashed := stashed
    merging := merging
    health := by
      intro stagedFits unstagedFits
      have staged := isChanged_iff_exists snapshot.staged 0 text.lines
        (fun change => counter (.staged change)) stagedFits
      have unstaged := isChanged_iff_exists snapshot.unstaged 1 text.lines
        (fun change => counter (.unstaged change)) unstagedFits
      constructor
      · rw [Snapshot.health_eq_dirty_iff, unstaged]
      · rw [Snapshot.health_eq_stagedOnly_iff, unstaged, staged]
      · rw [Snapshot.health_eq_clean_iff, unstaged, staged]
      · exact staged }

end Reader

def mixedReport : Text := Text.joined ['\n']
  [['1', ' ', 'M', 'D', ' ', '?'], ['?', ' ', 'u'], ['2', ' ', '.', 'A', 'C'], ['u'], ['1'],
    ['#', ' ', '1'], ['1', '\t', 'T'], ['!', ' ', '1']]

def mixedSnapshot : Snapshot where
  untracked := 1
  unmerged := 1
  staged := { modified := 1 }
  unstaged := { deleted := 1, added := 1 }

theorem read_counts_mixed :
    (Reader.bare.read mixedReport).1 = .ok mixedSnapshot ∧
      LineCounts Reader.bare mixedReport mixedSnapshot :=
  have readable : (Reader.bare.read mixedReport).1 = .ok mixedSnapshot := by decide +kernel
  ⟨readable, Reader.read_counts Reader.bare mixedReport mixedSnapshot readable⟩

end Report

end StatusPrompt
