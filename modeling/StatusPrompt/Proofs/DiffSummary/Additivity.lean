import StatusPrompt.Proofs.DiffSummary.Acceptance

/-!
Diff summaries add up. What a line counts does not depend on the carriage return at its end, so the
totals of a summary are those of its pieces between line feeds, wherever it is cut: two summaries
with a line feed between them are taken in exactly if both are, and then add what they add one by
one, in either order. Lines may change places, which can change which of them a summary is refused
for, but not whether it is refused.
-/

namespace StatusPrompt

@[simp] theorem Text.isAllBlank_dropReturn (piece : Text) :
    (Text.dropReturn piece).isAllBlank = piece.isAllBlank := by
  unfold Text.dropReturn
  split_ifs with ends
  · obtain ⟨front, rfl⟩ := List.getLast?_eq_some_iff.mp ends
    have blank : Text.isAllBlank ['\r'] = true := by decide
    rw [List.dropLast_concat, Text.isAllBlank, Text.isAllBlank, List.all_append, ← Text.isAllBlank,
      ← Text.isAllBlank, blank, Bool.and_true]
  · rfl

namespace DiffSummary

namespace Totals

@[simp] theorem zero_add (totals : Totals) : Totals.add {} totals = totals := by
  simp [add]

theorem add_assoc (first second third : Totals) :
    (first.add second).add third = first.add (second.add third) := by
  simp only [add, UInt64.add_assoc]

theorem add_comm (first second : Totals) : first.add second = second.add first := by
  simp only [add, UInt64.add_comm]

theorem add_left_comm (first second third : Totals) :
    first.add (second.add third) = second.add (first.add third) := by
  rw [← add_assoc, add_comm first second, add_assoc]

end Totals

/-- A carriage return at the end of a line is trimmed off its last field. -/
theorem map_trim_fields_dropReturn (line : Text) :
    (Text.fields '\t' (Text.dropReturn line)).map Text.trim =
      (Text.fields '\t' line).map Text.trim := by
  unfold Text.dropReturn
  split_ifs with ends
  · obtain ⟨front, rfl⟩ := List.getLast?_eq_some_iff.mp ends
    obtain ⟨fields, last, cut, further⟩ := Text.fields_concat '\t' '\r' front (by decide)
    have blank : isBlank '\r' = true := by decide
    rw [List.dropLast_concat, cut, further, List.map_append, List.map_append, List.map_singleton,
      List.map_singleton, Text.trim_concat last '\r' blank]
  · rfl

theorem holdsCount_iff_map_trim (position : Nat) (line : Text) (count : UInt64) :
    HoldsCount position line count ↔
      ∃ trimmed, ((Text.fields '\t' line).map Text.trim)[position]? = some trimmed ∧
        Numeral.Spells trimmed count.toNat := by
  simp only [HoldsCount, List.getElem?_map, Option.map_eq_some_iff]
  constructor
  · intro held
    obtain ⟨field, found, spelled⟩ := held
    exact ⟨_, ⟨field, found, rfl⟩, spelled⟩
  · intro held
    obtain ⟨_, ⟨field, found, rfl⟩, spelled⟩ := held
    exact ⟨field, found, spelled⟩

@[simp] theorem gives_dropReturn (line : Text) (totals : Totals) :
    Gives (Text.dropReturn line) totals ↔ Gives line totals := by
  have same : ∀ position count,
      HoldsCount position (Text.dropReturn line) count ↔ HoldsCount position line count := by
    intro position count
    rw [holdsCount_iff_map_trim, holdsCount_iff_map_trim, map_trim_fields_dropReturn]
  constructor
  · intro gives
    exact ⟨(same _ _).mp gives.insertions, (same _ _).mp gives.deletions⟩
  · intro gives
    exact ⟨(same _ _).mpr gives.insertions, (same _ _).mpr gives.deletions⟩

theorem sum_append_eq_ok_iff (first second : List Text) (totals : Totals) :
    sum (first ++ second) = .ok totals ↔
      ∃ one two, sum first = .ok one ∧ sum second = .ok two ∧ totals = one.add two := by
  induction first generalizing totals with
  | nil =>
    constructor
    · intro added
      exact ⟨{}, totals, rfl, added, totals.zero_add.symm⟩
    · intro parts
      obtain ⟨one, two, none, added, rfl⟩ := parts
      cases none
      rwa [Totals.zero_add]
  | cons line rest ih =>
    simp only [List.cons_append, sum_cons_eq_ok_iff, ih]
    constructor
    · intro whole
      obtain ⟨given, _, gives, ⟨one, two, later, added, rfl⟩, rfl⟩ := whole
      exact ⟨_, two, ⟨given, one, gives, later, rfl⟩, added, (Totals.add_assoc _ _ _).symm⟩
    · intro parts
      obtain ⟨_, two, ⟨given, one, gives, later, rfl⟩, added, rfl⟩ := parts
      exact ⟨given, _, gives, ⟨one, two, later, added, rfl⟩, Totals.add_assoc _ _ _⟩

theorem sum_of_perm (first second : List Text) (perm : first.Perm second) (totals : Totals)
    (summed : sum first = .ok totals) : sum second = .ok totals := by
  induction perm generalizing totals with
  | nil => exact summed
  | cons line _ ih =>
    obtain ⟨given, others, gives, later, rfl⟩ := (sum_cons_eq_ok_iff _ _ _).mp summed
    exact (sum_cons_eq_ok_iff _ _ _).mpr ⟨given, others, gives, ih others later, rfl⟩
  | swap line next rest =>
    obtain ⟨one, _, nextGives, later, rfl⟩ := (sum_cons_eq_ok_iff _ _ _).mp summed
    obtain ⟨two, others, lineGives, rest, rfl⟩ := (sum_cons_eq_ok_iff _ _ _).mp later
    apply (sum_cons_eq_ok_iff _ _ _).mpr
    refine ⟨two, one.add others, lineGives, ?_, Totals.add_left_comm _ _ _⟩
    exact (sum_cons_eq_ok_iff _ _ _).mpr ⟨one, others, nextGives, rest, rfl⟩
  | trans _ _ one two => exact two totals (one totals summed)

/-- The pieces between line feeds that are not blank. They may end in a carriage return. -/
def filled (pieces : List Text) : List Text := pieces.filter fun piece => !piece.isAllBlank

theorem filled_cons (piece : Text) (more : List Text) :
    filled (piece :: more) = if piece.isAllBlank then filled more else piece :: filled more := by
  rw [filled, List.filter_cons]
  cases piece.isAllBlank <;> rfl

theorem sum_filled_linesOfPieces (pieces : List Text) (added : Totals) :
    sum (filled (Text.linesOfPieces pieces)) = .ok added ↔ sum (filled pieces) = .ok added := by
  induction pieces generalizing added with
  | nil => rfl
  | cons piece more ih =>
    cases more with
    | nil =>
      -- The last piece is a line only if it is not empty, and keeps its carriage return.
      rw [Text.linesOfPieces]
      split_ifs with empty
      · rw [empty]
        rfl
      · rfl
    | cons next rest =>
      have cut : Text.linesOfPieces (piece :: next :: rest) =
          Text.dropReturn piece :: Text.linesOfPieces (next :: rest) := rfl
      rw [cut, filled_cons, filled_cons, Text.isAllBlank_dropReturn]
      split_ifs
      · exact ih added
      · simp [sum_cons_eq_ok_iff, ih]

theorem totals_eq_ok_iff (text : Text) (added : Totals) :
    totals text = .ok added ↔ sum (filled (Text.fields '\n' text)) = .ok added := by
  rw [totals, records, Text.lines_eq]
  exact sum_filled_linesOfPieces _ added

theorem totals_append_eq_ok_iff (first second : Text) (added : Totals) :
    totals (first ++ '\n' :: second) = .ok added ↔
      ∃ one two, totals first = .ok one ∧ totals second = .ok two ∧ added = one.add two := by
  simp only [totals_eq_ok_iff]
  rw [Text.fields_append_separator, filled, List.filter_append]
  exact sum_append_eq_ok_iff _ _ added

theorem totals_joined_of_perm (first second : List Text) (perm : first.Perm second)
    (whole : ∀ line ∈ first, '\n' ∉ line) (added : Totals)
    (summed : totals (Text.joined ['\n'] first) = .ok added) :
    totals (Text.joined ['\n'] second) = .ok added := by
  -- No line at all is joined to the empty text, which is a piece of its own.
  by_cases empty : first = []
  · subst empty
    rwa [← perm.nil_eq]
  · have wholeSecond : ∀ line ∈ second, '\n' ∉ line :=
      fun line member => whole line (perm.mem_iff.mpr member)
    have filledSecond : second ≠ [] := by
      intro none
      subst none
      exact empty perm.eq_nil
    rw [totals_eq_ok_iff, Text.fields_joined '\n' first empty whole] at summed
    rw [totals_eq_ok_iff, Text.fields_joined '\n' second filledSecond wholeSecond]
    exact sum_of_perm _ _ (perm.filter _) added summed

def raised (snapshot : Snapshot) (added : Totals) : Snapshot :=
  { snapshot with
    insertions := snapshot.insertions + added.insertions
    deletions := snapshot.deletions + added.deletions }

@[simp] theorem raised_raised (snapshot : Snapshot) (first second : Totals) :
    raised (raised snapshot first) second = raised snapshot (first.add second) := by
  simp only [raised, Totals.add, UInt64.add_assoc]

theorem exists_addTo_iff (snapshot : Snapshot) (text : Text) :
    (∃ after, addTo snapshot text = .ok after) ↔ ∃ added, totals text = .ok added := by
  simp only [addTo_eq_ok_iff]
  constructor
  · intro taken
    obtain ⟨_, added, summed, -⟩ := taken
    exact ⟨added, summed⟩
  · intro summed
    obtain ⟨added, summed⟩ := summed
    exact ⟨_, added, summed, rfl⟩

theorem addTo_addTo_eq_ok_iff (snapshot after : Snapshot) (first second : Text) :
    (addTo snapshot first >>= fun between => addTo between second) = .ok after ↔
      ∃ one two, totals first = .ok one ∧ totals second = .ok two ∧
        after = raised snapshot (one.add two) := by
  cases one : totals first with
  | error failure => simp [addTo, one, bind, Except.bind]
  | ok added =>
    have began : addTo snapshot first = .ok (raised snapshot added) :=
      (addTo_eq_ok_iff _ _ _).mpr ⟨added, one, rfl⟩
    rw [began]
    show addTo (raised snapshot added) second = .ok after ↔ _
    rw [addTo_eq_ok_iff]
    constructor
    · intro ended
      obtain ⟨more, two, rfl⟩ := ended
      exact ⟨added, more, rfl, two, raised_raised snapshot added more⟩
    · intro both
      obtain ⟨_, more, same, two, rfl⟩ := both
      cases same
      exact ⟨more, two, (raised_raised snapshot added more).symm⟩

theorem addTo_append_eq_ok_iff (snapshot after : Snapshot) (first second : Text) :
    addTo snapshot (first ++ '\n' :: second) = .ok after ↔
      ∃ one two, totals first = .ok one ∧ totals second = .ok two ∧
        after = raised snapshot (one.add two) := by
  rw [addTo_eq_ok_iff]
  simp only [totals_append_eq_ok_iff]
  constructor
  · intro together
    obtain ⟨_, ⟨one, two, front, back, rfl⟩, rfl⟩ := together
    exact ⟨one, two, front, back, rfl⟩
  · intro parts
    obtain ⟨one, two, front, back, rfl⟩ := parts
    exact ⟨_, ⟨one, two, front, back, rfl⟩, rfl⟩

theorem addTo_joined_of_perm (snapshot after : Snapshot) (lines moved : List Text)
    (perm : lines.Perm moved) (whole : ∀ line ∈ lines, '\n' ∉ line)
    (added : addTo snapshot (Text.joined ['\n'] lines) = .ok after) :
    addTo snapshot (Text.joined ['\n'] moved) = .ok after := by
  obtain ⟨more, summed, rfl⟩ := (addTo_eq_ok_iff _ _ _).mp added
  exact (addTo_eq_ok_iff _ _ _).mpr
    ⟨more, totals_joined_of_perm lines moved perm whole more summed, rfl⟩

/-- Two summaries with a line feed between them are taken in exactly if each of them is, and leave
what they leave one after the other, in either order. Lines that change places leave the same. -/
theorem addTo_additive (snapshot : Snapshot) (first second : Text) :
    ((∃ after, addTo snapshot (first ++ '\n' :: second) = .ok after) ↔
        (∃ after, addTo snapshot first = .ok after) ∧ ∃ after, addTo snapshot second = .ok after) ∧
      (∀ after, addTo snapshot (first ++ '\n' :: second) = .ok after ↔
        (addTo snapshot first >>= fun between => addTo between second) = .ok after) ∧
      (∀ after, addTo snapshot (first ++ '\n' :: second) = .ok after ↔
        (addTo snapshot second >>= fun between => addTo between first) = .ok after) ∧
      ∀ lines moved : List Text, lines.Perm moved → (∀ line ∈ lines, '\n' ∉ line) →
        ∀ after, addTo snapshot (Text.joined ['\n'] lines) = .ok after ↔
          addTo snapshot (Text.joined ['\n'] moved) = .ok after := by
  refine ⟨?_, ?_, ?_, ?_⟩
  · simp only [exists_addTo_iff, totals_append_eq_ok_iff]
    constructor
    · intro together
      obtain ⟨_, one, two, front, back, rfl⟩ := together
      exact ⟨⟨one, front⟩, two, back⟩
    · intro each
      obtain ⟨⟨one, front⟩, two, back⟩ := each
      exact ⟨_, one, two, front, back, rfl⟩
  · intro after
    rw [addTo_append_eq_ok_iff, addTo_addTo_eq_ok_iff]
  · intro after
    rw [addTo_append_eq_ok_iff, addTo_addTo_eq_ok_iff, exists_comm]
    simp only [Totals.add_comm, and_left_comm]
  · intro lines moved perm whole after
    have wholeMoved : ∀ line ∈ moved, '\n' ∉ line :=
      fun line member => whole line (perm.mem_iff.mpr member)
    exact ⟨addTo_joined_of_perm snapshot after lines moved perm whole,
      addTo_joined_of_perm snapshot after moved lines perm.symm wholeMoved⟩

/-- The carriage return in the first summary is at the end of a text on its own, at the end of a
line in front of the other, and at the end of a text again where the other comes first. -/
theorem addTo_additive_returns :
    let first := "3\t1\ta\r".toList
    let second := "\n2\t 2".toList
    let lines := ["3\t1\r".toList, [], "2\t2".toList]
    let moved := [[], "2\t2".toList, "3\t1\r".toList]
    let after : Snapshot := { insertions := 5, deletions := 3 }
    addTo {} (first ++ '\n' :: second) = .ok after ∧
      (addTo {} second >>= fun between => addTo between first) = .ok after ∧
      lines.Perm moved ∧ (∀ line ∈ lines, '\n' ∉ line) ∧
      addTo {} (Text.joined ['\n'] lines) = .ok after ∧
      addTo {} (Text.joined ['\n'] moved) = .ok after := by
  intro first second lines moved after
  obtain ⟨-, -, turned, rearranged⟩ := addTo_additive {} first second
  have whole : ∀ line ∈ lines, '\n' ∉ line := by decide
  have perm : lines.Perm moved := by decide
  have together : addTo {} (first ++ '\n' :: second) = .ok after := rfl
  have inOrder : addTo {} (Text.joined ['\n'] lines) = .ok after := rfl
  exact ⟨together, (turned after).mp together, perm, whole, inOrder,
    (rearranged lines moved perm whole after).mp inOrder⟩

end DiffSummary

end StatusPrompt
