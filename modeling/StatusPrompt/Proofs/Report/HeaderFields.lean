import StatusPrompt.Proofs.Report.Refusal

/-!
What the header lines of a report mean. The commit, the branch and the tracked branch are each
the last value of their key; the remote is read off the first tracked branch that names one and
is not read off again; a count of commits stands in the last drift word with its sign.
-/

namespace StatusPrompt

def remotePart? (name : Text) : Option Text :=
  if '/' ∈ name then some (name.takeWhile (· ≠ '/')) else none

theorem before?_slash (name : Text) : Text.before? '/' name = remotePart? name := by
  induction name with
  | nil => rfl
  | cons c rest ih =>
    by_cases slash : c = '/'
    · simp [Text.before?, remotePart?, slash]
    · have other : '/' ≠ c := fun same => slash same.symm
      rw [Text.before?, if_neg slash, ih]
      by_cases later : '/' ∈ rest
      · simp [remotePart?, later, slash]
      · simp [remotePart?, later, other]

namespace Report

/-- The count is the number after the sign in the last drift word that begins with the sign, and
zero if there is no such word. -/
def IsLastCount (sign : Char) (text : Text) (count : UInt32) : Prop :=
  match ((driftWords text).filter fun word => word.head? = some sign).getLast? with
  | none => count = 0
  | some word => Numeral.Spells (word.drop 1) count.toNat

/-- A snapshot holds what the keys of a text say in key position. -/
structure SaysHeaders (reader : Reader) (text : Text) (snapshot : Snapshot) : Prop where
  commit : snapshot.commit = (valuesOf .commit text).getLast?.getD []
  branch : snapshot.branch = reader.shownBranch ((valuesOf .branch text).getLast?.getD [])
  tracking : snapshot.tracking = (valuesOf .tracking text).getLast?.getD []
  remote : snapshot.remote =
    (((valuesOf .tracking text).filterMap remotePart?).find? fun part => part ≠ []).getD []
  ahead : IsLastCount '+' text snapshot.ahead
  behind : IsLastCount '-' text snapshot.behind

def Fact.countUnder? : Char → Fact → Option UInt32
  | '+', .ahead count => some count
  | '-', .behind count => some count
  | _, _ => none

theorem driftFacts_countUnder? (sign : Char) (signed : sign = '+' ∨ sign = '-') (word : Text) :
    (driftFacts word).filterMap (Fact.countUnder? sign) =
      (if word.head? = some sign then
        (Numeral.read? Numeral.countLimit (word.drop 1)).map UInt32.ofNat else none).toList := by
  unfold driftFacts
  cases counted : Numeral.read? Numeral.countLimit (word.drop 1) with
  | none => rcases signed with rfl | rfl <;> simp [Fact.countUnder?]
  | some count =>
    dsimp only
    rcases signed with rfl | rfl
    · split
      next plus => simp [plus, Fact.countUnder?]
      next minus => simp [minus, Fact.countUnder?]
      next noPlus noMinus => simp [show ¬word.head? = some '+' from noPlus]
    · split
      next plus => simp [plus, Fact.countUnder?]
      next minus => simp [minus, Fact.countUnder?]
      next noPlus noMinus => simp [show ¬word.head? = some '-' from noMinus]

theorem isLastCount_getLast (sign : Char) (signed : sign = '+' ∨ sign = '-') (text : Text)
    (sound : fault? text = none) :
    IsLastCount sign text
      (((factsOf text).filterMap (Fact.countUnder? sign)).getLast?.getD 0) := by
  have only : ∀ fact : Fact, fact.key? ≠ some .drift → fact.countUnder? sign = none := by
    intro fact other
    cases fact with
    | ahead count => exact absurd rfl other
    | behind count => exact absurd rfl other
    | _ => simp only [Fact.countUnder?]
  have traced : (factsOf text).filterMap (Fact.countUnder? sign) =
      ((driftWords text).filter fun word => word.head? = some sign).filterMap fun word =>
        (Numeral.read? Numeral.countLimit (word.drop 1)).map UInt32.ofNat := by
    rw [factsOf_drift _ only]
    simp only [driftFacts_countUnder? sign signed]
    rw [← List.filterMap_eq_flatMap_toList, List.filterMap_filter]
    simp only [decide_eq_true_eq]
  rw [traced, IsLastCount]
  cases last : ((driftWords text).filter fun word => word.head? = some sign).getLast? with
  | none =>
    rw [List.getLast?_eq_none_iff.mp last]
    rfl
  | some word =>
    obtain ⟨before, whole⟩ := List.getLast?_eq_some_iff.mp last
    have member : word ∈ driftWords text := by
      apply List.mem_of_mem_filter
      rw [whole]
      exact List.mem_append_right before List.mem_cons_self
    have counted := (read?_isSome_iff word).mpr ((fault?_eq_none_iff text).mp sound word member)
    obtain ⟨count, found⟩ := Option.isSome_iff_exists.mp counted
    obtain ⟨bounded, spelled⟩ := (Numeral.read?_eq_some_iff _ _ _).mp found
    have fits : count < UInt32.size := Nat.lt_succ_of_le bounded
    simp only [whole, List.filterMap_append, List.filterMap_cons, found, Option.map_some,
      List.filterMap_nil, List.getLast?_concat, Option.getD_some, UInt32.toNat_ofNat_of_lt' fits]
    exact spelled

namespace Reader

variable (reader : Reader)

theorem shownBranch_nil : reader.shownBranch [] = [] := by
  have named : [] ≠ detachedHead := by decide
  exact if_neg fun asked => named asked.1

theorem note_remote (snapshot : Snapshot) (fact : Fact) :
    (note snapshot (reader.shown fact)).remote =
      match fact.valueOf? .tracking with
      | none => snapshot.remote
      | some name => remoteFor snapshot name := by
  cases fact <;> rfl

theorem foldl_remote (reading : Reading) (facts : List Fact) :
    (facts.foldl reader.takeIn reading).snapshot.remote =
      if reading.snapshot.remote = [] then
        (((facts.filterMap (Fact.valueOf? .tracking)).filterMap remotePart?).find?
          fun part => part ≠ []).getD []
      else reading.snapshot.remote := by
  induction facts generalizing reading with
  | nil =>
    split
    next unknown => exact unknown
    next => rfl
  | cons fact rest ih =>
    rw [List.foldl_cons, ih, takeIn_snapshot, note_remote]
    cases given : fact.valueOf? .tracking with
    | none => rw [List.filterMap_cons_none given]
    | some name =>
      rw [List.filterMap_cons_some given]
      by_cases unknown : reading.snapshot.remote = []
      · simp only [remoteFor, if_pos unknown, before?_slash]
        cases part : remotePart? name with
        | none => simp [part]
        | some first => by_cases blank : first = [] <;> simp [part, blank]
      · simp only [remoteFor, if_neg unknown]

/-- What a report that reads well says in its header lines. -/
theorem read_headers (text : Text) (snapshot : Snapshot)
    (readable : (reader.read text).1 = .ok snapshot) : SaysHeaders reader text snapshot := by
  obtain ⟨sound, rfl⟩ := (read_eq_ok_iff reader text snapshot).mp readable
  have commit := foldl_eq_getLast reader Snapshot.commit (Fact.valueOf? .commit)
    (fun _ fact => by cases fact <;> rfl) reader.start (factsOf text)
  have branch := foldl_eq_getLast reader Snapshot.branch
    (fun fact => (fact.valueOf? .branch).map reader.shownBranch)
    (fun _ fact => by cases fact <;> rfl) reader.start (factsOf text)
  have tracking := foldl_eq_getLast reader Snapshot.tracking (Fact.valueOf? .tracking)
    (fun _ fact => by cases fact <;> rfl) reader.start (factsOf text)
  have ahead := foldl_eq_getLast reader Snapshot.ahead (Fact.countUnder? '+')
    (fun _ fact => by cases fact <;> rfl) reader.start (factsOf text)
  have behind := foldl_eq_getLast reader Snapshot.behind (Fact.countUnder? '-')
    (fun _ fact => by cases fact <;> rfl) reader.start (factsOf text)
  have remote := foldl_remote reader reader.start (factsOf text)
  rw [factsOf_valueOf? .commit (by decide)] at commit
  rw [factsOf_valueOf? .tracking (by decide)] at tracking remote
  rw [← List.map_filterMap, factsOf_valueOf? .branch (by decide), List.getLast?_map] at branch
  refine ⟨commit, ?_, tracking, remote, ?_, ?_⟩
  · rw [branch]
    cases (valuesOf .branch text).getLast? with
    | none => exact (shownBranch_nil reader).symm
    | some name => rfl
  · rw [ahead]
    exact isLastCount_getLast '+' (Or.inl rfl) text sound
  · rw [behind]
    exact isLastCount_getLast '-' (Or.inr rfl) text sound

end Reader

def tangledReport : Text := Text.joined ['\n']
  [Text.joined [' '] [['#'], Key.commit.word, Key.branch.word, Key.tracking.word, ['/', 'x']],
    Text.joined [' '] [['#'], ['?'], Key.branch.word, detachedHead, Key.drift.word, ['+', '1'],
      ['-', '7'], ['+', '0', '3']],
    Text.joined [' '] [['#'], Key.tracking.word, ['a', '/', 'b']],
    Text.joined [' '] [['#'], Key.tracking.word, ['c', '/', 'd'], Key.tracking.word]]

def tangledSnapshot : Snapshot where
  commit := Key.branch.word
  branch := ['v', '1']
  remote := ['a']
  ahead := 3
  behind := 7

theorem read_headers_tangled :
    (Reader.read { tag := some ['v', '1'] } tangledReport).1 = .ok tangledSnapshot ∧
      SaysHeaders { tag := some ['v', '1'] } tangledReport tangledSnapshot :=
  have readable : (Reader.read { tag := some ['v', '1'] } tangledReport).1 =
      .ok tangledSnapshot := by decide +kernel
  ⟨readable, Reader.read_headers _ tangledReport tangledSnapshot readable⟩

end Report

end StatusPrompt
