import StatusPrompt.Proofs.Report.Cut

/-!
What one line of a report may change. A line is passed over when it is blank, of a kind that is not
read, an entry without its status pair, or a header without a key, and then nothing changes and no
tag is asked for. An entry raises at most one count on either side, a line of the two other kinds
one counter, and a header says something of the names and the drift only, also where it is refused
half way. No line has a say in what surrounds a report. Where a counter that is raised holds the
last value of its width already, the next one is not said.
-/

namespace StatusPrompt

/-- The snapshots agree on everything that header lines say nothing about. -/
structure Snapshot.SameButHeaders (before after : Snapshot) : Prop where
  untracked : after.untracked = before.untracked
  unmerged : after.unmerged = before.unmerged
  staged : after.staged = before.staged
  unstaged : after.unstaged = before.unstaged
  insertions : after.insertions = before.insertions
  deletions : after.deletions = before.deletions
  stashed : after.stashed = before.stashed
  merging : after.merging = before.merging
  workDir : after.workDir = before.workDir
  metadataDir : after.metadataDir = before.metadataDir

namespace Snapshot.SameButHeaders

theorem refl (snapshot : Snapshot) : snapshot.SameButHeaders snapshot :=
  ⟨rfl, rfl, rfl, rfl, rfl, rfl, rfl, rfl, rfl, rfl⟩

theorem trans {first second third : Snapshot} (one : first.SameButHeaders second)
    (two : second.SameButHeaders third) : first.SameButHeaders third where
  untracked := two.untracked.trans one.untracked
  unmerged := two.unmerged.trans one.unmerged
  staged := two.staged.trans one.staged
  unstaged := two.unstaged.trans one.unstaged
  insertions := two.insertions.trans one.insertions
  deletions := two.deletions.trans one.deletions
  stashed := two.stashed.trans one.stashed
  merging := two.merging.trans one.merging
  workDir := two.workDir.trans one.workDir
  metadataDir := two.metadataDir.trans one.metadataDir

end Snapshot.SameButHeaders

namespace Report

namespace Reader

variable (reader : Reader)

theorem note_sameButHeaders (snapshot : Snapshot) (fact : Fact) (keyed : fact.key? ≠ none) :
    snapshot.SameButHeaders (note snapshot fact) := by
  cases fact with
  | staged change => exact absurd rfl keyed
  | unstaged change => exact absurd rfl keyed
  | unmerged => exact absurd rfl keyed
  | untracked => exact absurd rfl keyed
  | _ => exact ⟨rfl, rfl, rfl, rfl, rfl, rfl, rfl, rfl, rfl, rfl⟩

theorem takeIn_sameButHeaders (reading : Reading) (fact : Fact) (keyed : fact.key? ≠ none) :
    reading.snapshot.SameButHeaders (reader.takeIn reading fact).snapshot := by
  have shown : (reader.shown fact).key? ≠ none := by
    cases fact with
    | branch name => exact Option.some_ne_none Key.branch
    | _ => exact keyed
  rw [takeIn_snapshot]
  exact note_sameButHeaders reading.snapshot (reader.shown fact) shown

theorem foldl_sameButHeaders (facts : List Fact) (reading : Reading)
    (keyed : ∀ fact ∈ facts, fact.key? ≠ none) :
    reading.snapshot.SameButHeaders (facts.foldl reader.takeIn reading).snapshot := by
  induction facts generalizing reading with
  | nil => exact .refl reading.snapshot
  | cons fact rest ih =>
    have first := reader.takeIn_sameButHeaders reading fact (keyed fact List.mem_cons_self)
    have others := ih (reader.takeIn reading fact) fun other member =>
      keyed other (List.mem_cons_of_mem fact member)
    exact first.trans others

theorem readLine_surroundings (reading : Reading) (line : Text) :
    (reader.readLine reading line).1.snapshot.surroundings = reading.snapshot.surroundings := by
  rw [readLine_eq]
  exact foldl_surroundings reader reading _

/-- A header that is refused half way is not ignored, and keeps what it said before. -/
example : (Reader.bare.readLine { snapshot := { untracked := 2 } }
    "# branch.head branch.ab branch.ab +3 -x".toList) =
      (⟨{ branch := "branch.ab".toList, ahead := 3, untracked := 2 }, 0⟩,
        .error (.badDrift "-x".toList)) := by rfl

end Reader

end Report

end StatusPrompt
