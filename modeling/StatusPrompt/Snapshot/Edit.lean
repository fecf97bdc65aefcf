import StatusPrompt.Snapshot.Basic

/-!
Assigning several fields of a snapshot at once. A field that an edit does not give keeps its
value; the metadata directory is not open to editing.
-/

namespace StatusPrompt

structure TallyEdit where
  modified : Option UInt32 := none
  added : Option UInt32 := none
  deleted : Option UInt32 := none
  renamed : Option UInt32 := none
  copied : Option UInt32 := none

def TallyEdit.apply (edit : TallyEdit) (tally : Tally) : Tally where
  modified := edit.modified.getD tally.modified
  added := edit.added.getD tally.added
  deleted := edit.deleted.getD tally.deleted
  renamed := edit.renamed.getD tally.renamed
  copied := edit.copied.getD tally.copied

structure Edit where
  workDir : Option Text := none
  branch : Option Text := none
  commit : Option Text := none
  remote : Option Text := none
  tracking : Option Text := none
  ahead : Option UInt32 := none
  behind : Option UInt32 := none
  untracked : Option UInt32 := none
  unmerged : Option UInt32 := none
  insertions : Option UInt64 := none
  deletions : Option UInt64 := none
  staged : TallyEdit := {}
  unstaged : TallyEdit := {}
  stashed : Option Bool := none
  merging : Option Bool := none

def Edit.apply (edit : Edit) (snapshot : Snapshot) : Snapshot where
  workDir := edit.workDir.getD snapshot.workDir
  metadataDir := snapshot.metadataDir
  branch := edit.branch.getD snapshot.branch
  commit := edit.commit.getD snapshot.commit
  remote := edit.remote.getD snapshot.remote
  tracking := edit.tracking.getD snapshot.tracking
  ahead := edit.ahead.getD snapshot.ahead
  behind := edit.behind.getD snapshot.behind
  untracked := edit.untracked.getD snapshot.untracked
  unmerged := edit.unmerged.getD snapshot.unmerged
  insertions := edit.insertions.getD snapshot.insertions
  deletions := edit.deletions.getD snapshot.deletions
  staged := edit.staged.apply snapshot.staged
  unstaged := edit.unstaged.apply snapshot.unstaged
  stashed := edit.stashed.getD snapshot.stashed
  merging := edit.merging.getD snapshot.merging

end StatusPrompt
