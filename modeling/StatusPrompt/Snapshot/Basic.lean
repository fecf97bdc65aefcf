import StatusPrompt.Change
import StatusPrompt.Failure

/-!
What one prompt shows: a snapshot of a working copy. It starts empty, is filled from the status
report and the diff summary, and is only read after that.
-/

namespace StatusPrompt

def detachedHead : Text := "(detached)".toList

def initialCommit : Text := "(initial)".toList

def shortLength : Nat := 7

/-- The state that colours the branch and the commit. -/
inductive Health where
  | clean
  | stagedOnly
  | dirty
  deriving DecidableEq, Repr

structure Snapshot where
  workDir : Text := []
  /-- The metadata directory, once it has been asked for. -/
  metadataDir : Option Text := none
  branch : Text := []
  commit : Text := []
  remote : Text := []
  tracking : Text := []
  ahead : UInt32 := 0
  behind : UInt32 := 0
  untracked : UInt32 := 0
  unmerged : UInt32 := 0
  insertions : UInt64 := 0
  deletions : UInt64 := 0
  staged : Tally := {}
  unstaged : Tally := {}
  stashed : Bool := false
  merging : Bool := false
  deriving DecidableEq, Repr

namespace Snapshot

def health (snapshot : Snapshot) : Health :=
  if snapshot.unstaged.isChanged then .dirty
  else if snapshot.staged.isChanged then .stagedOnly
  else .clean

def isDirty (snapshot : Snapshot) : Bool := snapshot.staged.isChanged

def hasUnmerged (snapshot : Snapshot) : Bool := 0 < snapshot.unmerged || snapshot.merging

def isDetached (snapshot : Snapshot) : Bool := snapshot.branch = detachedHead

def shortCommit (snapshot : Snapshot) : Text :=
  if snapshot.commit = initialCommit then snapshot.commit else snapshot.commit.take shortLength

/-- Asks `resolve` for the metadata directory unless it is known. A failure leaves it unknown, so
that the next caller asks again. -/
def resolveMetadata (resolve : Text → Except Failure Text) (snapshot : Snapshot) :
    Snapshot × Except Failure Text :=
  match snapshot.metadataDir with
  | some directory => (snapshot, .ok directory)
  | none =>
    match resolve snapshot.workDir with
    | .ok directory => ({ snapshot with metadataDir := some directory }, .ok directory)
    | .error failure => (snapshot, .error failure)

end Snapshot

end StatusPrompt
