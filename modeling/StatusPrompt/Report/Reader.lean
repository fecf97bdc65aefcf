import StatusPrompt.Report.Fact

/-!
Taking in the facts of a report. The reader goes through them in order and stops at the first
one that is malformed; what was taken in before stays. It asks for a tag whenever the report
names a detached head and tags are wanted, and the number of times it asked is part of the
result.
-/

namespace StatusPrompt.Report

inductive Outcome where
  | applied
  | ignored
  deriving DecidableEq, Repr

/-- What a report is read for: a working copy, and the tag that names its head exactly, if any. -/
structure Reader where
  workDir : Text := []
  tag : Option Text := none
  wantsTag : Bool := true
  deriving DecidableEq, Repr

def Reader.bare : Reader := { wantsTag := false }

structure Reading where
  snapshot : Snapshot
  /-- How often the tag was asked for. -/
  lookups : Nat := 0
  deriving DecidableEq, Repr

namespace Reader

def start (reader : Reader) : Reading where
  snapshot := { workDir := reader.workDir }

/-- The remote is the first part of the tracked branch, unless a remote is known already. -/
def remoteFor (snapshot : Snapshot) (tracking : Text) : Text :=
  if snapshot.remote = [] then (Text.before? '/' tracking).getD [] else snapshot.remote

def note (snapshot : Snapshot) : Fact → Snapshot
  | .commit id => { snapshot with commit := id }
  | .branch name => { snapshot with branch := name }
  | .tracking name => { snapshot with tracking := name, remote := remoteFor snapshot name }
  | .ahead count => { snapshot with ahead := count }
  | .behind count => { snapshot with behind := count }
  | .malformed _ => snapshot
  | .staged change => { snapshot with staged := snapshot.staged.record change }
  | .unstaged change => { snapshot with unstaged := snapshot.unstaged.record change }
  | .unmerged => { snapshot with unmerged := snapshot.unmerged + 1 }
  | .untracked => { snapshot with untracked := snapshot.untracked + 1 }

def asksTag (reader : Reader) : Fact → Bool
  | .branch name => name = detachedHead && reader.wantsTag
  | _ => false

def detachedBranch (reader : Reader) : Text := reader.tag.getD detachedHead

def takeIn (reader : Reader) (reading : Reading) (fact : Fact) : Reading :=
  if reader.asksTag fact then
    ⟨{ reading.snapshot with branch := reader.detachedBranch }, reading.lookups + 1⟩
  else ⟨note reading.snapshot fact, reading.lookups⟩

def absorb (reader : Reader) : Reading → List Fact → Reading × Option Text
  | reading, [] => (reading, none)
  | reading, .malformed word :: _ => (reading, some word)
  | reading, fact :: rest => absorb reader (reader.takeIn reading fact) rest

def readLine (reader : Reader) (reading : Reading) (text : Text) :
    Reading × Except Failure Outcome :=
  match Line.ofText? text with
  | none => (reading, .ok .ignored)
  | some line =>
    match reader.absorb reading line.facts with
    | (after, some word) => (after, .error (.badDrift word))
    | (after, none) => (after, .ok (if line.isKnown then .applied else .ignored))

def read (reader : Reader) (text : Text) : Except Failure Snapshot × Nat :=
  match reader.absorb reader.start (factsOf text) with
  | (after, some word) => (.error (.badDrift word), after.lookups)
  | (after, none) => (.ok after.snapshot, after.lookups)

end Reader

end StatusPrompt.Report
