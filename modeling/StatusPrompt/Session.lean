import StatusPrompt.DiffSummary
import StatusPrompt.Layout
import StatusPrompt.Path
import StatusPrompt.Report.Reader
import StatusPrompt.Snapshot.Edit

/-!
A session applies operations to one snapshot, one after the other. An operation that fails
answers with its failure and the session goes on with what it left.
-/

namespace StatusPrompt.Session

open Report

inductive Side where
  | staged
  | unstaged
  deriving DecidableEq, Repr

inductive Operation where
  | readLine (text : Text)
  | readReport (text : Text)
  | addDiff (text : Text)
  | record (side : Side) (letter : Char)
  | assign (edit : Edit)
  /-- Ask for the metadata directory, which the resolver finds at this path or not at all. -/
  | resolve (directory : Option Text)
  | render (look : Appearance) (layout : Layout)

inductive Reply where
  | outcome (outcome : Outcome)
  | done
  | recorded (change : Option Change)
  /-- The metadata directory or why there is none, and whether the resolver ran. -/
  | directory (answer : Except Failure Text) (ran : Bool)
  | shown (text : Text)
  | failed (failure : Failure)

def resolver (directory : Option Text) (workDir : Text) : Except Failure Text :=
  match directory with
  | some path => .ok (Path.join workDir path)
  | none => .error .notInRepository

def recordOn (side : Side) (change : Change) (snapshot : Snapshot) : Snapshot :=
  match side with
  | .staged => { snapshot with staged := snapshot.staged.record change }
  | .unstaged => { snapshot with unstaged := snapshot.unstaged.record change }

/-- One operation. A report that reads well replaces the snapshot; its tag lookups count in
either case. -/
def apply (reader : Reader) (reading : Reading) : Operation → Reading × Reply
  | .readLine text =>
    match reader.readLine reading text with
    | (after, .ok outcome) => (after, .outcome outcome)
    | (after, .error failure) => (after, .failed failure)
  | .readReport text =>
    match reader.read text with
    | (.ok snapshot, lookups) => (⟨snapshot, reading.lookups + lookups⟩, .done)
    | (.error failure, lookups) =>
      ({ reading with lookups := reading.lookups + lookups }, .failed failure)
  | .addDiff text =>
    match DiffSummary.addTo reading.snapshot text with
    | .ok snapshot => ({ reading with snapshot := snapshot }, .done)
    | .error failure => (reading, .failed failure)
  | .record side letter =>
    match Change.ofLetter? letter with
    | some change =>
      ({ reading with snapshot := recordOn side change reading.snapshot }, .recorded (some change))
    | none => (reading, .recorded none)
  | .assign edit => ({ reading with snapshot := edit.apply reading.snapshot }, .done)
  | .resolve directory =>
    let (snapshot, answer) := reading.snapshot.resolveMetadata (resolver directory)
    ({ reading with snapshot := snapshot },
      .directory answer reading.snapshot.metadataDir.isNone)
  | .render look layout => (reading, .shown (layout.render look reading.snapshot))

def run (reader : Reader) : Reading → List Operation → List (Reading × Reply)
  | _, [] => []
  | reading, operation :: rest =>
    let (after, reply) := apply reader reading operation
    (after, reply) :: run reader after rest

end StatusPrompt.Session
