import StatusPrompt.Prompt

/-!
What a run says on the side. Every notice comes from one part of the program and has a level; whether
it is shown is up to a filter. How notices are written, with the time and the part that they come
from, is not said here.
-/

namespace StatusPrompt

inductive Level where
  | error
  | warn
  | info
  | debug
  | trace
  deriving DecidableEq, Repr

def Level.depth : Level → Nat
  | .error => 1
  | .warn => 2
  | .info => 3
  | .debug => 4
  | .trace => 5

/-- The parts of the program that a filter can tell apart. -/
inductive Source where
  | program
  | settings
  | prompt
  | git
  | report
  | tally
  | diffSummary
  deriving DecidableEq, Repr

inductive Notice where
  | noSettingsPlace
  | noSettingsFile (path : Text)
  | settingsLoaded (path : Text)
  | options (options : Options)
  | workDir (path : Text)
  | asking (command : Command)
  | ignoredLine (line : Text)
  | ignoredDrift (word : Text)
  | tagFound (tag : Text)
  | noTag
  | counting (change : Change)
  | noRemote (branch : Text)
  | summary (added : DiffSummary.Totals)
  | snapshot (snapshot : Snapshot)
  | outside
  | failed (failure : Failure)
  deriving DecidableEq, Repr

namespace Notice

def level : Notice → Level
  | counting _ => .trace
  | outside => .info
  | _ => .debug

def source : Notice → Source
  | noSettingsPlace | noSettingsFile _ | settingsLoaded _ => .settings
  | options _ | outside | failed _ => .program
  | workDir _ | snapshot _ => .prompt
  | asking _ | noTag | noRemote _ => .git
  | ignoredLine _ | ignoredDrift _ | tagFound _ => .report
  | counting _ => .tally
  | summary _ => .diffSummary

end Notice

/-- What is shown of the notices: parts and levels, and of those what a pattern takes. -/
structure LogFilter where
  enables : Source → Level → Bool
  takes : Notice → Bool := fun _ => true

namespace LogFilter

def upTo (last : Level) : LogFilter where
  enables := fun _ level => level.depth ≤ last.depth

def shows (filter : LogFilter) (notice : Notice) : Bool :=
  filter.enables notice.source notice.level && filter.takes notice

end LogFilter

namespace Report

def idleDrift : List Text → List Text
  | [] => []
  | word :: rest =>
    match driftFacts word with
    | [] => word :: idleDrift rest
    | .malformed _ :: _ => []
    | _ => idleDrift rest

namespace Reader

def headerNotices (reader : Reader) : Header → List Notice
  | .branch name =>
    if reader.asksTag (.branch name) then [(reader.tag.map Notice.tagFound).getD .noTag] else []
  | .drift words => (idleDrift words).map .ignoredDrift
  | _ => []

def wordNotices (reader : Reader) (line : Line) : List Notice :=
  match line.tag, line.words with
  | .header, words => (headers words).flatMap reader.headerNotices
  | .changed, pair :: _ | .moved, pair :: _ =>
    ((Change.stagedOf pair).toList ++ (Change.unstagedOf pair).toList).map .counting
  | _, _ => []

/-- What is said while a report is read, up to the line that it is refused for. -/
def notices (reader : Reader) : List Text → List Notice
  | [] => []
  | line :: rest =>
    ((Line.ofText? line).map reader.wordNotices).getD [] ++
      match (reader.readLine reader.start line).2 with
      | .error _ => []
      | .ok .applied => reader.notices rest
      | .ok .ignored =>
        (if line.isAllBlank then [] else [.ignoredLine line]) ++ reader.notices rest

end Reader

end Report

namespace Prompt

open Report

def remoteNotices (repository : Repository) (snapshot : Snapshot) : List Notice :=
  if snapshot.tracking ≠ [] ∧ repository.remoteOf snapshot.branch = none then
    [.noRemote snapshot.branch]
  else []

def diffNotices (answers : Answers) : List Notice :=
  .asking .diff ::
    match answers.diff.text .diff with
    | .error _ => []
    | .ok summary =>
      match DiffSummary.totals summary with
      | .error _ => []
      | .ok added => [.summary added]

def laterNotices (repository : Repository) (answers : Answers) (options : Options)
    (workDir : Text) : List Notice :=
  match readStatus repository answers options workDir with
  | .error _ => []
  | .ok reported =>
    remoteNotices repository reported ++
      if reported.unstaged.isChanged then diffNotices answers else []

def snapshotNotices (repository : Repository) (answers : Answers) (options : Options)
    (workDir : Text) : List Notice :=
  match (gather repository answers options workDir).1 with
  | .error _ => []
  | .ok snapshot =>
    let shown := probe repository options snapshot
    if shown.hasTextPaths then [.snapshot shown] else []

def notices (repository : Option Repository) (answers : Answers) (options : Options) :
    List Notice :=
  match repository with
  | none => []
  | some repository =>
    match repository.workDir with
    | none => []
    | some workDir =>
      .workDir workDir :: .asking .status ::
        match answers.status.text .status with
        | .error _ => []
        | .ok report =>
          (reader repository options workDir).notices report.lines ++
            laterNotices repository answers options workDir ++
            snapshotNotices repository answers options workDir

end Prompt

end StatusPrompt
