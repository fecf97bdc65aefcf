import StatusPrompt.DiffSummary
import StatusPrompt.Layout
import StatusPrompt.Path
import StatusPrompt.Report.Reader
import StatusPrompt.Settings.Basic
import StatusPrompt.Text.Octets

/-!
One run of the prompt: from what is known of a repository and the answers of two commands to the
text that is shown. A command or a look at the disk that cannot matter is left out: the diff
summary without unstaged changes, the merge mark when there are unmerged files anyway, and the
stash when no part of the prompt shows it. Paths are their bytes all the way; only a snapshot that is
logged has to have them as text.
-/

namespace StatusPrompt

/-- What the git library answers about a repository that it has found. -/
structure Handle where
  /-- A bare repository has no work directory. -/
  workDir : Option Text
  metadataDir : Text
  /-- The metadata directory that work trees share. -/
  commonDir : Text
  exactTag : Option Text
  /-- The bytes of the name of the remote that a branch follows. -/
  remoteOf : Text → Option Text

/-- A repository, with what can be seen on the disk that it is on. -/
structure Repository extends Handle where
  isPresent : Text → Bool

namespace Repository

def upstreamRemote (repository : Repository) (branch : Text) : Option Text :=
  (repository.remoteOf branch).bind Octets.toText?

def hasStash (isPresent : Text → Bool) (directory : Text) : Bool :=
  isPresent (Path.join directory "refs/stash".toList) ||
    isPresent (Path.join directory "logs/refs/stash".toList)

def isMerging (isPresent : Text → Bool) (directory : Text) : Bool :=
  isPresent (Path.join directory "MERGE_HEAD".toList)

end Repository

inductive Answer where
  | notStarted (reason : Text)
  | finished (code : Nat) (output complaint : List UInt8)
  deriving DecidableEq, Repr

inductive Command where
  | status
  | diff
  deriving DecidableEq, Repr

def Command.arguments : Command → Text
  | .status => "status --porcelain=v2 --branch".toList
  | .diff => "diff --numstat".toList

def Answer.text (command : Command) : Answer → Except Failure Text
  | .notStarted reason => .error (.refused reason)
  | .finished code output complaint =>
    if code = 0 then
      match Utf8.decode? output with
      | some text => .ok text
      | none => .error .undecodableOutput
    else .error (.commandFailed command.arguments (Utf8.decodeLenient complaint).trim)

structure Answers where
  status : Answer
  diff : Answer
  deriving DecidableEq, Repr

structure Options where
  directory : Text := ['.']
  layout : Layout := .fixed
  wantsTag : Bool := true
  wantsStash : Bool := false
  look : Appearance := {}
  deriving DecidableEq, Repr

namespace Options

def ofSettings (settings : Settings) (directory : Text) : Options where
  directory := directory
  layout := match settings.format with
    | some template => .format template
    | none => .fixed
  wantsTag := !settings.noTag
  wantsStash := settings.stash
  look := settings.look

def looksForStash (options : Options) : Bool :=
  match options.layout with
  | .format template => options.wantsStash || Text.contains ['%', 't'] template
  | _ => options.wantsStash

end Options

/-- The text of a prompt or why there is none, and what git was asked for it. -/
structure Result where
  outcome : Except Failure Text
  asked : List Command

def Result.diffRun (result : Result) : Bool := result.asked.contains .diff

def Snapshot.hasTextPaths (snapshot : Snapshot) : Bool :=
  (Octets.toText? snapshot.workDir).isSome &&
    snapshot.metadataDir.all fun directory => (Octets.toText? directory).isSome

namespace Prompt

def reader (repository : Repository) (options : Options) (workDir : Text) : Report.Reader where
  workDir := workDir
  tag := repository.exactTag
  wantsTag := options.wantsTag

def readStatus (repository : Repository) (answers : Answers) (options : Options)
    (workDir : Text) : Except Failure Snapshot :=
  match answers.status.text .status with
  | .error failure => .error failure
  | .ok report => ((reader repository options workDir).read report).1

def settleRemote (repository : Repository) (snapshot : Snapshot) : Snapshot :=
  if snapshot.tracking = [] then snapshot
  else match repository.upstreamRemote snapshot.branch with
    | some remote => { snapshot with remote := remote }
    | none => snapshot

def addDiff (answers : Answers) (snapshot : Snapshot) : Except Failure Snapshot :=
  match answers.diff.text .diff with
  | .error failure => .error failure
  | .ok summary => DiffSummary.addTo snapshot summary

def noteMerge (repository : Repository) (snapshot : Snapshot) : Snapshot :=
  if snapshot.unmerged = 0 then
    match snapshot.resolveMetadata fun _ => .ok repository.metadataDir with
    | (after, .ok directory) =>
      { after with merging := Repository.isMerging repository.isPresent directory }
    | (after, .error _) => after
  else snapshot

def noteStash (repository : Repository) (options : Options) (snapshot : Snapshot) : Snapshot :=
  if options.looksForStash then
    { snapshot with
      stashed := Repository.hasStash repository.isPresent repository.commonDir }
  else snapshot

def probe (repository : Repository) (options : Options) (snapshot : Snapshot) : Snapshot :=
  noteStash repository options (noteMerge repository snapshot)

def foreignPath : Text := "path contains invalid UTF-8 characters".toList

def display (options : Options) (logs : Bool) (snapshot : Snapshot) : Except Failure Text :=
  if logs && !snapshot.hasTextPaths then
    .error (.unwritable foreignPath)
  else .ok (options.layout.render options.look snapshot)

def gather (repository : Repository) (answers : Answers) (options : Options) (workDir : Text) :
    Except Failure Snapshot × List Command :=
  match readStatus repository answers options workDir with
  | .error failure => (.error failure, [.status])
  | .ok reported =>
    let snapshot := settleRemote repository reported
    if snapshot.unstaged.isChanged then (addDiff answers snapshot, [.status, .diff])
    else (.ok snapshot, [.status])

def runIn (repository : Repository) (answers : Answers) (options : Options) (logs : Bool)
    (workDir : Text) : Result :=
  let (gathered, asked) := gather repository answers options workDir
  ⟨gathered.bind fun snapshot => display options logs (probe repository options snapshot), asked⟩

/-- The whole run, which may have its snapshot logged. Without a repository, or without a work
directory, there is nothing to show. -/
def run (repository : Option Repository) (answers : Answers) (options : Options) (logs : Bool) :
    Result :=
  match repository with
  | none => ⟨.error .notInRepository, []⟩
  | some repository =>
    match repository.workDir with
    | none => ⟨.error .notInRepository, []⟩
    | some workDir => runIn repository answers options logs workDir

end Prompt

end StatusPrompt
