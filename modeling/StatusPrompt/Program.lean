import StatusPrompt.CommandLine.Arguments
import StatusPrompt.CommandLine.Help
import StatusPrompt.Disk
import StatusPrompt.Log
import StatusPrompt.Settings.Location

/-!
The whole program as a function: from the machine it runs on and its arguments to its exit code
and what it prints. The prompt alone goes to the output; every failure leaves the output empty. What
git and its library answer, and how the filter for the log is read, is part of the machine.
-/

namespace StatusPrompt

/-- The git library, which finds the repository that a path lies in. It may look at the whole disk,
from the directory that relative paths are read from, and at the environment. -/
structure Library where
  discover : Disk → Place → Environment → Text → Option Handle

def Library.blank : Library where
  discover _ _ _ _ := none

structure Machine where
  disk : Disk
  /-- The directory that relative paths are read from. -/
  current : Place
  environment : Environment := {}
  library : Library
  answers : Answers
  /-- What the environment asks to be logged, if it asks for anything. -/
  logFilter : Option LogFilter := none

namespace Machine

def handle? (machine : Machine) (path : Text) : Option Handle :=
  machine.library.discover machine.disk machine.current machine.environment (Octets.ofText path)

def repository? (machine : Machine) (path : Text) : Option Repository :=
  (machine.handle? path).map fun handle =>
    { handle with isPresent := machine.disk.isPresent machine.current }

def missing : Answer := .notStarted "No such file or directory (os error 2)".toList

/-- Why no command can be started in a directory, if none can. -/
def hindrance? (machine : Machine) (directory : Text) : Option Text :=
  match machine.disk.route machine.current directory with
  | .to place =>
    if machine.disk place = some .directory then none
    else some "Not a directory (os error 20)".toList
  | .blocked => some "Not a directory (os error 20)".toList
  | .missing => some "No such file or directory (os error 2)".toList
  | .tooLong => some "File name too long (os error 36)".toList

def answersIn (machine : Machine) (directory : Text) : Answers :=
  match machine.hindrance? directory with
  | none => machine.answers
  | some reason => ⟨.notStarted reason, .notStarted reason⟩

def answersFor (machine : Machine) (found : Option Repository) : Answers :=
  machine.answersIn ((found.bind fun repository => repository.workDir).getD [])

def prompt (machine : Machine) (options : Options) (logs : Bool) : Result :=
  let found := machine.repository? options.directory
  Prompt.run found (machine.answersFor found) options logs

def promptNotices (machine : Machine) (options : Options) : List Notice :=
  let found := machine.repository? options.directory
  Prompt.notices found (machine.answersFor found) options

def settings (machine : Machine) : Except Failure Settings :=
  match machine.environment.settingsFile with
  | .ok path => Settings.load path (machine.disk.entryAt machine.current (Octets.ofText path))
  | .error .noSettingsDirectory => .ok {}
  | .error failure => .error failure

def settingsNotices (machine : Machine) : List Notice :=
  match machine.environment.settingsFile with
  | .error _ => [.noSettingsPlace]
  | .ok path =>
    if machine.disk.isPresent machine.current (Octets.ofText path) then
      match machine.settings with
      | .ok _ => [.settingsLoaded path]
      | .error _ => []
    else [.noSettingsFile path]

/-- What is logged in a run: what the environment asks for, else warnings, and with the flag for it
what helps to find faults as well. -/
def filter (machine : Machine) (flags : CommandLine.Flags) : LogFilter :=
  machine.logFilter.getD (.upTo (if flags.debug then .debug else .warn))

def logsSnapshot (machine : Machine) (flags : CommandLine.Flags) : Bool :=
  (machine.filter flags).enables .prompt .debug

end Machine

/-- How a run ends: its exit code, what it prints, what it logs, and what git was asked for. The
complaint comes after the log. -/
structure Exit where
  code : Nat
  output : Text := []
  complaint : Text := []
  log : List Notice := []
  asked : List Command := []
  deriving DecidableEq, Repr

namespace Exit

def diffRun (exit : Exit) : Bool := exit.asked.contains .diff

def complaintLine (color : Bool) (failure : Failure) : Text :=
  Style.paint color .complaint "✕ gitprompt:".toList ++ [' '] ++ failure.message ++ ['\n']

def ofResult (color : Bool) (result : Result) (log : List Notice) : Exit :=
  match result.outcome with
  | .ok text => { code := 0, output := text, log, asked := result.asked }
  | .error .notInRepository => { code := 1, log, asked := result.asked }
  | .error failure =>
    { code := 1, complaint := complaintLine color failure, log, asked := result.asked }

end Exit

namespace Program

open CommandLine

def closing (result : Result) : List Notice :=
  match result.outcome with
  | .ok _ => []
  | .error .notInRepository => [.outside]
  | .error failure => [.failed failure]

def notices (machine : Machine) (options : Options) (result : Result) : List Notice :=
  machine.settingsNotices ++ .options options :: machine.promptNotices options ++ closing result

def runPrompt (machine : Machine) (flags : Flags) : Exit :=
  let shown := List.filter (machine.filter flags).shows
  match machine.settings with
  | .error failure =>
    { code := 1
      complaint := Exit.complaintLine machine.environment.forcesColor failure
      log := shown machine.settingsNotices }
  | .ok settings =>
    let options := flags.options settings
    let result := machine.prompt options (machine.logsSnapshot flags)
    Exit.ofResult options.look.color result (shown (notices machine options result))

def run (machine : Machine) (arguments : List Text) : Exit :=
  match parse arguments with
  | .misuse => { code := 2, complaint := misuseText }
  | .help => { code := 0, output := helpText }
  | .version => { code := 0, output := versionText }
  | .prompt flags => runPrompt machine flags

end Program

end StatusPrompt
