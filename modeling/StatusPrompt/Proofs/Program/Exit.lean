import StatusPrompt.Program
import StatusPrompt.Proofs.CommandLine.Options

/-!
The program prints a whole prompt or none. Asked for a prompt it ends in one of four ways: its
arguments are misused, its settings do not load, the run of the prompt fails, or the prompt is
shown. Only the last leaves anything in the output, and then exactly the text of that run.
-/

namespace StatusPrompt

theorem Environment.settingsFile_error (environment : Environment) (failure : Failure)
    (nowhere : environment.settingsFile = .error failure) : failure = .noSettingsDirectory := by
  unfold Environment.settingsFile Environment.settingsDirectory at nowhere
  cases named : environment.configHome with
  | some base =>
    rw [named] at nowhere
    cases nowhere
  | none =>
    cases home : environment.homeDirectory? with
    | some path =>
      simp only [named, home] at nowhere
      cases nowhere
    | none =>
      simp only [named, home] at nowhere
      cases nowhere
      rfl

namespace Machine

inductive Loads (machine : Machine) : Settings → Prop
  | homeless (nowhere : machine.environment.settingsFile = .error .noSettingsDirectory) :
      Loads machine {}
  | absent (path : Text) (placed : machine.environment.settingsFile = .ok path)
      (nothing : machine.disk.entryAt machine.current (Octets.ofText path) = none) :
      Loads machine {}
  | read (path : Text) (entry : Entry) (settings : Settings)
      (placed : machine.environment.settingsFile = .ok path)
      (stands : machine.disk.entryAt machine.current (Octets.ofText path) = some entry)
      (readable : Settings.load path (some entry) = .ok settings) : Loads machine settings

def FailsToLoad (machine : Machine) (failure : Failure) : Prop :=
  ∃ path entry, machine.environment.settingsFile = .ok path ∧
    machine.disk.entryAt machine.current (Octets.ofText path) = some entry ∧
    Settings.load path (some entry) = .error failure

theorem settings_eq_ok_iff (machine : Machine) (settings : Settings) :
    machine.settings = .ok settings ↔ machine.Loads settings := by
  constructor
  · intro loaded
    unfold Machine.settings at loaded
    split at loaded
    next path placed =>
      cases stands : machine.disk.entryAt machine.current (Octets.ofText path) with
      | none =>
        rw [stands] at loaded
        cases loaded
        exact .absent path placed stands
      | some entry =>
        rw [stands] at loaded
        exact .read path entry settings placed stands loaded
    next nowhere =>
      cases loaded
      exact .homeless nowhere
    next => cases loaded
  · intro loads
    cases loads with
    | homeless nowhere => simp only [Machine.settings, nowhere]
    | absent path placed nothing => simp only [Machine.settings, placed, nothing, Settings.load]
    | read path entry settings placed stands readable =>
      simp only [Machine.settings, placed, stands, readable]

theorem settings_eq_error_iff (machine : Machine) (failure : Failure) :
    machine.settings = .error failure ↔ machine.FailsToLoad failure := by
  constructor
  · intro refused
    unfold Machine.settings at refused
    split at refused
    next path placed =>
      cases stands : machine.disk.entryAt machine.current (Octets.ofText path) with
      | none =>
        rw [stands] at refused
        cases refused
      | some entry =>
        rw [stands] at refused
        exact ⟨path, entry, placed, stands, refused⟩
    next => cases refused
    next other known nowhere =>
      -- The place of the file is missing in one way only, and that way is no failure.
      exact absurd (machine.environment.settingsFile_error other nowhere) (fun same => by
        subst same
        exact known rfl)
  · rintro ⟨path, entry, placed, stands, refused⟩
    simp only [Machine.settings, placed, stands, refused]

end Machine

namespace Program

open CommandLine

/-- How the program ends that is asked for a prompt: its exit code, and what it puts out. -/
inductive Ends (machine : Machine) (arguments : List Text) : Nat → Text → Prop
  | misused (refused : parse arguments = .misuse) : Ends machine arguments 2 []
  | unloaded (flags : Flags) (failure : Failure) (accepted : parse arguments = .prompt flags)
      (fails : machine.FailsToLoad failure) : Ends machine arguments 1 []
  | failed (flags : Flags) (settings : Settings) (failure : Failure)
      (accepted : parse arguments = .prompt flags) (loads : machine.Loads settings)
      (fails : (machine.prompt (flags.options settings) (machine.logsSnapshot flags)).outcome =
        .error failure) :
      Ends machine arguments 1 []
  | shown (flags : Flags) (settings : Settings) (text : Text)
      (accepted : parse arguments = .prompt flags) (loads : machine.Loads settings)
      (shows : (machine.prompt (flags.options settings) (machine.logsSnapshot flags)).outcome =
        .ok text) :
      Ends machine arguments 0 text

variable (machine : Machine) (arguments : List Text)

theorem run_of_fails (flags : Flags) (failure : Failure)
    (accepted : parse arguments = .prompt flags) (fails : machine.FailsToLoad failure) :
    run machine arguments =
      { code := 1
        complaint := Exit.complaintLine machine.environment.forcesColor failure
        log := machine.settingsNotices.filter (machine.filter flags).shows } := by
  simp only [run, accepted, runPrompt, (machine.settings_eq_error_iff failure).mpr fails]

theorem run_of_loads (flags : Flags) (settings : Settings)
    (accepted : parse arguments = .prompt flags) (loads : machine.Loads settings) :
    run machine arguments =
      let options := flags.options settings
      let result := machine.prompt options (machine.logsSnapshot flags)
      Exit.ofResult options.look.color result
        ((notices machine options result).filter (machine.filter flags).shows) := by
  simp only [run, accepted, runPrompt, (machine.settings_eq_ok_iff settings).mpr loads]

theorem ofResult_error (color : Bool) (result : Result) (log : List Notice) (failure : Failure)
    (fails : result.outcome = .error failure) :
    (Exit.ofResult color result log).code = 1 ∧ (Exit.ofResult color result log).output = [] := by
  unfold Exit.ofResult
  rw [fails]
  cases failure <;> exact ⟨rfl, rfl⟩

theorem run_ends (asks : parse arguments ≠ .help ∧ parse arguments ≠ .version) :
    Ends machine arguments (run machine arguments).code (run machine arguments).output := by
  cases parsed : parse arguments with
  | misuse =>
    simp only [run, parsed]
    exact .misused parsed
  | help => exact absurd parsed asks.1
  | version => exact absurd parsed asks.2
  | prompt flags =>
    cases loaded : machine.settings with
    | error failure =>
      have fails := (machine.settings_eq_error_iff failure).mp loaded
      rw [run_of_fails machine arguments flags failure parsed fails]
      exact .unloaded flags failure parsed fails
    | ok settings =>
      have loads := (machine.settings_eq_ok_iff settings).mp loaded
      rw [run_of_loads machine arguments flags settings parsed loads]
      cases outcome :
          (machine.prompt (flags.options settings) (machine.logsSnapshot flags)).outcome with
      | error failure =>
        obtain ⟨code, output⟩ := ofResult_error (flags.options settings).look.color _ _ _ outcome
        rw [code, output]
        exact .failed flags settings failure parsed loads outcome
      | ok text =>
        simp only [Exit.ofResult, outcome]
        exact .shown flags settings text parsed loads outcome

theorem run_of_ends (code : Nat) (output : Text) (ends : Ends machine arguments code output) :
    (run machine arguments).code = code ∧ (run machine arguments).output = output := by
  cases ends with
  | misused refused =>
    rw [run, refused]
    exact ⟨rfl, rfl⟩
  | unloaded flags failure accepted fails =>
    rw [run_of_fails machine arguments flags failure accepted fails]
    exact ⟨rfl, rfl⟩
  | failed flags settings failure accepted loads fails =>
    rw [run_of_loads machine arguments flags settings accepted loads]
    exact ofResult_error _ _ _ failure fails
  | shown flags settings text accepted loads shows =>
    rw [run_of_loads machine arguments flags settings accepted loads]
    simp only [Exit.ofResult, shows, and_self]

/-- Raw lines and a format are not asked for together. -/
theorem parse_ne_prompt_of_clash (raw format : Text) (rawGiven : raw ∈ arguments)
    (formatGiven : format ∈ arguments) (rawNamed : Names raw (.switch .raw))
    (formatNamed : Names format (.parameter .format)) (flags : Flags) :
    parse arguments ≠ .prompt flags := by
  intro accepted
  obtain ⟨-, agree, held⟩ := parseFrom_holds {} flags arguments accepted
  have isRaw : flags.raw = true := held raw rawGiven _ rawNamed
  have hasFormat : flags.format.isSome = true := held format formatGiven _ formatNamed
  rw [Flags.agree, isRaw, hasFormat] at agree
  cases agree

theorem shows_upTo_warn (notice : Notice) : (LogFilter.upTo .warn).shows notice = false := by
  cases notice <;> rfl

theorem log_of_quiet (flags : Flags) (accepted : parse arguments = .prompt flags)
    (plain : flags.debug = false) (unnamed : machine.logFilter = none) :
    (run machine arguments).log = [] := by
  have filter : machine.filter flags = .upTo .warn := by
    simp only [Machine.filter, unnamed, plain]
    rfl
  have none : ∀ notices : List Notice, notices.filter (machine.filter flags).shows = [] := by
    intro notices
    rw [filter, List.filter_eq_nil_iff]
    exact fun notice _ => Bool.eq_false_iff.mp (shows_upTo_warn notice)
  cases loaded : machine.settings with
  | error failure =>
    have fails := (machine.settings_eq_error_iff failure).mp loaded
    rw [run_of_fails machine arguments flags failure accepted fails]
    exact none _
  | ok settings =>
    have loads := (machine.settings_eq_ok_iff settings).mp loaded
    rw [run_of_loads machine arguments flags settings accepted loads]
    dsimp only
    rw [none, Exit.ofResult]
    split <;> rfl

/-- What holds of every run that is asked for a prompt, whatever machine it is on. -/
structure IsWhole : Prop where
  ends : ∀ code output,
    ((run machine arguments).code = code ∧ (run machine arguments).output = output) ↔
      Ends machine arguments code output
  /-- Raw lines together with a format are a misuse, in any order and however they are written. -/
  clash : ∀ raw ∈ arguments, ∀ format ∈ arguments, Names raw (.switch .raw) →
    Names format (.parameter .format) → (run machine arguments).code = 2
  /-- Where the settings fail to load, git is not run, and neither its answers nor its library play
  a part. -/
  unasked : ∀ flags failure, parse arguments = .prompt flags → machine.FailsToLoad failure →
    (run machine arguments).asked = [] ∧
      ∀ answers library, run { machine with answers := answers, library := library } arguments =
        run machine arguments
  /-- Without being asked for it a run logs nothing, and outside a repository there is nothing to
  complain about either. -/
  quiet : ∀ flags settings, parse arguments = .prompt flags → flags.debug = false →
    machine.logFilter = none → machine.Loads settings →
    (machine.prompt (flags.options settings) (machine.logsSnapshot flags)).outcome =
      .error .notInRepository →
    (run machine arguments).complaint = [] ∧ (run machine arguments).log = []

/-- A run that is asked for a prompt puts out the whole prompt or nothing, and its exit code tells
which. -/
theorem run_isWhole (asks : parse arguments ≠ .help ∧ parse arguments ≠ .version) :
    IsWhole machine arguments where
  ends code output := by
    constructor
    · rintro ⟨rfl, rfl⟩
      exact run_ends machine arguments asks
    · exact run_of_ends machine arguments code output
  clash raw rawGiven format formatGiven rawNamed formatNamed := by
    have refused := parse_ne_prompt_of_clash arguments raw format rawGiven formatGiven rawNamed
      formatNamed
    cases parsed : parse arguments with
    | misuse => simp only [run, parsed]
    | help => exact absurd parsed asks.1
    | version => exact absurd parsed asks.2
    | prompt flags => exact absurd parsed (refused flags)
  unasked flags failure accepted fails := by
    have here := run_of_fails machine arguments flags failure accepted fails
    constructor
    · rw [here]
    · intro answers library
      rw [here]
      exact run_of_fails { machine with answers, library } arguments flags failure accepted fails
  quiet flags settings accepted plain unnamed loads outside := by
    constructor
    · rw [run_of_loads machine arguments flags settings accepted loads]
      simp only [Exit.ofResult, outside]
    · exact log_of_quiet machine arguments flags accepted plain unnamed

def brokenMachine : Machine where
  disk := Disk.empty.put ["c".toList, "gitprompt".toList, "config.json".toList] (.file [0x7B])
  current := []
  environment := { configHome := some "/c".toList }
  library := .blank
  answers := ⟨Machine.missing, Machine.missing⟩

def tightArguments : List Text := ["-vd".toList, "-".toList, "--stash".toList]

theorem brokenMachine_failsToLoad :
    brokenMachine.FailsToLoad
      (.badSettings "/c/gitprompt/config.json".toList "these are no settings".toList) :=
  ⟨"/c/gitprompt/config.json".toList, .file [0x7B], by decide +kernel, by decide +kernel,
    by decide +kernel⟩

theorem run_isWhole_broken :
    (parse tightArguments ≠ .help ∧ parse tightArguments ≠ .version) ∧
      IsWhole brokenMachine tightArguments ∧ (run brokenMachine tightArguments).code = 1 ∧
      (run brokenMachine tightArguments).output = [] :=
  have asks : parse tightArguments ≠ .help ∧ parse tightArguments ≠ .version := by
    decide +kernel
  have whole := run_isWhole brokenMachine tightArguments asks
  have accepted : parse tightArguments =
      .prompt { debug := true, directory := some "-".toList, stash := true } := by decide +kernel
  ⟨asks, whole, (whole.ends 1 []).mpr (.unloaded _ _ accepted brokenMachine_failsToLoad)⟩

end Program

end StatusPrompt
