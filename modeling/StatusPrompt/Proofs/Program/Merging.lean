import StatusPrompt.Proofs.CommandLine.Order
import StatusPrompt.Proofs.Disk
import StatusPrompt.Proofs.Program.Exit
import StatusPrompt.Proofs.Prompt.Probes
import StatusPrompt.Proofs.Settings.Written

/-!
Flags and settings are one configuration. Whatever the flags ask for could stand in the settings
file instead, the directory and raw lines apart: the options of a run are those of the settings with
the flags written into them. So a run with flags puts out what one without them does on other
settings, and it is the same run however the flags are ordered and written.

The settings file is part of the tree, though, and the log can keep a prompt from being shown. So two
runs are compared where git finds the same for both, and where a snapshot that is logged can be.
-/

namespace StatusPrompt

namespace CommandLine

def Flags.onto (flags : Flags) (settings : Settings) : Settings where
  format := flags.format.or settings.format
  color := settings.color && !flags.noColor
  noTag := settings.noTag || flags.noTag
  stash := settings.stash || flags.stash
  glyphs := settings.glyphs

def Flags.target (flags : Flags) : Text := flags.directory.getD ['.']

theorem Flags.options_eq (flags : Flags) (settings : Settings) :
    flags.options settings =
      let merged := Options.ofSettings (flags.onto settings) flags.target
      { merged with layout := if flags.raw then .raw else merged.layout } := by
  unfold Flags.options
  cases given : flags.format with
  | none =>
    simp only [Options.ofSettings, onto, target, given, Settings.look, Option.none_or, Bool.not_or]
  | some template =>
    simp only [Options.ofSettings, onto, target, given, Settings.look, Option.some_or, Bool.not_or]

theorem Flags.options_onto (flags : Flags) (settings : Settings) :
    Flags.options { directory := flags.directory, raw := flags.raw } (flags.onto settings) =
      flags.options settings := by
  rw [flags.options_eq, Flags.options_eq]
  simp only [onto, target, Option.none_or, Bool.not_false, Bool.and_true, Bool.or_false]

theorem Flags.take_directory (flags after : Flags) (demand : Demand)
    (taken : flags.take demand = some after) (named : flags.directory ≠ some []) :
    after.directory ≠ some [] := by
  rw [take_eq] at taken
  split_ifs at taken with refused
  cases taken
  rcases demand with (_ | _ | _ | _ | _) | ⟨_ | _, value⟩
  case give.directory =>
    intro empty
    exact refused (Or.inr (decide_eq_true (Option.some.inj empty)))
  all_goals exact named

theorem Flags.takeAll_directory (flags after : Flags) (demands : List Demand)
    (taken : flags.takeAll demands = some after) (named : flags.directory ≠ some []) :
    after.directory ≠ some [] := by
  induction demands generalizing flags with
  | nil =>
    cases taken
    exact named
  | cons demand more ih =>
    rw [takeAll_cons, Option.bind_eq_some_iff] at taken
    obtain ⟨next, first, further⟩ := taken
    exact ih next further (take_directory flags next demand first named)

def placeArguments (directory : Option Text) : List Text :=
  directory.toList.map ("-d=".toList ++ ·)

theorem parse_placeArguments (directory : Option Text) (named : directory ≠ some []) :
    parse (placeArguments directory) = .prompt { directory := directory } := by
  cases directory with
  | none => rfl
  | some path =>
    have filled : path ≠ [] := fun empty => named (congrArg some empty)
    have written : Writes [] [] := .done
    have option : WritesOption ["-d=".toList ++ path] [.give .directory path] :=
      .attached [] [] 'd' .directory ('=' :: path) .nil rfl (List.cons_ne_nil _ _)
    refine (parse_eq_prompt_iff _ _).mpr ⟨_, .option _ [] _ [] option written, ?_, rfl⟩
    show Flags.take {} (.give .directory path) = _
    simp only [Flags.take, Flags.give, filled, Option.isSome_none, Bool.false_eq_true, or_self,
      ↓reduceIte]

end CommandLine

def Handle.probed (handle : Handle) : List Text :=
  [Path.join handle.metadataDir "MERGE_HEAD".toList,
    Path.join handle.commonDir "refs/stash".toList,
    Path.join handle.commonDir "logs/refs/stash".toList]

theorem Prompt.run_of_probed (handle : Handle) (one two : Text → Bool)
    (same : ∀ path ∈ handle.probed, two path = one path) (answers : Answers) (options : Options)
    (logs : Bool) :
    run (some { handle with isPresent := two }) answers options logs =
      run (some { handle with isPresent := one }) answers options logs := by
  simp only [Handle.probed, List.forall_mem_cons] at same
  obtain ⟨merge, stash, stashLog, -⟩ := same
  have merging : Repository.isMerging two handle.metadataDir =
      Repository.isMerging one handle.metadataDir := merge
  have stashed : Repository.hasStash two handle.commonDir =
      Repository.hasStash one handle.commonDir := by
    rw [Repository.hasStash, Repository.hasStash, stash, stashLog]
  have probes : ∀ snapshot : Snapshot, snapshot.metadataDir = none →
      probe { handle with isPresent := two } options snapshot =
        probe { handle with isPresent := one } options snapshot := by
    intro snapshot unknown
    rw [probe, probe, noteMerge_eq _ _ unknown, noteMerge_eq _ _ unknown]
    simp only [noteStash, merging, stashed]
  dsimp only [run]
  cases handle.workDir with
  | none => rfl
  | some workDir =>
    have known := gather_paths { handle with isPresent := one } answers options workDir
    have gathers : gather { handle with isPresent := two } answers options workDir =
      gather { handle with isPresent := one } answers options workDir := rfl
    dsimp only
    rw [runIn, runIn, gathers]
    generalize gather { handle with isPresent := one } answers options workDir = both at known ⊢
    obtain ⟨gathered, asked⟩ := both
    cases gathered with
    | error failure => rfl
    | ok snapshot =>
      have unknown : snapshot.metadataDir = none := congrArg Prod.snd (known snapshot rfl)
      exact congrArg (fun shown => Result.mk (display options logs shown) asked)
        (probes snapshot unknown)

namespace Machine

/-- Two machines on which a run for a directory finds the same: the library finds the same
repository, its probes come out alike, and git answers the same. Where settings stand may differ. -/
structure FindsAlike (first second : Machine) (directory : Text) : Prop where
  handle : second.handle? directory = first.handle? directory
  probes : ∀ handle, first.handle? directory = some handle → ∀ path ∈ handle.probed,
    second.disk.isPresent second.current path = first.disk.isPresent first.current path
  answers : ∀ handle, first.handle? directory = some handle →
    ∀ workDir, handle.workDir = some workDir →
      second.answersIn workDir = first.answersIn workDir
  filter : second.logFilter = first.logFilter

theorem prompt_of_findsAlike (first second : Machine) (options : Options) (logs : Bool)
    (alike : first.FindsAlike second options.directory) :
    second.prompt options logs = first.prompt options logs := by
  unfold prompt repository?
  rw [alike.handle]
  cases found : first.handle? options.directory with
  | none => rfl
  | some handle =>
    simp only [Option.map_some]
    rw [Prompt.run_of_probed handle _ _ (alike.probes handle found)]
    cases working : handle.workDir with
    | none => simp only [Prompt.run, working]
    | some workDir =>
      have answers := alike.answers handle found workDir working
      simp only [answersFor, Option.bind_some, working, Option.getD_some, answers]

def LogsText (machine : Machine) (directory : Text) : Prop :=
  ∀ repository, machine.repository? directory = some repository → repository.hasTextPaths = true

theorem prompt_of_logsText (machine : Machine) (options : Options) (logs : Bool)
    (textual : machine.LogsText options.directory) :
    machine.prompt options logs = machine.prompt options false :=
  Prompt.run_of_hasTextPaths _ _ options logs textual

def rewrite (machine : Machine) (place : Place) (content : List UInt8) : Machine :=
  { machine with disk := machine.disk.put place (.file content) }

/-- What is asked of the library: the file is none that it reads to find a repository. -/
def Overlooks (machine : Machine) (place : Place) (content : List UInt8) (directory : Text) :
    Prop :=
  (machine.rewrite place content).handle? directory = machine.handle? directory

variable (machine : Machine) (place : Place) (old content : List UInt8)
  (stands : machine.disk place = some (.file old))

include stands

theorem findsAlike_rewrite (directory : Text)
    (overlooks : machine.Overlooks place content directory) :
    machine.FindsAlike (machine.rewrite place content) directory where
  handle := overlooks
  probes _ _ path _ :=
    (machine.disk.sameShape_put place old content stands).isPresent machine.current path
  answers _ _ workDir _ := by
    have shape := machine.disk.sameShape_put place old content stands
    simp only [answersIn, hindrance?, rewrite, shape.route, shape.directory]
  filter := rfl

theorem loads_rewrite (path : Text) (settings : Settings)
    (placed : machine.environment.settingsFile = .ok path)
    (leads : machine.disk.locate machine.current (Octets.ofText path) = some place)
    (readable : Settings.load path (some (.file content)) = .ok settings) :
    (machine.rewrite place content).Loads settings := by
  have shape := machine.disk.sameShape_put place old content stands
  have reads : (machine.rewrite place content).disk.entryAt machine.current
      (Octets.ofText path) = some (.file content) := by
    rw [Disk.entryAt, rewrite, shape.locate, leads]
    exact (machine.disk.put_apply place old content stands place).trans (if_pos rfl)
  exact .read path (.file content) settings placed reads readable

end Machine

/-- What a caller of the program can tell of a run, the log and complaints apart: the exit code, the
output, and what git was asked for. -/
def Exit.observed (exit : Exit) : Nat × Text × List Command :=
  (exit.code, exit.output, exit.asked)

theorem Exit.observed_ofResult (color other : Bool) (result : Result) (log more : List Notice) :
    (ofResult color result log).observed = (ofResult other result more).observed := by
  unfold ofResult
  split <;> rfl

namespace Program

open CommandLine

/-- What holds of accepted arguments and the flags that they amount to, on whatever machine and
whatever the settings are. -/
structure Merges (arguments : List Text) (flags : Flags) : Prop where
  options : ∀ settings, flags.raw = false →
    flags.options settings = Options.ofSettings (flags.onto settings) flags.target
  /-- Raw lines go before any format, also one that is set. -/
  rawOptions : ∀ settings, flags.raw = true →
    flags.options settings =
      { Options.ofSettings (flags.onto settings) flags.target with layout := .raw }
  place : parse (placeArguments flags.directory) = .prompt { directory := flags.directory }
  /-- Settings with flags in them are settings that a file can hold. -/
  inFile : ∀ (settings : Settings) path, ∃ content,
    Settings.load path (some (.file content)) = .ok (flags.onto settings)
  /-- Two machines of which one loads the settings and the other those with the flags in them.
  Nothing but the directory, and raw lines, has to be asked for by flags on the other. -/
  runs : ∀ (first second : Machine) settings others, first.FindsAlike second flags.target →
    (flags.debug = true → first.logFilter = none → first.LogsText flags.target) →
    first.Loads settings → second.Loads (flags.onto settings) →
    parse others = .prompt { directory := flags.directory, raw := flags.raw } →
    (run second others).observed = (run first arguments).observed
  /-- One machine whose settings file is given the content with the flags in it. -/
  rewritten : ∀ (machine : Machine) path place old content settings others,
    machine.environment.settingsFile = .ok path →
    machine.disk.locate machine.current (Octets.ofText path) = some place →
    machine.disk place = some (.file old) → machine.Loads settings →
    Settings.load path (some (.file content)) = .ok (flags.onto settings) →
    machine.Overlooks place content flags.target →
    (flags.debug = true → machine.logFilter = none → machine.LogsText flags.target) →
    parse others = .prompt { directory := flags.directory, raw := flags.raw } →
    (run (machine.rewrite place content) others).observed = (run machine arguments).observed
  written : ∃ demands, Writes arguments demands
  order : ∀ demands others moved machine, Writes arguments demands → Writes others moved →
    moved.Perm demands → run machine others = run machine arguments

theorem observed_run (machine : Machine) (arguments : List Text) (flags : Flags)
    (settings : Settings) (accepted : parse arguments = .prompt flags)
    (loads : machine.Loads settings) (color : Bool) :
    (run machine arguments).observed =
      (Exit.ofResult color
        (machine.prompt (flags.options settings) (machine.logsSnapshot flags)) []).observed := by
  rw [run_of_loads machine arguments flags settings accepted loads]
  exact Exit.observed_ofResult _ _ _ _ _

theorem options_directory (flags : Flags) (settings : Settings) :
    (flags.options settings).directory = flags.target := by
  rw [flags.options_eq]
  rfl

/-- The flag for the log makes no difference where what it adds can be logged. -/
theorem prompt_logsSnapshot (machine : Machine) (flags plain : Flags) (options : Options)
    (undebugged : plain.debug = false)
    (textual : flags.debug = true → machine.logFilter = none →
      machine.LogsText options.directory) :
    machine.prompt options (machine.logsSnapshot flags) =
      machine.prompt options (machine.logsSnapshot plain) := by
  cases named : machine.logFilter with
  | some filter => simp only [Machine.logsSnapshot, Machine.filter, named, Option.getD_some]
  | none =>
    cases debugs : flags.debug with
    | false => simp only [Machine.logsSnapshot, Machine.filter, named, debugs, undebugged]
    | true =>
      have text := textual debugs named
      rw [machine.prompt_of_logsText options _ text,
        machine.prompt_of_logsText options (machine.logsSnapshot plain) text]

theorem observed_of_findsAlike (first second : Machine) (settings : Settings)
    (arguments others : List Text) (flags : Flags) (accepted : parse arguments = .prompt flags)
    (alike : first.FindsAlike second flags.target)
    (textual : flags.debug = true → first.logFilter = none → first.LogsText flags.target)
    (loads : first.Loads settings) (merged : second.Loads (flags.onto settings))
    (asked : parse others = .prompt { directory := flags.directory, raw := flags.raw }) :
    (run second others).observed = (run first arguments).observed := by
  rw [← options_directory flags settings] at alike textual
  have sameLog : ∀ plain, second.logsSnapshot plain = first.logsSnapshot plain := by
    intro plain
    simp only [Machine.logsSnapshot, Machine.filter, alike.filter]
  rw [observed_run second others _ _ asked merged true,
    observed_run first arguments _ _ accepted loads true, flags.options_onto, sameLog,
    Machine.prompt_of_findsAlike first second _ _ alike,
    prompt_logsSnapshot first flags { directory := flags.directory, raw := flags.raw } _ rfl textual]

/-- Flags and settings combine as one configuration. -/
theorem flags_merge (arguments : List Text) (flags : Flags)
    (accepted : parse arguments = .prompt flags) : Merges arguments flags where
  options settings plain := by
    rw [flags.options_eq, plain]
    rfl
  rawOptions settings raw := by
    rw [flags.options_eq, raw]
    rfl
  place := by
    obtain ⟨demands, -, taken, -⟩ := (parse_eq_prompt_iff arguments flags).mp accepted
    exact parse_placeArguments _ (Flags.takeAll_directory {} flags demands taken nofun)
  inFile settings path := (flags.onto settings).exists_file path
  runs first second settings others alike textual loads merged asked :=
    observed_of_findsAlike first second settings arguments others flags accepted alike textual
      loads merged asked
  rewritten machine path place old content settings others placed leads stands loads readable
      overlooks textual asked := by
    have alike := machine.findsAlike_rewrite place old content stands flags.target overlooks
    have merged := machine.loads_rewrite place old content stands path _ placed leads readable
    exact observed_of_findsAlike machine _ settings arguments others flags accepted alike textual
      loads merged asked
  written := exists_writes {} flags arguments accepted
  order demands others moved machine one two perm := by
    unfold run
    rw [parse_of_perm others arguments moved demands two one perm]

def settingsPlace (configHome : Place) : Place :=
  configHome ++ ["gitprompt".toList, "config.json".toList]

/-- What is in a work tree that has just been made. -/
def freshTree (metadata : Place) : Disk :=
  ((Disk.empty.put (metadata ++ ["HEAD".toList])
    (.file "ref: refs/heads/main\n".toUTF8.toList)).put
      (metadata ++ ["objects".toList]) .directory).put (metadata ++ ["refs".toList]) .directory

def treeMachine (workDir : Text) (configHome : Place) (files : List (Place × String)) :
    Machine where
  disk := files.foldl (fun disk file => disk.put file.1 (.file file.2.toUTF8.toList))
    (freshTree [workDir, ".git".toList])
  current := [workDir]
  environment := { configHome := some configHome.toPath }
  library.discover _ _ _ _ := some
    { workDir := some (Place.toPath [workDir] ++ ['/'])
      metadataDir := Place.toPath [workDir, ".git".toList] ++ ['/']
      commonDir := Place.toPath [workDir, ".git".toList] ++ ['/']
      exactTag := none
      remoteOf := fun _ => none }
  answers := ⟨.finished 0 "# branch.head main\n? new\n".toUTF8.toList [], Machine.missing⟩

def sharedMachine : Machine :=
  treeMachine "r".toList ["c".toList]
    [(settingsPlace ["c".toList], "\x7b\"format\":\"%n\",\"no_tag\":true\x7d")]

def sharedContent : List UInt8 := "[\"%b%u\",false,true,true]".toUTF8.toList

def sharedArguments : List Text :=
  ["--stash".toList, "-vf=%b%u".toList, "--no-color".toList, "-d".toList, ".".toList]

def sharedFlags : Flags :=
  { debug := true, directory := some ['.'], format := some "%b%u".toList, noColor := true,
    stash := true }

theorem flags_merge_shared :
    parse sharedArguments = .prompt sharedFlags ∧ Merges sharedArguments sharedFlags ∧
      (run (sharedMachine.rewrite (settingsPlace ["c".toList]) sharedContent)
        ["--dir".toList, ".".toList]).observed =
          (run sharedMachine sharedArguments).observed ∧
      (run sharedMachine sharedArguments).output = "main?".toList := by
  have accepted : parse sharedArguments = .prompt sharedFlags := by decide +kernel
  have merges := flags_merge sharedArguments sharedFlags accepted
  have loads : sharedMachine.Loads { format := some "%n".toList, noTag := true } :=
    (Machine.settings_eq_ok_iff _ _).mp (by decide +kernel)
  have textual : sharedMachine.LogsText sharedFlags.target := by
    intro repository found
    cases found
    decide +kernel
  refine ⟨accepted, merges, ?_, by decide +kernel⟩
  exact merges.rewritten sharedMachine "/c/gitprompt/config.json".toList _
    "\x7b\"format\":\"%n\",\"no_tag\":true\x7d".toUTF8.toList sharedContent _ _
    (by decide +kernel) (by decide +kernel) (by decide +kernel) loads (by decide +kernel) rfl
    (fun _ _ => textual) (by decide +kernel)

/-- Flags and settings are not one configuration without reserve. A settings file that comes into
being where a stash is looked for makes one, and a prompt that is to be logged with the path of a
directory that is no text is not shown. -/
theorem flags_merge_strays :
    let home : Place := ["r".toList, ".git".toList, "refs".toList, "stash".toList]
    let bare := treeMachine "r".toList home []
    let format := ["-f=%t".toList]
    let merged := bare.rewrite (settingsPlace home) "[\"%t\",false]".toUTF8.toList
    let foreign := treeMachine [Char.ofNat 0xFF] ["c".toList] []
    parse format = .prompt { format := some "%t".toList } ∧
      bare.settings = .ok {} ∧
      merged.settings = .ok { format := some "%t".toList, color := false } ∧
      (run bare format).observed = (0, [], [.status]) ∧
      (run merged []).observed = (0, ['⚑'], [.status]) ∧
      foreign.settings = .ok {} ∧
      (run foreign ["-v".toList]).observed = (1, [], [.status]) ∧
      (run foreign []).code = 0 := by
  decide +kernel

end Program

end StatusPrompt
