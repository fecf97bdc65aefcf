import StatusPrompt.Proofs.Prompt.Probes
import StatusPrompt.Proofs.Text.Utf8

/-!
The exact outcome of a run. `Ends` says in which order a run can fail, when it asks for the diff
summary, and what it shows otherwise: one snapshot, given as a whole in terms of the one that the
status report reads as. The run ends in this way and in no other.
-/

namespace StatusPrompt

/-- Why there is no text in what a command answers. How it ended goes before what it printed. -/
inductive Answer.Refuses (command : Command) : Answer → Failure → Prop
  | notStarted (reason : Text) : Refuses command (.notStarted reason) (.refused reason)
  | failed (code : Nat) (output complaint : List UInt8) (fails : code ≠ 0) :
      Refuses command (.finished code output complaint)
        (.commandFailed command.arguments (Utf8.decodeLenient complaint).trim)
  | undecodable (output complaint : List UInt8) (foreign : ∀ text, output ≠ Utf8.encode text) :
      Refuses command (.finished 0 output complaint) .undecodableOutput

inductive Answer.Prints : Answer → Text → Prop
  | printed (text : Text) (complaint : List UInt8) :
      Prints (.finished 0 (Utf8.encode text) complaint) text

namespace Answer

theorem text_eq_ok_iff (command : Command) (answer : Answer) (text : Text) :
    answer.text command = .ok text ↔ answer.Prints text := by
  constructor
  · intro given
    cases answer with
    | notStarted reason => cases given
    | finished code output complaint =>
      unfold Answer.text at given
      dsimp only at given
      split_ifs at given with ended
      split at given
      next spelled =>
        cases given
        rw [(Utf8.decode?_eq_some_iff _ _).mp spelled, ended]
        exact .printed text complaint
      next => cases given
  · rintro ⟨_, complaint⟩
    simp only [Answer.text, ↓reduceIte, (Utf8.decode?_eq_some_iff _ text).mpr rfl]

theorem text_eq_error_iff (command : Command) (answer : Answer) (failure : Failure) :
    answer.text command = .error failure ↔ answer.Refuses command failure := by
  constructor
  · intro given
    cases answer with
    | notStarted reason =>
      cases given
      exact .notStarted reason
    | finished code output complaint =>
      unfold Answer.text at given
      dsimp only at given
      split_ifs at given with ended
      · split at given
        next => cases given
        next illFormed =>
          cases given
          rw [ended]
          exact .undecodable output complaint ((Utf8.decode?_eq_none_iff output).mp illFormed)
      · cases given
        exact .failed code output complaint ended
  · intro refused
    cases refused with
    | notStarted reason => rfl
    | failed code output complaint fails => simp only [Answer.text, if_neg fails]
    | undecodable output complaint foreign =>
      simp only [Answer.text, ↓reduceIte, (Utf8.decode?_eq_none_iff output).mpr foreign]

end Answer

instance (layout : Layout) : Decidable layout.NamesStash :=
  match layout with
  | .fixed => inferInstanceAs (Decidable False)
  | .raw => inferInstanceAs (Decidable False)
  | .format template => decidable_of_iff _ (Text.contains_iff_infix ['%', 't'] template)

namespace Prompt

def Reports (repository : Repository) (answers : Answers) (options : Options)
    (reading : Except Failure Snapshot) : Prop :=
  ∃ workDir report, repository.workDir = some workDir ∧ answers.status.Prints report ∧
    (Report.Reader.read ⟨workDir, repository.exactTag, options.wantsTag⟩ report).1 = reading

def settled (repository : Repository) (reported : Snapshot) (added : DiffSummary.Totals) :
    Snapshot :=
  { reported with
    remote :=
      if reported.tracking = [] then reported.remote
      else (repository.upstreamRemote reported.branch).getD reported.remote
    insertions := added.insertions
    deletions := added.deletions }

def completed (repository : Repository) (options : Options) (reported : Snapshot)
    (added : DiffSummary.Totals) : Snapshot :=
  { settled repository reported added with
    metadataDir := if reported.unmerged = 0 then some repository.metadataDir else none
    merging := reported.unmerged = 0 &&
      repository.isPresent (Path.join repository.metadataDir "MERGE_HEAD".toList)
    stashed := (options.wantsStash || options.layout.NamesStash) &&
      (repository.isPresent (Path.join repository.commonDir "refs/stash".toList) ||
        repository.isPresent (Path.join repository.commonDir "logs/refs/stash".toList)) }

/-- What is gathered before the probes: what the report reads as, what the diff summary adds up to,
and what git is asked for them. -/
inductive Gathers (repository : Repository) (answers : Answers) (options : Options) :
    Snapshot → DiffSummary.Totals → List Command → Prop
  | unchanged (reported : Snapshot) (reports : Reports repository answers options (.ok reported))
      (same : reported.unstaged.isChanged = false) :
      Gathers repository answers options reported {} [.status]
  | changed (reported : Snapshot) (summary : Text) (added : DiffSummary.Totals)
      (reports : Reports repository answers options (.ok reported))
      (changed : reported.unstaged.isChanged = true) (printed : answers.diff.Prints summary)
      (totals : DiffSummary.totals summary = .ok added) :
      Gathers repository answers options reported added [.status, .diff]

/-- How a run ends: with what, and what git was asked for it. -/
inductive Ends (found : Option Repository) (answers : Answers) (options : Options) (logs : Bool) :
    Except Failure Text → List Command → Prop
  | nowhere (outside : found = none) : Ends found answers options logs (.error .notInRepository) []
  | bare (repository : Repository) (inside : found = some repository)
      (treeless : repository.workDir = none) :
      Ends found answers options logs (.error .notInRepository) []
  | unreported (repository : Repository) (failure : Failure) (inside : found = some repository)
      (working : repository.workDir ≠ none) (refused : answers.status.Refuses .status failure) :
      Ends found answers options logs (.error failure) [.status]
  | misreported (repository : Repository) (failure : Failure) (inside : found = some repository)
      (reports : Reports repository answers options (.error failure)) :
      Ends found answers options logs (.error failure) [.status]
  | unsummed (repository : Repository) (reported : Snapshot) (failure : Failure)
      (inside : found = some repository)
      (reports : Reports repository answers options (.ok reported))
      (changed : reported.unstaged.isChanged = true)
      (refused : answers.diff.Refuses .diff failure) :
      Ends found answers options logs (.error failure) [.status, .diff]
  | missummed (repository : Repository) (reported : Snapshot) (summary : Text) (failure : Failure)
      (inside : found = some repository)
      (reports : Reports repository answers options (.ok reported))
      (changed : reported.unstaged.isChanged = true) (printed : answers.diff.Prints summary)
      (refused : DiffSummary.totals summary = .error failure) :
      Ends found answers options logs (.error failure) [.status, .diff]
  | unwritten (repository : Repository) (reported : Snapshot) (added : DiffSummary.Totals)
      (asked : List Command) (inside : found = some repository)
      (gathers : Gathers repository answers options reported added asked) (logged : logs = true)
      (foreign : (completed repository options reported added).hasTextPaths = false) :
      Ends found answers options logs (.error (.unwritable foreignPath)) asked
  | shown (repository : Repository) (reported : Snapshot) (added : DiffSummary.Totals)
      (asked : List Command) (inside : found = some repository)
      (gathers : Gathers repository answers options reported added asked)
      (writable : logs = true →
        (completed repository options reported added).hasTextPaths = true) :
      Ends found answers options logs
        (.ok (options.layout.render options.look (completed repository options reported added)))
        asked

variable (repository : Repository) (answers : Answers) (options : Options)

theorem looksForStash_eq :
    options.looksForStash = (options.wantsStash || options.layout.NamesStash) := by
  unfold Options.looksForStash
  cases options.layout with
  | fixed => exact (Bool.or_false _).symm
  | raw => exact (Bool.or_false _).symm
  | format template =>
    dsimp only
    congr 1
    rw [Bool.eq_iff_iff, Text.contains_iff_infix, decide_eq_true_iff]
    rfl

structure IsReported (reported : Snapshot) : Prop where
  metadataDir : reported.metadataDir = none
  insertions : reported.insertions = 0
  deletions : reported.deletions = 0
  stashed : reported.stashed = false
  merging : reported.merging = false

theorem isReported_of_reports (reported : Snapshot)
    (reports : Reports repository answers options (.ok reported)) : IsReported reported := by
  obtain ⟨workDir, report, -, -, readable⟩ := reports
  have around := Report.Reader.read_surroundings _ report reported readable
  simp only [Snapshot.surroundings, Surroundings.mk.injEq] at around
  obtain ⟨-, metadataDir, insertions, deletions, stashed, merging⟩ := around
  exact ⟨metadataDir, insertions, deletions, stashed, merging⟩

theorem settleRemote_eq (reported : Snapshot) (fresh : IsReported reported) :
    settleRemote repository reported = settled repository reported {} := by
  have same : settled repository reported {} = { reported with
      remote :=
        if reported.tracking = [] then reported.remote
        else (repository.upstreamRemote reported.branch).getD reported.remote } := by
    simp only [settled, fresh.insertions, fresh.deletions]
  rw [same]
  unfold settleRemote
  split_ifs
  · rfl
  · cases repository.upstreamRemote reported.branch <;> rfl

theorem addTo_settled (reported : Snapshot) (summary : Text) :
    DiffSummary.addTo (settled repository reported {}) summary =
      (DiffSummary.totals summary).map (settled repository reported) := by
  unfold DiffSummary.addTo
  cases DiffSummary.totals summary with
  | error failure => rfl
  | ok added => simp [settled, Except.map]

theorem probe_settled (reported : Snapshot) (fresh : IsReported reported)
    (added : DiffSummary.Totals) :
    probe repository options (settled repository reported added) =
      completed repository options reported added := by
  have unknown : (settled repository reported added).metadataDir = none := fresh.metadataDir
  have stashed : (settled repository reported added).stashed = false := fresh.stashed
  have merging : (settled repository reported added).merging = false := fresh.merging
  have looks : (if options.looksForStash = true then
      Repository.hasStash repository.isPresent repository.commonDir else false) =
        (completed repository options reported added).stashed := by
    have both : (completed repository options reported added).stashed =
        ((options.wantsStash || options.layout.NamesStash) &&
          Repository.hasStash repository.isPresent repository.commonDir) := rfl
    rw [both, looksForStash_eq]
    cases options.wantsStash || decide options.layout.NamesStash
    · rfl
    · exact (Bool.true_and _).symm
  -- Neither probe looks at what the other has filled in, so they are taken one after the other.
  rw [probe, noteMerge_eq repository _ unknown]
  change noteStash repository options (if reported.unmerged = 0 then _ else _) = _
  split_ifs with unmerged
  · rw [noteStash_eq, stashed, looks]
    simp only [completed, Snapshot.withProbes, unmerged]
    rfl
  · rw [noteStash_eq, stashed, merging, looks]
    simp only [completed, Snapshot.withProbes, unmerged]
    rfl

theorem readStatus_ends (workDir : Text) (working : repository.workDir = some workDir) :
    (∃ failure, answers.status.Refuses .status failure ∧
        readStatus repository answers options workDir = .error failure) ∨
      Reports repository answers options (readStatus repository answers options workDir) := by
  unfold readStatus
  cases given : answers.status.text .status with
  | error failure =>
    exact Or.inl ⟨failure, (Answer.text_eq_error_iff _ _ _).mp given, rfl⟩
  | ok report =>
    exact Or.inr ⟨workDir, report, working, (Answer.text_eq_ok_iff _ _ _).mp given, rfl⟩

theorem readStatus_of_reports (workDir : Text) (working : repository.workDir = some workDir)
    (reading : Except Failure Snapshot) (reports : Reports repository answers options reading) :
    readStatus repository answers options workDir = reading := by
  obtain ⟨other, report, same, printed, rfl⟩ := reports
  obtain rfl : workDir = other := Option.some.inj (working.symm.trans same)
  rw [readStatus, (Answer.text_eq_ok_iff _ _ _).mpr printed]
  rfl

theorem run_inside (logs : Bool) (workDir : Text) (working : repository.workDir = some workDir) :
    run (some repository) answers options logs =
      runIn repository answers options logs workDir := by
  simp only [run, working]

theorem run_of_reports (logs : Bool) (reported : Snapshot)
    (reports : Reports repository answers options (.ok reported)) :
    run (some repository) answers options logs =
      if reported.unstaged.isChanged then
        ⟨(addDiff answers (settled repository reported {})).bind fun snapshot =>
          display options logs (probe repository options snapshot), [.status, .diff]⟩
      else ⟨display options logs (completed repository options reported {}), [.status]⟩ := by
  have fresh := isReported_of_reports repository answers options reported reports
  obtain ⟨workDir, _, working, -⟩ := id reports
  have sameChanges :
      (settled repository reported {}).unstaged.isChanged = reported.unstaged.isChanged := rfl
  rw [run_inside repository answers options logs workDir working, runIn, gather,
    readStatus_of_reports repository answers options workDir working _ reports]
  dsimp only
  rw [settleRemote_eq repository reported fresh, sameChanges]
  split_ifs with changed
  · rfl
  · rw [← probe_settled repository options reported fresh {}]
    rfl

/-- Once everything is gathered, it is only left to show the completed snapshot. -/
theorem run_of_gathers (logs : Bool) (reported : Snapshot) (added : DiffSummary.Totals)
    (asked : List Command) (gathers : Gathers repository answers options reported added asked) :
    run (some repository) answers options logs =
      ⟨display options logs (completed repository options reported added), asked⟩ := by
  cases gathers with
  | unchanged reports same =>
    rw [run_of_reports repository answers options logs reported reports, same]
    rfl
  | changed summary _ reports changed printed totals =>
    have given := (Answer.text_eq_ok_iff .diff _ _).mpr printed
    have fresh := isReported_of_reports repository answers options reported reports
    rw [run_of_reports repository answers options logs reported reports, if_pos changed]
    simp only [addDiff, given, addTo_settled, totals, Except.map, Except.bind,
      probe_settled repository options reported fresh]

theorem ends_of_gathers (found : Option Repository) (inside : found = some repository)
    (logs : Bool) (reported : Snapshot) (added : DiffSummary.Totals) (asked : List Command)
    (gathers : Gathers repository answers options reported added asked) :
    Ends found answers options logs
      (display options logs (completed repository options reported added)) asked := by
  rw [display]
  split_ifs with foreign
  · rw [Bool.and_eq_true, Bool.not_eq_true'] at foreign
    exact .unwritten repository reported added asked inside gathers foreign.1 foreign.2
  · refine .shown repository reported added asked inside gathers fun logged => ?_
    rw [logged, Bool.true_and, Bool.not_eq_true', Bool.not_eq_false] at foreign
    exact foreign

theorem ends_of_reports (logs : Bool) (reported : Snapshot)
    (reports : Reports repository answers options (.ok reported)) :
    Ends (some repository) answers options logs
      (run (some repository) answers options logs).outcome
      (run (some repository) answers options logs).asked := by
  cases changed : reported.unstaged.isChanged with
  | false =>
    have gathers := Gathers.unchanged reported reports changed
    rw [run_of_gathers repository answers options logs reported {} _ gathers]
    exact ends_of_gathers repository answers options _ rfl logs reported {} _ gathers
  | true =>
    rw [run_of_reports repository answers options logs reported reports, if_pos changed]
    cases given : answers.diff.text .diff with
    | error failure =>
      simp only [addDiff, given]
      exact .unsummed repository reported failure rfl reports changed
        ((Answer.text_eq_error_iff _ _ _).mp given)
    | ok summary =>
      have printed := (Answer.text_eq_ok_iff _ _ _).mp given
      simp only [addDiff, given, addTo_settled]
      cases totals : DiffSummary.totals summary with
      | error failure =>
        exact .missummed repository reported summary failure rfl reports changed printed totals
      | ok added =>
        have fresh := isReported_of_reports repository answers options reported reports
        have gathers := Gathers.changed reported summary added reports changed printed totals
        simp only [Except.map, Except.bind, probe_settled repository options reported fresh]
        exact ends_of_gathers repository answers options _ rfl logs reported added _ gathers

theorem run_ends (found : Option Repository) (logs : Bool) :
    Ends found answers options logs (run found answers options logs).outcome
      (run found answers options logs).asked := by
  cases found with
  | none => exact .nowhere rfl
  | some repository =>
    cases working : repository.workDir with
    | none =>
      simp only [run, working]
      exact .bare repository rfl working
    | some workDir =>
      have inside := run_inside repository answers options logs workDir working
      rcases readStatus_ends repository answers options workDir working with
        ⟨failure, refused, unread⟩ | reports
      · simp only [inside, runIn, gather, unread]
        exact .unreported repository failure rfl (by simp [working]) refused
      · cases status : readStatus repository answers options workDir with
        | error failure =>
          rw [status] at reports
          simp only [inside, runIn, gather, status]
          exact .misreported repository failure rfl reports
        | ok reported =>
          rw [status] at reports
          exact ends_of_reports repository answers options logs reported reports

/-- The diff summary is not asked for without changes. -/
theorem changed_of_gathers (reported : Snapshot) (added : DiffSummary.Totals)
    (asked : List Command) (gathers : Gathers repository answers options reported added asked)
    (diffRun : asked.contains .diff = true) :
    Reports repository answers options (.ok reported) ∧ reported.unstaged.isChanged = true := by
  cases gathers with
  | unchanged => cases diffRun
  | changed summary _ reports changed printed totals => exact ⟨reports, changed⟩

theorem run_eq_of_ends (found : Option Repository) (logs : Bool) (outcome : Except Failure Text)
    (asked : List Command) (ends : Ends found answers options logs outcome asked) :
    run found answers options logs = ⟨outcome, asked⟩ := by
  cases ends with
  | nowhere outside => rw [outside, run]
  | bare repository inside treeless => simp only [run, inside, treeless]
  | unreported repository failure inside working refused =>
    obtain ⟨workDir, working⟩ := Option.ne_none_iff_exists'.mp working
    have given := (Answer.text_eq_error_iff .status _ _).mpr refused
    rw [inside, run_inside repository answers options logs workDir working]
    simp only [runIn, gather, readStatus, given]
    rfl
  | misreported repository failure inside reports =>
    obtain ⟨workDir, _, working, -⟩ := id reports
    rw [inside, run_inside repository answers options logs workDir working]
    simp only [runIn, gather,
      readStatus_of_reports repository answers options workDir working _ reports]
    rfl
  | unsummed repository reported failure inside reports changed refused =>
    have given := (Answer.text_eq_error_iff .diff _ _).mpr refused
    rw [inside, run_of_reports repository answers options logs reported reports, if_pos changed]
    simp only [addDiff, given, Except.bind]
  | missummed repository reported summary failure inside reports changed printed refused =>
    have given := (Answer.text_eq_ok_iff .diff _ _).mpr printed
    rw [inside, run_of_reports repository answers options logs reported reports, if_pos changed]
    simp only [addDiff, given, addTo_settled, refused, Except.map, Except.bind]
  | unwritten repository reported added _ inside gathers logged foreign =>
    rw [inside, run_of_gathers repository answers options logs reported added asked gathers,
      display, logged, foreign]
    rfl
  | shown repository reported added _ inside gathers writable =>
    rw [inside, run_of_gathers repository answers options logs reported added asked gathers,
      display]
    cases logs with
    | false => rfl
    | true =>
      rw [writable rfl]
      rfl

/-- The exact outcome of a run, for every repository, all answers and all options, with its snapshot
logged or not. The diff summary is asked for exactly when the report has been read and holds changes
that are not staged. -/
theorem run_eq_iff_ends (found : Option Repository) (answers : Answers) (options : Options)
    (logs : Bool) :
    (∀ outcome asked, run found answers options logs = ⟨outcome, asked⟩ ↔
      Ends found answers options logs outcome asked) ∧
    ((run found answers options logs).diffRun = true ↔
      ∃ repository reported, found = some repository ∧
        Reports repository answers options (.ok reported) ∧
        reported.unstaged.isChanged = true) := by
  have ends := run_ends answers options found logs
  constructor
  · intro outcome asked
    constructor
    · intro same
      rw [same] at ends
      exact ends
    · exact run_eq_of_ends answers options found logs outcome asked
  · constructor
    · intro diffRun
      rw [Result.diffRun] at diffRun
      generalize (run found answers options logs).outcome = outcome at ends
      generalize (run found answers options logs).asked = asked at ends diffRun
      cases ends with
      | unsummed repository reported failure inside reports changed refused =>
        exact ⟨repository, reported, inside, reports, changed⟩
      | missummed repository reported summary failure inside reports changed printed refused =>
        exact ⟨repository, reported, inside, reports, changed⟩
      | unwritten repository reported added _ inside gathers logged foreign =>
        exact ⟨repository, reported, inside,
          changed_of_gathers repository answers options reported added asked gathers diffRun⟩
      | shown repository reported added _ inside gathers writable =>
        exact ⟨repository, reported, inside,
          changed_of_gathers repository answers options reported added asked gathers diffRun⟩
      | _ => cases diffRun
    · rintro ⟨repository, reported, rfl, reports, changed⟩
      rw [run_of_reports repository answers options logs reported reports, if_pos changed]
      rfl

def plainRepository (workDir : Text) : Repository where
  workDir := some workDir
  metadataDir := "/w/.git/".toList
  commonDir := "/w/.git/".toList
  exactTag := none
  remoteOf := fun _ => none
  isPresent := fun _ => false

def printing (text : Text) : Answer := .finished 0 (Utf8.encode text) []

/-- Well-formed answers do not make a prompt by themselves: sums of 64 bits may start again, git may
not start, and a snapshot with a foreign path cannot be logged. -/
theorem run_strays :
    let record := "# branch.head main\n1 .M a\n".toList
    let summary := "18446744073709551615\t0\ta\n1\t0\tb\n".toList
    let missing := Answer.notStarted "No such file or directory (os error 2)".toList
    (run (some (plainRepository "/w/".toList)) ⟨printing record, printing summary⟩
        { layout := .raw } false).outcome =
      .ok "main\n\n-\n\n0\n0\n1\n0\n0\n0\n0\n0\n".toList ∧
    (run (some (plainRepository "/w/".toList)) ⟨missing, missing⟩ {} false).outcome =
      .error (.refused "No such file or directory (os error 2)".toList) ∧
    (run (some (plainRepository [Char.ofNat 0xFF])) ⟨printing [], printing []⟩ {} true).outcome =
      .error (.unwritable foreignPath) := by
  decide +kernel

end Prompt

end StatusPrompt
