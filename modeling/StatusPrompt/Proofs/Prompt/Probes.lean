import StatusPrompt.Prompt
import StatusPrompt.Proofs.Layout.Reads
import StatusPrompt.Proofs.Report.Reading

/-!
Leaving out a look at the disk cannot be seen. The reference is a run that always looks for a
merge and for a stash. What a run leaves out, its layout does not read: the merge mark while
unmerged files are counted, and the stash where the format does not name it.
-/

namespace StatusPrompt

def Repository.hasTextPaths (repository : Repository) : Bool :=
  repository.workDir.all (fun directory => (Octets.toText? directory).isSome) &&
    (Octets.toText? repository.metadataDir).isSome

namespace Prompt

/-- Fills in the merge and the stash, whether or not anything reads them. Only the merge mark has use
for the metadata directory, which is kept where the run would keep it. -/
def probeAll (repository : Repository) (snapshot : Snapshot) : Snapshot :=
  { snapshot with
    metadataDir :=
      if snapshot.unmerged = 0 then some repository.metadataDir else snapshot.metadataDir
    merging := Repository.isMerging repository.isPresent repository.metadataDir
    stashed := Repository.hasStash repository.isPresent repository.commonDir }

def runEagerlyIn (repository : Repository) (answers : Answers) (options : Options) (logs : Bool)
    (workDir : Text) : Result :=
  let (gathered, asked) := gather repository answers options workDir
  ⟨gathered.bind fun snapshot => display options logs (probeAll repository snapshot), asked⟩

def runEagerly (repository : Option Repository) (answers : Answers) (options : Options)
    (logs : Bool) : Result :=
  match repository with
  | none => ⟨.error .notInRepository, []⟩
  | some repository =>
    match repository.workDir with
    | none => ⟨.error .notInRepository, []⟩
    | some workDir => runEagerlyIn repository answers options logs workDir

theorem looksForStash_of_namesStash (options : Options) (names : options.layout.NamesStash) :
    options.looksForStash = true := by
  unfold Options.looksForStash
  cases layout : options.layout with
  | fixed => rw [layout] at names; exact names.elim
  | raw => rw [layout] at names; exact names.elim
  | format template =>
    rw [layout] at names
    simp only [(Text.contains_iff_infix _ _).mpr names, Bool.or_true]

/-- The merge is looked for exactly while no unmerged file is counted. The metadata directory is
not known before, so it is asked for here. -/
theorem noteMerge_eq (repository : Repository) (snapshot : Snapshot)
    (unknown : snapshot.metadataDir = none) :
    noteMerge repository snapshot =
      if snapshot.unmerged = 0 then
        snapshot.withProbes (some repository.metadataDir)
          (Repository.isMerging repository.isPresent repository.metadataDir) snapshot.stashed
      else snapshot.withProbes none snapshot.merging snapshot.stashed := by
  unfold noteMerge
  split_ifs
  · simp only [Snapshot.resolveMetadata, unknown]
    rfl
  · rw [← unknown]
    rfl

theorem noteStash_eq (repository : Repository) (options : Options) (snapshot : Snapshot)
    (directory : Option Text) (merging stashed : Bool) :
    noteStash repository options (snapshot.withProbes directory merging stashed) =
      snapshot.withProbes directory merging
        (if options.looksForStash then
          Repository.hasStash repository.isPresent repository.commonDir
        else stashed) := by
  unfold noteStash
  split_ifs <;> rfl

theorem display_eq_of_render (options : Options) (logs : Bool) (first second : Snapshot)
    (paths : first.hasTextPaths = second.hasTextPaths)
    (shown : options.layout.render options.look first =
      options.layout.render options.look second) :
    display options logs first = display options logs second := by
  rw [display, display, paths, shown]

theorem display_probe (repository : Repository) (options : Options) (logs : Bool)
    (snapshot : Snapshot) (unknown : snapshot.metadataDir = none) :
    display options logs (probe repository options snapshot) =
      display options logs (probeAll repository snapshot) := by
  have sameStash : ∀ stashed : Bool, options.layout.NamesStash →
      (if options.looksForStash then
        Repository.hasStash repository.isPresent repository.commonDir else stashed) =
        Repository.hasStash repository.isPresent repository.commonDir :=
    fun stashed names => if_pos (looksForStash_of_namesStash options names)
  have all : probeAll repository snapshot = snapshot.withProbes
      (if snapshot.unmerged = 0 then some repository.metadataDir else snapshot.metadataDir)
      (Repository.isMerging repository.isPresent repository.metadataDir)
      (Repository.hasStash repository.isPresent repository.commonDir) := rfl
  rw [all, probe, noteMerge_eq repository snapshot unknown, unknown]
  split_ifs with none
  · rw [noteStash_eq]
    exact display_eq_of_render options logs _ _ rfl
      (Layout.render_withProbes _ _ _ _ _ _ _ _ _ (Or.inr rfl) (sameStash snapshot.stashed))
  · have counted := UInt32.pos_iff_ne_zero.mpr none
    rw [noteStash_eq]
    exact display_eq_of_render options logs _ _ rfl
      (Layout.render_withProbes _ _ _ _ _ _ _ _ _ (Or.inl counted) (sameStash snapshot.stashed))

def paths (snapshot : Snapshot) : Text × Option Text := (snapshot.workDir, snapshot.metadataDir)

theorem readStatus_paths (repository : Repository) (answers : Answers) (options : Options)
    (workDir : Text) (snapshot : Snapshot)
    (readable : readStatus repository answers options workDir = .ok snapshot) :
    paths snapshot = (workDir, none) := by
  unfold readStatus at readable
  split at readable
  next => cases readable
  next report _ =>
    have around := Report.Reader.read_surroundings _ report snapshot readable
    exact congrArg (fun part => (part.workDir, part.metadataDir)) around

theorem settleRemote_paths (repository : Repository) (snapshot : Snapshot) :
    paths (settleRemote repository snapshot) = paths snapshot := by
  unfold settleRemote
  split_ifs
  · rfl
  · split <;> rfl

theorem addDiff_paths (answers : Answers) (snapshot after : Snapshot)
    (added : addDiff answers snapshot = .ok after) : paths after = paths snapshot := by
  unfold addDiff at added
  split at added
  next => cases added
  next summary _ =>
    obtain ⟨totals, -, rfl⟩ := (DiffSummary.addTo_eq_ok_iff snapshot after summary).mp added
    rfl

theorem gather_paths (repository : Repository) (answers : Answers) (options : Options)
    (workDir : Text) (snapshot : Snapshot)
    (gathered : (gather repository answers options workDir).1 = .ok snapshot) :
    paths snapshot = (workDir, none) := by
  unfold gather at gathered
  cases status : readStatus repository answers options workDir with
  | error failure =>
    rw [status] at gathered
    cases gathered
  | ok reported =>
    have known : paths (settleRemote repository reported) = (workDir, none) := by
      rw [settleRemote_paths]
      exact readStatus_paths repository answers options workDir reported status
    simp only [status] at gathered
    split at gathered
    next => exact (addDiff_paths answers _ snapshot gathered).trans known
    next =>
      cases gathered
      exact known

theorem runIn_eq_runEagerlyIn (repository : Repository) (answers : Answers) (options : Options)
    (logs : Bool) (workDir : Text) :
    runIn repository answers options logs workDir =
      runEagerlyIn repository answers options logs workDir := by
  unfold runIn runEagerlyIn
  have known := gather_paths repository answers options workDir
  generalize gather repository answers options workDir = both at known ⊢
  obtain ⟨gathered, asked⟩ := both
  cases gathered with
  | error failure => rfl
  | ok snapshot =>
    have unknown : snapshot.metadataDir = none := congrArg Prod.snd (known snapshot rfl)
    exact congrArg (Result.mk · asked) (display_probe repository options logs snapshot unknown)

/-- A run that leaves probes out ends as one that asks them all, in text, failure and what git is
asked for, whether its snapshot is logged or not. -/
theorem run_eq_runEagerly (repository : Option Repository) (answers : Answers)
    (options : Options) (logs : Bool) :
    run repository answers options logs = runEagerly repository answers options logs := by
  cases repository with
  | none => rfl
  | some repository =>
    dsimp only [run, runEagerly]
    cases repository.workDir with
    | none => rfl
    | some workDir => exact runIn_eq_runEagerlyIn repository answers options logs workDir

theorem hasTextPaths_probe (repository : Repository) (options : Options) (workDir : Text)
    (working : repository.workDir = some workDir) (textual : repository.hasTextPaths = true)
    (snapshot : Snapshot) (known : paths snapshot = (workDir, none)) :
    (probe repository options snapshot).hasTextPaths = true := by
  have sameDir : snapshot.workDir = workDir := congrArg Prod.fst known
  have unknown : snapshot.metadataDir = none := congrArg Prod.snd known
  simp only [Repository.hasTextPaths, working, Option.all_some, Bool.and_eq_true] at textual
  have readable : ∀ directory merging stashed,
      directory = none ∨ directory = some repository.metadataDir →
        (snapshot.withProbes directory merging stashed).hasTextPaths = true := by
    intro directory merging stashed either
    have kept : (snapshot.withProbes directory merging stashed).workDir = workDir := sameDir
    rw [Snapshot.hasTextPaths, kept, textual.1]
    rcases either with rfl | rfl
    · rfl
    · exact textual.2
  rw [probe, noteMerge_eq repository snapshot unknown]
  split_ifs
  · rw [noteStash_eq]
    exact readable _ _ _ (Or.inr rfl)
  · rw [noteStash_eq]
    exact readable _ _ _ (Or.inl rfl)

theorem display_of_hasTextPaths (options : Options) (logs : Bool) (snapshot : Snapshot)
    (textual : snapshot.hasTextPaths = true) :
    display options logs snapshot = display options false snapshot := by
  rw [display, display, textual]
  cases logs <;> rfl

theorem run_of_hasTextPaths (found : Option Repository) (answers : Answers) (options : Options)
    (logs : Bool)
    (textual : ∀ repository, found = some repository → repository.hasTextPaths = true) :
    run found answers options logs = run found answers options false := by
  cases found with
  | none => rfl
  | some repository =>
    dsimp only [run]
    cases working : repository.workDir with
    | none => rfl
    | some workDir =>
      dsimp only
      rw [runIn, runIn]
      have known := gather_paths repository answers options workDir
      generalize gather repository answers options workDir = both at known ⊢
      obtain ⟨gathered, asked⟩ := both
      cases gathered with
      | error failure => rfl
      | ok snapshot =>
        have shown := hasTextPaths_probe repository options workDir working
          (textual repository rfl) snapshot (known snapshot rfl)
        exact congrArg (Result.mk · asked) (display_of_hasTextPaths options logs _ shown)

end Prompt

end StatusPrompt
