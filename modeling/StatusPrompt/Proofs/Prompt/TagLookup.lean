import StatusPrompt.Proofs.Report.HeaderFields
import StatusPrompt.Proofs.Report.Lookups
import StatusPrompt.Prompt

/-!
What rests on the tag of a detached head. A reader that wants no tag does not ask for it, and a run
without tags shows the same whatever tags there are. A reader that wants the tag shows it as the
branch and nowhere else, and that only where no other branch is named behind the detached head.
-/

namespace StatusPrompt

def Snapshot.withoutBranch (snapshot : Snapshot) : Snapshot := { snapshot with branch := [] }

theorem Snapshot.eq_of_withoutBranch {first second : Snapshot}
    (same : first.withoutBranch = second.withoutBranch) (branch : first.branch = second.branch) :
    first = second := by
  calc
    first = { first.withoutBranch with branch := first.branch } := rfl
    _ = { second.withoutBranch with branch := second.branch } := by rw [same, branch]
    _ = second := rfl

namespace Report.Reader

variable (reader : Reader)

def tagged (tag : Option Text) : Reader := { reader with tag := tag }

def untagging : Reader := { reader with wantsTag := false }

theorem note_withoutBranch (snapshot : Snapshot) (fact : Fact) :
    (note snapshot (reader.shown fact)).withoutBranch =
      (note snapshot.withoutBranch fact).withoutBranch := by
  cases fact <;> rfl

theorem foldl_withoutBranch (reading : Reading) (facts : List Fact) :
    (facts.foldl reader.takeIn reading).snapshot.withoutBranch =
      facts.foldl (fun rest fact => (note rest fact).withoutBranch)
        reading.snapshot.withoutBranch := by
  induction facts generalizing reading with
  | nil => rfl
  | cons fact rest ih =>
    simp [ih, note_withoutBranch]

theorem read_withoutBranch (tag : Option Text) (text : Text) :
    ((reader.tagged tag).read text).1.map Snapshot.withoutBranch =
      (reader.read text).1.map Snapshot.withoutBranch := by
  cases fault : fault? text with
  | some word => rw [read_of_fault _ text word fault, read_of_fault _ text word fault]
  | none =>
    rw [read_of_sound _ text fault, read_of_sound _ text fault]
    simp only [Except.map, foldl_withoutBranch]
    rfl

/-- With another tag a report is read as before, if the last branch that it names is not a detached
head. -/
theorem read_tagged_of_attached (tag : Option Text) (text : Text)
    (attached : (valuesOf .branch text).getLast? ≠ some detachedHead) :
    ((reader.tagged tag).read text).1 = (reader.read text).1 := by
  cases fault : fault? text with
  | some word => rw [read_of_fault _ text word fault, read_of_fault _ text word fault]
  | none =>
    have same := reader.read_withoutBranch tag text
    have first := read_of_sound (reader.tagged tag) text fault
    have second := read_of_sound reader text fault
    rw [first, second] at same ⊢
    have shown : ∀ other : Reader,
        other.shownBranch ((valuesOf .branch text).getLast?.getD []) =
          (valuesOf .branch text).getLast?.getD [] := by
      intro other
      cases last : (valuesOf .branch text).getLast? with
      | none => exact other.shownBranch_nil
      | some name =>
        apply if_neg
        rintro ⟨rfl, -⟩
        exact attached last
    have branches := (read_headers _ text _ first).branch.trans (shown _)
    have others := (read_headers _ text _ second).branch.trans (shown _)
    exact congrArg Except.ok
      (Snapshot.eq_of_withoutBranch (Except.ok.inj same) (branches.trans others.symm))

theorem asksTag_of_unwanted (unwanted : reader.wantsTag = false) (fact : Fact) :
    reader.asksTag fact = false := by
  cases fact with
  | branch name => rw [asksTag, unwanted, Bool.and_false]
  | _ => rfl

theorem takeIn_of_unwanted (unwanted : reader.wantsTag = false) :
    reader.takeIn = fun reading fact => ⟨note reading.snapshot fact, reading.lookups⟩ := by
  funext reading fact
  rw [takeIn, reader.asksTag_of_unwanted unwanted fact]
  rfl

theorem read_untagging (tag : Option Text) (text : Text) :
    (reader.untagging.tagged tag).read text = ((reader.untagging.read text).1, 0) := by
  have result : ((reader.untagging.tagged tag).read text).1 = (reader.untagging.read text).1 := by
    simp only [read, absorb_eq_foldl, takeIn_of_unwanted (reader.untagging.tagged tag) rfl,
      takeIn_of_unwanted reader.untagging rfl]
    cases (factsOf text).findSome? Fact.fault? <;> rfl
  have lookups : ((reader.untagging.tagged tag).read text).2 = 0 := by
    rw [read_lookups, List.countP_eq_zero]
    intro fact _
    rw [asksTag_of_unwanted (reader.untagging.tagged tag) rfl fact]
    exact Bool.false_ne_true
  exact Prod.ext result lookups

end Report.Reader

/-- The same repository with another tag at its head, or with none. -/
def Repository.tagged (repository : Repository) (tag : Option Text) : Repository :=
  { repository with exactTag := tag }

def Options.untagging (options : Options) : Options := { options with wantsTag := false }

namespace Prompt

theorem readStatus_untagging (repository : Repository) (tag : Option Text) (answers : Answers)
    (options : Options) (workDir : Text) :
    readStatus (repository.tagged tag) answers options.untagging workDir =
      readStatus repository answers options.untagging workDir := by
  unfold readStatus
  cases answers.status.text .status with
  | error failure => rfl
  | ok report =>
    have same := (reader repository options workDir).read_untagging tag report
    have results := congrArg Prod.fst same
    exact results

theorem run_untagging (found : Option Repository) (tag : Option Text) (answers : Answers)
    (options : Options) (logs : Bool) :
    run (found.map (Repository.tagged · tag)) answers options.untagging logs =
      run found answers options.untagging logs := by
  cases found with
  | none => rfl
  | some repository =>
    have inside : ∀ workDir, runIn (repository.tagged tag) answers options.untagging logs workDir =
        runIn repository answers options.untagging logs workDir := by
      intro workDir
      unfold runIn gather
      rw [readStatus_untagging]
      rfl
    cases working : repository.workDir with
    | none =>
      have same : (repository.tagged tag).workDir = none := working
      simp only [Option.map_some, run, working, same]
    | some workDir =>
      have same : (repository.tagged tag).workDir = some workDir := working
      simp only [Option.map_some, run, working, same, inside]

/-- The tag of a detached head is looked up exactly where it is needed, and is seen nowhere else. A
reader that wants no tag never asks for it, and neither its reading nor a run rests on the tag. A
reader that wants it asks once for every detached head in front of the first fault; what it reads
rests on the tag in the branch at most, and not even there if the last branch named is another. -/
theorem lookups_asNeeded (reader : Report.Reader) (text : Text) (tag : Option Text) :
    (reader.untagging.tagged tag).read text = ((reader.untagging.read text).1, 0) ∧
    (reader.wantsTag = true →
      (reader.read text).2 = (Report.detachedPlaces text).countP fun place =>
        ∀ first ∈ (Report.faultPlaces text).head?, place.Precedes first) ∧
    ((reader.tagged tag).read text).1.map Snapshot.withoutBranch =
      (reader.read text).1.map Snapshot.withoutBranch ∧
    ((Report.valuesOf .branch text).getLast? ≠ some detachedHead →
      ((reader.tagged tag).read text).1 = (reader.read text).1) ∧
    ∀ (found : Option Repository) (answers : Answers) (options : Options) (logs : Bool),
      run (found.map (Repository.tagged · tag)) answers options.untagging logs =
        run found answers options.untagging logs :=
  ⟨reader.read_untagging tag text, fun wants => reader.read_lookups_eq wants text,
    reader.read_withoutBranch tag text, reader.read_tagged_of_attached tag text,
    fun found answers options logs => run_untagging found tag answers options logs⟩

/-- Two detached heads are in front of the fault; one more is no value, and one stands behind it. -/
def faultyReport : Text := Text.joined ['\n']
  ["# branch.head (detached)".toList, "# branch.oid branch.head (detached)".toList,
    "# branch.head a branch.head (detached) branch.ab +1 x".toList,
    "# branch.head (detached)".toList]

def reattachedReport : Text :=
  Text.joined ['\n'] ["# branch.head (detached)".toList, "# branch.head main".toList]

theorem lookups_asNeeded_faulty :
    Report.Reader.wantsTag {} = true ∧ (Report.Reader.read {} faultyReport).2 = 2 ∧
      (Report.valuesOf .branch reattachedReport).getLast? ≠ some detachedHead ∧
      (Report.Reader.read { tag := some ['v'] } reattachedReport).1 =
        .ok { branch := "main".toList } := by
  have asked := (lookups_asNeeded {} faultyReport none).2.1 rfl
  have counted : ((Report.detachedPlaces faultyReport).countP fun place =>
      ∀ first ∈ (Report.faultPlaces faultyReport).head?, place.Precedes first) = 2 := by
    decide +kernel
  have attached : (Report.valuesOf .branch reattachedReport).getLast? ≠ some detachedHead := by
    decide +kernel
  have same := (lookups_asNeeded {} reattachedReport (some ['v'])).2.2.2.1 attached
  have untagged : (Report.Reader.read {} reattachedReport).1 = .ok { branch := "main".toList } := by
    decide +kernel
  exact ⟨rfl, asked.trans counted, attached, same.trans untagged⟩

end Prompt

end StatusPrompt
