import StatusPrompt.Proofs.Report.Frame
import StatusPrompt.Session

/-!
What an operation leaves when it fails. A report, a diff summary and the search for the metadata
directory leave the snapshot as it was. A line does not: what stands in front of its fault has been
taken in by then, and nothing else. That is only ever said under a key, so nothing that is counted
changes.
-/

namespace StatusPrompt

namespace Report.Reader

variable (reader : Reader)

theorem readLine_sameButHeaders (reading after : Reading) (line : Text) (failure : Failure)
    (refused : reader.readLine reading line = (after, .error failure)) :
    reading.snapshot.SameButHeaders after.snapshot := by
  obtain ⟨word, fault, -, rfl⟩ :=
    (reader.readLine_eq_error_iff reading after line failure).mp refused
  have header := isHeader_of_fault line word fault
  apply reader.foldl_sameButHeaders
  intro fact member
  have stated : fact ∈ factsOfLine line := (List.takeWhile_prefix _).subset member
  exact keyed_of_isHeader line header fact stated

end Report.Reader

namespace Session

open Report

def Reply.failure? : Reply → Option Failure
  | .failed failure => some failure
  | .directory (.error failure) _ => some failure
  | _ => none

/-- What a failing operation leaves of a reading. A report that is refused may have asked for the
tag; apart from that, only a line leaves a trace. The line is cut in two places: up to the faulty
word it is read without a failure, and with that word it already fails as it does as a whole. -/
inductive Leaves (reader : Reader) (reading : Reading) : Operation → Failure → Reading → Prop
  | report (text : Text) (failure : Failure) (lookups : Nat) :
      Leaves reader reading (.readReport text) failure { reading with lookups := lookups }
  | summary (text : Text) (failure : Failure) :
      Leaves reader reading (.addDiff text) failure reading
  | directory (directory : Option Text) (failure : Failure) :
      Leaves reader reading (.resolve directory) failure reading
  | line (front word back : Text) (after : Reading)
      (cut : (front ++ word ++ back).words = front.words ++ word :: back.words)
      (header : (front ++ word ++ back).words.head? = some ['#'])
      (before : apply reader reading (.readLine front) = (after, .outcome .applied))
      (through : apply reader reading (.readLine (front ++ word)) =
        (after, .failed (.badDrift word)))
      (kept : reading.snapshot.SameButHeaders after.snapshot) :
      Leaves reader reading (.readLine (front ++ word ++ back)) (.badDrift word) after

variable (reader : Reader) (reading : Reading)

theorem apply_readLine (line : Text) (after : Reading) (result : Except Failure Outcome)
    (read : reader.readLine reading line = (after, result)) :
    apply reader reading (.readLine line) =
      (after, match result with
        | .ok outcome => .outcome outcome
        | .error failure => .failed failure) := by
  unfold apply
  simp only [read]
  cases result <;> rfl

theorem leaves_of_line (line : Text) (failure : Failure)
    (failed : (apply reader reading (.readLine line)).2.failure? = some failure) :
    Leaves reader reading (.readLine line) failure (apply reader reading (.readLine line)).1 := by
  rcases read : reader.readLine reading line with ⟨after, result⟩
  have applied := apply_readLine reader reading line after result read
  rw [applied] at failed ⊢
  cases result with
  | ok outcome => cases failed
  | error refusal =>
    obtain rfl : refusal = failure := Option.some.inj failed
    have kept := reader.readLine_sameButHeaders reading after line refusal read
    obtain ⟨front, word, back, rfl, cut, header, rfl, before, through⟩ :=
      reader.readLine_cut reading after line refusal read
    exact .line front word back after cut (of_decide_eq_true header)
      (apply_readLine reader reading front after _ before)
      (apply_readLine reader reading (front ++ word) after _ through) kept

theorem resolveMetadata_of_error (snapshot : Snapshot) (resolve : Text → Except Failure Text)
    (failure : Failure) (failed : (snapshot.resolveMetadata resolve).2 = .error failure) :
    (snapshot.resolveMetadata resolve).1 = snapshot := by
  unfold Snapshot.resolveMetadata at failed ⊢
  cases known : snapshot.metadataDir with
  | some directory => rfl
  | none =>
    simp only [known] at failed ⊢
    cases found : resolve snapshot.workDir with
    | error failure => rfl
    | ok directory =>
      rw [found] at failed
      cases failed

/-- Whatever fails, in whatever state of a session, leaves at most what the part of a line in front
of its fault says under its keys. -/
theorem apply_leaves (operation : Operation) (failure : Failure)
    (failed : (apply reader reading operation).2.failure? = some failure) :
    Leaves reader reading operation failure (apply reader reading operation).1 := by
  cases operation with
  | readLine line => exact leaves_of_line reader reading line failure failed
  | readReport text =>
    rcases read : reader.read text with ⟨result, lookups⟩
    cases result with
    | ok snapshot =>
      simp only [apply, read] at failed
      cases failed
    | error refusal =>
      simp only [apply, read] at failed ⊢
      exact .report text failure _
  | addDiff text =>
    cases added : DiffSummary.addTo reading.snapshot text with
    | ok snapshot =>
      simp only [apply, added] at failed
      cases failed
    | error refusal =>
      simp only [apply, added] at failed ⊢
      exact .summary text failure
  | record side letter =>
    cases named : Change.ofLetter? letter <;>
      simp only [apply, named] at failed <;> cases failed
  | assign edit => cases failed
  | resolve directory =>
    cases answered : (reading.snapshot.resolveMetadata (resolver directory)).2 with
    | ok found =>
      simp only [apply, answered] at failed
      cases failed
    | error refusal =>
      have unchanged := resolveMetadata_of_error reading.snapshot _ refusal answered
      simp only [apply, unchanged]
      exact .directory directory failure
  | render look layout => cases failed

def faultyLine : Text := "# branch.head (detached) branch.ab +3 -x +5".toList

def begunReading : Reading := { snapshot := { ahead := 1, behind := 2, untracked := 4 } }

/-- The branch and the first count are taken in, the second count is not. -/
theorem apply_leaves_faultyLine :
    (apply { tag := some ['v'] } begunReading (.readLine faultyLine)).2.failure? =
        some (.badDrift ['-', 'x']) ∧
      Leaves { tag := some ['v'] } begunReading (.readLine faultyLine) (.badDrift ['-', 'x'])
        ⟨{ begunReading.snapshot with branch := ['v'], ahead := 3 }, 1⟩ := by
  have failed : (apply { tag := some ['v'] } begunReading (.readLine faultyLine)).2.failure? =
      some (.badDrift ['-', 'x']) := by decide +kernel
  have left : (apply { tag := some ['v'] } begunReading (.readLine faultyLine)).1 =
      ⟨{ begunReading.snapshot with branch := ['v'], ahead := 3 }, 1⟩ := by decide +kernel
  have leaves := apply_leaves { tag := some ['v'] } begunReading _ _ failed
  rw [left] at leaves
  exact ⟨failed, leaves⟩

end Session

end StatusPrompt
