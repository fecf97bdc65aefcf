import StatusPrompt.Proofs.Report.Frame
import StatusPrompt.Session

/-!
The metadata directory over a session. The first search that finds it ends all searching: what it
found is the answer to every later one, whatever is done in between. Only a report that reads well
takes it back, since it begins a new snapshot; a search that fails is not remembered.
-/

namespace StatusPrompt

open Report

namespace Session

def renews (reader : Reader) : Operation → Bool
  | .readReport text => (reader.read text).1.isOk
  | _ => false

def Reply.found? : Reply → Option Text
  | .directory (.ok path) _ => some path
  | _ => none

section Course

variable (reader : Reader) (reading : Reading)

def left (operations : List Operation) : Reading :=
  operations.foldl (fun reading operation => (apply reader reading operation).1) reading

def firstFound (operations : List Operation) : Option Text :=
  (run reader reading operations).findSome? fun step => step.2.found?

@[simp] theorem left_append (first second : List Operation) :
    left reader reading (first ++ second) = left reader (left reader reading first) second :=
  List.foldl_append

@[simp] theorem run_append (first second : List Operation) :
    run reader reading (first ++ second) =
      run reader reading first ++ run reader (left reader reading first) second := by
  induction first generalizing reading with
  | nil => rfl
  | cons operation rest ih =>
    simp only [List.cons_append, run, ih]
    rfl

theorem apply_metadataDir_of_renews (operation : Operation)
    (renewed : renews reader operation = true) :
    (apply reader reading operation).1.snapshot.metadataDir = none := by
  cases operation with
  | readReport text =>
    rcases read : reader.read text with ⟨result, lookups⟩
    cases result with
    | error failure =>
      rw [renews, read] at renewed
      cases renewed
    | ok snapshot =>
      have readable : (reader.read text).1 = .ok snapshot := by rw [read]
      have around := reader.read_surroundings text snapshot readable
      simp only [apply, read]
      exact congrArg Surroundings.metadataDir around
  | _ => cases renewed

theorem apply_metadataDir (operation : Operation) (kept : renews reader operation = false) :
    (apply reader reading operation).1.snapshot.metadataDir =
      reading.snapshot.metadataDir.or (apply reader reading operation).2.found? := by
  have silent : reading.snapshot.metadataDir = reading.snapshot.metadataDir.or none :=
    (Option.or_none).symm
  cases operation with
  | readLine line =>
    have around := reader.readLine_surroundings reading line
    rcases read : reader.readLine reading line with ⟨after, result⟩
    rw [read] at around
    have same : after.snapshot.metadataDir = reading.snapshot.metadataDir :=
      congrArg Surroundings.metadataDir around
    cases result with
    | ok outcome =>
      simp only [apply, read]
      exact same.trans silent
    | error failure =>
      simp only [apply, read]
      exact same.trans silent
  | readReport text =>
    rcases read : reader.read text with ⟨result, lookups⟩
    cases result with
    | ok snapshot =>
      rw [renews, read] at kept
      cases kept
    | error failure =>
      simp only [apply, read]
      exact silent
  | addDiff text =>
    cases added : DiffSummary.addTo reading.snapshot text with
    | ok snapshot =>
      obtain ⟨totals, -, rfl⟩ :=
        (DiffSummary.addTo_eq_ok_iff reading.snapshot snapshot text).mp added
      simp only [apply, added]
      exact silent
    | error failure =>
      simp only [apply, added]
      exact silent
  | record side letter =>
    cases named : Change.ofLetter? letter with
    | none =>
      simp only [apply, named]
      exact silent
    | some change =>
      simp only [apply, named]
      cases side <;> exact silent
  | assign edit => exact silent
  | resolve directory =>
    cases known : reading.snapshot.metadataDir with
    | some path => simp only [apply, Snapshot.resolveMetadata, known, Option.some_or]
    | none =>
      cases found : resolver directory reading.snapshot.workDir with
      | ok path =>
        simp only [apply, Snapshot.resolveMetadata, known, found, Reply.found?, Option.none_or]
      | error failure =>
        simp only [apply, Snapshot.resolveMetadata, known, found, Reply.found?, Option.none_or]
  | render look layout => exact silent

theorem left_metadataDir (operations : List Operation)
    (kept : ∀ operation ∈ operations, renews reader operation = false) :
    (left reader reading operations).snapshot.metadataDir =
      reading.snapshot.metadataDir.or (firstFound reader reading operations) := by
  induction operations generalizing reading with
  | nil => exact (Option.or_none).symm
  | cons operation rest ih =>
    have first := apply_metadataDir reader reading operation (kept operation List.mem_cons_self)
    have later := ih (apply reader reading operation).1 fun other member =>
      kept other (List.mem_cons_of_mem operation member)
    have found : firstFound reader reading (operation :: rest) =
        (apply reader reading operation).2.found?.or
          (firstFound reader (apply reader reading operation).1 rest) := by
      rw [firstFound, run, List.findSome?_cons]
      cases (apply reader reading operation).2.found? <;> rfl
    rw [found, ← Option.or_assoc, ← first]
    exact later

end Course

/-- How a search goes in a reading, by what is known of the metadata directory: the reading after
it, the answer, and whether the resolver ran. While nothing is known it runs on the work directory
of that moment, and what it finds is known from then on. -/
inductive Searches (current : Reading) (directory : Option Text) :
    Option Text → Reading × Reply → Prop
  | found (path : Text) (finds : resolver directory current.snapshot.workDir = .ok path) :
      Searches current directory none
        ({ current with snapshot := { current.snapshot with metadataDir := some path } },
          .directory (.ok path) true)
  | missed (failure : Failure) (pending : current.snapshot.metadataDir = none)
      (fails : resolver directory current.snapshot.workDir = .error failure) :
      Searches current directory none (current, .directory (.error failure) true)
  | known (path : Text) :
      Searches current directory (some path) (current, .directory (.ok path) false)

/-- What a session makes of knowing this much of the metadata directory. -/
structure Remembers (reader : Reader) (current : Reading) (known : Option Text) : Prop where
  holds : current.snapshot.metadataDir = known
  search : ∀ directory,
    Searches current directory known (apply reader current (.resolve directory))
  /-- While nothing is known, the answer is that of the resolver, whichever it is. -/
  pending : known = none → ∀ resolve : Text → Except Failure Text,
    (current.snapshot.resolveMetadata resolve).2 = resolve current.snapshot.workDir
  /-- Once something is known, no resolver has a say. -/
  settled : ∀ path, known = some path → ∀ resolve : Text → Except Failure Text,
    current.snapshot.resolveMetadata resolve = (current.snapshot, .ok path)
  /-- What is known is given up for a new snapshot only. -/
  renewed : known ≠ none → ∀ operation,
    (apply reader current operation).1.snapshot.metadataDir = none ↔
      renews reader operation = true

theorem searches_of_metadataDir (reader : Reader) (current : Reading) (directory : Option Text) :
    Searches current directory current.snapshot.metadataDir
      (apply reader current (.resolve directory)) := by
  cases known : current.snapshot.metadataDir with
  | some path =>
    simp only [apply, Snapshot.resolveMetadata, known]
    exact .known path
  | none =>
    cases found : resolver directory current.snapshot.workDir with
    | ok path =>
      simp only [apply, Snapshot.resolveMetadata, known, found]
      exact .found path found
    | error failure =>
      simp only [apply, Snapshot.resolveMetadata, known, found]
      exact .missed failure known found

theorem remembers_metadataDir (reader : Reader) (current : Reading) :
    Remembers reader current current.snapshot.metadataDir where
  holds := rfl
  search := searches_of_metadataDir reader current
  pending := by
    intro unknown resolve
    simp only [Snapshot.resolveMetadata, unknown]
    cases resolve current.snapshot.workDir <;> rfl
  settled := by
    intro path known resolve
    simp only [Snapshot.resolveMetadata, known]
  renewed := by
    intro known operation
    constructor
    · intro lost
      by_contra kept
      have same := apply_metadataDir reader current operation (Bool.eq_false_iff.mpr kept)
      rw [lost, eq_comm, Option.or_eq_none_iff] at same
      exact known same.1
    · exact apply_metadataDir_of_renews reader current operation

/-- Over every stretch of a session in which no new snapshot is begun, the session remembers the
metadata directory that it knew in front of it or else the first one found in it; a search inside
the stretch is one behind the part of it that comes before. -/
theorem run_remembers (reader : Reader) (start : Reading) (earlier stretch later : List Operation)
    (kept : ∀ operation ∈ stretch, renews reader operation = false) :
    run reader start (earlier ++ stretch ++ later) =
        run reader start earlier ++ run reader (left reader start earlier) stretch ++
          run reader (left reader start (earlier ++ stretch)) later ∧
      Remembers reader (left reader start (earlier ++ stretch))
        ((left reader start earlier).snapshot.metadataDir.or
          (firstFound reader (left reader start earlier) stretch)) := by
  refine ⟨by rw [run_append, run_append], ?_⟩
  rw [← left_metadataDir reader _ stretch kept, ← left_append]
  exact remembers_metadataDir reader _

def wanderingStretch : List Operation :=
  [.resolve none, .assign { workDir := some ['v'] }, .resolve (some []),
    .assign { workDir := some ['u'] }, .readLine "# branch.ab x".toList,
    .readReport "# branch.ab x".toList]

/-- The directory is below the work directory of the search that found it. -/
theorem run_remembers_wandering :
    (∀ operation ∈ wanderingStretch, renews .bare operation = false) ∧
      firstFound .bare Reader.bare.start wanderingStretch = some ['v', '/'] ∧
      Searches (left .bare Reader.bare.start wanderingStretch) none (some ['v', '/'])
        (apply .bare (left .bare Reader.bare.start wanderingStretch) (.resolve none)) := by
  have kept : ∀ operation ∈ wanderingStretch, renews .bare operation = false := by decide +kernel
  have found : firstFound .bare Reader.bare.start wanderingStretch = some ['v', '/'] := by
    decide +kernel
  have remembers := (run_remembers .bare Reader.bare.start [] wanderingStretch [] kept).2
  refine ⟨kept, found, ?_⟩
  rw [← found]
  exact remembers.search none

end Session

end StatusPrompt
