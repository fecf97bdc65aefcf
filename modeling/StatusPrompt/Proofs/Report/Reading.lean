import Mathlib.Data.List.TakeWhile
import StatusPrompt.Report.Reader

/-!
A reading as a fold over facts. Taking in stops at the first fault, so a reading is the fold of
its steps over the facts in front of that fault; what a report leaves in one field then follows
from what one fact does to that field. The kinds of lines are told apart once, in `LineFacts`.
-/

namespace StatusPrompt

/-- The part of a snapshot that a status report says nothing about. -/
structure Surroundings where
  workDir : Text
  metadataDir : Option Text
  insertions : UInt64
  deletions : UInt64
  stashed : Bool
  merging : Bool
  deriving DecidableEq, Repr

def Snapshot.surroundings (snapshot : Snapshot) : Surroundings where
  workDir := snapshot.workDir
  metadataDir := snapshot.metadataDir
  insertions := snapshot.insertions
  deletions := snapshot.deletions
  stashed := snapshot.stashed
  merging := snapshot.merging

namespace Report

def Fact.fault? : Fact → Option Text
  | .malformed word => some word
  | _ => none

def fault? (text : Text) : Option Text := (factsOf text).findSome? Fact.fault?

/-- What a line of words states, by its kind. A missing pair states nothing. -/
inductive LineFacts : List Text → List Fact → Prop
  | blank : LineFacts [] []
  | header (words : List Text) :
      LineFacts (['#'] :: words) ((headers words).flatMap Header.facts)
  | entry (tag : Text) (words : List Text) (tagged : tag = ['1'] ∨ tag = ['2']) :
      LineFacts (tag :: words) ((words.head?.map pairFacts).getD [])
  | unmerged (words : List Text) : LineFacts (['u'] :: words) [.unmerged]
  | untracked (words : List Text) : LineFacts (['?'] :: words) [.untracked]
  | other (tag : Text) (words : List Text)
      (unknown : tag ≠ ['#'] ∧ tag ≠ ['1'] ∧ tag ≠ ['2'] ∧ tag ≠ ['u'] ∧ tag ≠ ['?']) :
      LineFacts (tag :: words) []

theorem factsOfLine_lineFacts (line : Text) : LineFacts line.words (factsOfLine line) := by
  unfold factsOfLine Line.ofText?
  cases line.words with
  | nil => exact .blank
  | cons tag words =>
    change LineFacts (tag :: words) (Line.facts ⟨LineTag.ofWord tag, words⟩)
    unfold LineTag.ofWord
    split
    · exact .header words
    · cases words with
      | nil => exact .entry ['1'] [] (Or.inl rfl)
      | cons pair rest => exact .entry ['1'] (pair :: rest) (Or.inl rfl)
    · cases words with
      | nil => exact .entry ['2'] [] (Or.inr rfl)
      | cons pair rest => exact .entry ['2'] (pair :: rest) (Or.inr rfl)
    · exact .unmerged words
    · exact .untracked words
    next noHeader noChanged noMoved noUnmerged noUntracked =>
      exact .other tag words ⟨noHeader, noChanged, noMoved, noUnmerged, noUntracked⟩

namespace Reader

variable (reader : Reader)

def shownBranch (name : Text) : Text :=
  if name = detachedHead ∧ reader.wantsTag = true then reader.tag.getD name else name

def shown : Fact → Fact
  | .branch name => .branch (reader.shownBranch name)
  | fact => fact

@[simp] theorem takeIn_snapshot (reading : Reading) (fact : Fact) :
    (reader.takeIn reading fact).snapshot = note reading.snapshot (reader.shown fact) := by
  unfold takeIn
  cases fact with
  | branch name =>
    by_cases asked : name = detachedHead ∧ reader.wantsTag = true
    · simp [asksTag, asked, shown, shownBranch, detachedBranch, note]
    · simp [asksTag, asked, shown, shownBranch, note]
  | _ => rfl

theorem absorb_eq_foldl (reading : Reading) (facts : List Fact) :
    reader.absorb reading facts =
      ((facts.takeWhile fun fact => fact.fault?.isNone).foldl reader.takeIn reading,
        facts.findSome? Fact.fault?) := by
  induction facts generalizing reading with
  | nil => rfl
  | cons fact rest ih =>
    cases fault : fact.fault? with
    | some word =>
      obtain rfl : fact = .malformed word := by
        cases fact <;> simp only [Fact.fault?, reduceCtorEq, Option.some.injEq] at fault
        rw [fault]
      simp only [absorb, List.takeWhile_cons, Fact.fault?, Option.isNone_some, Bool.false_eq_true,
        ↓reduceIte, List.foldl_nil, List.findSome?_cons]
    | none =>
      have step : reader.absorb reading (fact :: rest) =
          reader.absorb (reader.takeIn reading fact) rest := by
        cases fact with
        | malformed word => cases fault
        | _ => rfl
      simp only [step, ih, List.takeWhile_cons, fault, Option.isNone_none, ↓reduceIte,
        List.foldl_cons, List.findSome?_cons]

theorem absorb_of_sound (reading : Reading) (facts : List Fact)
    (sound : facts.findSome? Fact.fault? = none) :
    reader.absorb reading facts = (facts.foldl reader.takeIn reading, none) := by
  have whole : facts.takeWhile (fun fact => fact.fault?.isNone) = facts := by
    rw [List.takeWhile_eq_self_iff]
    intro fact member
    rw [List.findSome?_eq_none_iff.mp sound fact member, Option.isNone_none]
  rw [absorb_eq_foldl, whole, sound]

theorem read_of_sound (text : Text) (sound : fault? text = none) :
    (reader.read text).1 = .ok ((factsOf text).foldl reader.takeIn reader.start).snapshot := by
  unfold read
  rw [absorb_of_sound reader reader.start (factsOf text) sound]

theorem read_of_fault (text word : Text) (fault : fault? text = some word) :
    (reader.read text).1 = .error (.badDrift word) := by
  unfold fault? at fault
  unfold read
  rw [absorb_eq_foldl, fault]

theorem read_eq_error_iff (text : Text) (failure : Failure) :
    (reader.read text).1 = .error failure ↔
      ∃ word, fault? text = some word ∧ failure = .badDrift word := by
  cases fault : fault? text with
  | none => simp [read_of_sound reader text fault]
  | some word => simp [read_of_fault reader text word fault, eq_comm]

/-- A report that reads well has no fault, and the snapshot holds what its facts left. -/
theorem read_eq_ok_iff (text : Text) (snapshot : Snapshot) :
    (reader.read text).1 = .ok snapshot ↔
      fault? text = none ∧ ((factsOf text).foldl reader.takeIn reader.start).snapshot = snapshot := by
  cases fault : fault? text with
  | none => simp [read_of_sound reader text fault]
  | some word => simp [read_of_fault reader text word fault]

/-- A quantity that every fact either sets or leaves alone ends at what was set last. -/
theorem foldl_eq_getLast {α : Type} (quantity : Snapshot → α) (sets : Fact → Option α)
    (step : ∀ snapshot fact,
      quantity (note snapshot (reader.shown fact)) = (sets fact).getD (quantity snapshot))
    (reading : Reading) (facts : List Fact) :
    quantity (facts.foldl reader.takeIn reading).snapshot =
      (facts.filterMap sets).getLast?.getD (quantity reading.snapshot) := by
  induction facts generalizing reading with
  | nil => rfl
  | cons fact rest ih =>
    rw [List.foldl_cons, ih, takeIn_snapshot, step]
    cases given : sets fact with
    | none => rw [List.filterMap_cons_none given, Option.getD_none]
    | some value =>
      rw [List.filterMap_cons_some given, List.getLast?_cons, Option.getD_some, Option.getD_some]

@[simp] theorem note_surroundings (snapshot : Snapshot) (fact : Fact) :
    (note snapshot fact).surroundings = snapshot.surroundings := by
  cases fact <;> rfl

@[simp] theorem foldl_surroundings (reading : Reading) (facts : List Fact) :
    (facts.foldl reader.takeIn reading).snapshot.surroundings = reading.snapshot.surroundings := by
  induction facts generalizing reading with
  | nil => rfl
  | cons fact rest ih => rw [List.foldl_cons, ih, takeIn_snapshot, note_surroundings]

theorem read_surroundings (text : Text) (snapshot : Snapshot)
    (readable : (reader.read text).1 = .ok snapshot) :
    snapshot.surroundings = Snapshot.surroundings { workDir := reader.workDir } := by
  obtain ⟨-, rfl⟩ := (read_eq_ok_iff reader text snapshot).mp readable
  exact foldl_surroundings reader reader.start (factsOf text)

end Reader

end Report

end StatusPrompt
