import StatusPrompt.Layout
import StatusPrompt.Proofs.Numeral
import StatusPrompt.Proofs.Snapshot.Gathered

/-!
Raw lines read back. A program that reads the twelve lines by their positions gets the fields they
were written from, because nothing that is written holds the end of a line: not the numerals, not
the flag, and not the names of a gathered snapshot.
-/

namespace StatusPrompt.Raw

open Text (Unbroken)

/-- What the raw lines are written from. -/
structure Fields where
  branch : Text
  remote : Text
  tracking : Text
  staged : Nat
  unstaged : Nat
  untracked : Nat
  isDirty : Bool
  insertions : Nat
  deletions : Nat
  deriving DecidableEq, Repr

def fieldsOf (snapshot : Snapshot) : Fields where
  branch := snapshot.branch
  remote := snapshot.remote
  tracking := snapshot.tracking
  staged := snapshot.staged.modified.toNat
  unstaged := snapshot.unstaged.modified.toNat
  untracked := snapshot.untracked.toNat
  isDirty := snapshot.isDirty
  insertions := snapshot.insertions.toNat
  deletions := snapshot.deletions.toNat

def count? (line : Text) : Option Nat :=
  if line ≠ [] ∧ line.all Numeral.isDigit then some (Numeral.ofDigits line) else none

def flag? : Text → Option Bool
  | ['0'] => some false
  | ['1'] => some true
  | _ => none

/-- Reads raw lines by their positions. A text of more or fewer lines is none, and neither is one
with something in a place that holds nothing. -/
def read? (text : Text) : Option Fields :=
  match text.lines with
  | [branch, remote, ['-'], tracking, staged, ['0'], unstaged, untracked, ['0'], dirty, insertions,
      deletions] => do
    some {
      branch, remote, tracking
      staged := ← count? staged
      unstaged := ← count? unstaged
      untracked := ← count? untracked
      isDirty := ← flag? dirty
      insertions := ← count? insertions
      deletions := ← count? deletions }
  | _ => none

@[simp] theorem count?_write (value : Nat) : count? (Numeral.write value) = some value := by
  have digits : (Numeral.write value).all Numeral.isDigit = true :=
    List.all_eq_true.mpr (Numeral.isDigit_of_mem_write value)
  rw [count?, if_pos ⟨Numeral.write_ne_nil value, digits⟩, Numeral.ofDigits_write]

@[simp] theorem flag?_flag (value : Bool) : flag? (flag value) = some value := by
  cases value <;> rfl

theorem unbroken_write (value : Nat) : Unbroken (Numeral.write value) :=
  Text.unbroken_of_words _ (Numeral.not_blank_of_mem_write value)

theorem unbroken_flag (value : Bool) : Unbroken (flag value) := by
  cases value <;> decide

section Names

variable (snapshot : Snapshot) (names : snapshot.NamesUnbroken)
include names

theorem unbroken_of_mem_lines : ∀ line ∈ lines snapshot, Unbroken line := by
  have dash : Unbroken ['-'] := by decide
  have zero : Unbroken ['0'] := by decide
  simp only [lines, List.forall_mem_cons]
  exact ⟨names.branch, names.remote, dash, names.tracking, unbroken_write _, zero,
    unbroken_write _, unbroken_write _, zero, unbroken_flag _, unbroken_write _, unbroken_write _,
    nofun⟩

@[simp] theorem lines_render : (render snapshot).lines = lines snapshot :=
  Text.lines_of_unbroken (lines snapshot) (unbroken_of_mem_lines snapshot names)

theorem read?_render : read? (render snapshot) = some (fieldsOf snapshot) := by
  rw [read?, lines_render snapshot names]
  simp only [lines, count?_write, flag?_flag, Option.bind_eq_bind, Option.bind_some]
  rfl

end Names

/-- Raw lines of gathered snapshots read back: they are twelve, by their positions they give the
fields they were written from, and no other fields are written as the same lines. -/
theorem render_readsBack (reader : Report.Reader)
    (tagged : ∀ tag, reader.tag = some tag → Unbroken tag) (snapshot : Snapshot)
    (gathered : Gathered reader snapshot) :
    (render snapshot).lines.length = 12 ∧ read? (render snapshot) = some (fieldsOf snapshot) ∧
      ∀ (other : Report.Reader) (second : Snapshot),
        (∀ tag, other.tag = some tag → Unbroken tag) → Gathered other second →
          render second = render snapshot → fieldsOf second = fieldsOf snapshot := by
  have names := gathered.namesUnbroken tagged
  have back := read?_render snapshot names
  refine ⟨?_, back, ?_⟩
  · rw [lines_render snapshot names]
    rfl
  · intro other second otherTagged otherGathered same
    have otherBack := read?_render second (otherGathered.namesUnbroken otherTagged)
    rw [same, back] at otherBack
    exact (Option.some.inj otherBack).symm

def taggedReader : Report.Reader := { tag := some "v1".toList }

def taggedReport : Text :=
  "# branch.head (detached)\r\n# branch.upstream origin/main\n1 MM a\n? b\n".toList

def taggedSnapshot : Snapshot where
  branch := "v1".toList
  remote := "origin".toList
  tracking := "origin/main".toList
  untracked := 1
  insertions := 12
  deletions := 3
  staged := { modified := 1 }
  unstaged := { modified := 1 }

/-- A commit is no raw line, so a report that names one as well reads back the same. -/
theorem render_readsBack_tagged :
    (render taggedSnapshot).lines.length = 12 ∧
      read? (render taggedSnapshot) = some (fieldsOf taggedSnapshot) ∧
      fieldsOf { taggedSnapshot with commit := ['c'] } = fieldsOf taggedSnapshot := by
  have tagged : ∀ tag, taggedReader.tag = some tag → Unbroken tag := by
    intro tag known
    obtain rfl : "v1".toList = tag := Option.some.inj known
    decide
  have first : Gathered taggedReader taggedSnapshot :=
    .summary "12\t3\ta\n".toList { taggedSnapshot with insertions := 0, deletions := 0 } _
      (.report taggedReport _ (by decide +kernel)) (by decide +kernel)
  have second : Gathered taggedReader { taggedSnapshot with commit := ['c'] } :=
    .summary "12\t3\ta\n".toList
      { taggedSnapshot with insertions := 0, deletions := 0, commit := ['c'] } _
      (.report (taggedReport ++ "# branch.oid c".toList) _ (by decide +kernel)) (by decide +kernel)
  obtain ⟨twelve, back, only⟩ := render_readsBack taggedReader tagged taggedSnapshot first
  exact ⟨twelve, back, only taggedReader _ tagged second rfl⟩

end StatusPrompt.Raw
