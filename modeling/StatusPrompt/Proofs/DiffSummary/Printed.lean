import Mathlib.Algebra.BigOperators.Group.List.Basic
import Mathlib.Algebra.GroupWithZero.Nat
import StatusPrompt.DiffSummary
import StatusPrompt.Proofs.Numeral

/-!
What git prints as a diff summary. A file of lines has a record with two counts; a binary file has
a record with a dash in place of each, and a path may hold anything but a line feed. The records of
files of lines are all taken in and add up. A dash is no numeral, so the first binary file among
them refuses the whole summary.
-/

namespace StatusPrompt.DiffSummary

/-- A count in decimal digits. -/
structure Count where
  digits : Text
  filled : digits ≠ []
  decimal : ∀ c ∈ digits, '0' ≤ c ∧ c ≤ '9'
  bounded : Numeral.ofDigits digits ≤ 18446744073709551615

structure Record where
  /-- The lines inserted and deleted. They are not counted in a binary file. -/
  counts : Option (Count × Count)
  path : Text
  whole : '\n' ∉ path

def Count.value (count : Count) : Nat := Numeral.ofDigits count.digits

namespace Record

def isBinary (record : Record) : Bool := record.counts.isNone

def insertions (record : Record) : Nat := (record.counts.map fun counts => counts.1.value).getD 0

def deletions (record : Record) : Nat := (record.counts.map fun counts => counts.2.value).getD 0

def fields (record : Record) : Text × Text :=
  match record.counts with
  | some (insertions, deletions) => (insertions.digits, deletions.digits)
  | none => (['-'], ['-'])

def line (record : Record) : Text :=
  record.fields.1 ++ '\t' :: (record.fields.2 ++ '\t' :: record.path)

end Record

/-- The summary that is printed for some files. -/
def printed (records : List Record) : Text := records.flatMap fun record => record.line ++ ['\n']

namespace Count

variable (count : Count)

theorem not_blank : ∀ c ∈ count.digits, isBlank c = false := by
  intro c member
  exact Numeral.not_blank_of_digit c (count.decimal c member)

@[simp] theorem count?_digits : count? (some count.digits) = some (.ofNat count.value) := by
  change (Numeral.read? Numeral.totalLimit count.digits.trim).map UInt64.ofNat = _
  rw [Text.trim_of_letters count.digits count.not_blank,
    (Numeral.read?_eq_some_iff Numeral.totalLimit count.digits count.value).mpr
      ⟨count.bounded, count.digits, Or.inl rfl, count.filled, count.decimal, rfl⟩]
  rfl

end Count

@[simp] theorem count?_dash : count? (some ['-']) = none := by decide

namespace Record

variable (record : Record)

theorem letters_of_fields :
    (∀ c ∈ record.fields.1, isBlank c = false) ∧ ∀ c ∈ record.fields.2, isBlank c = false := by
  unfold fields
  cases record.counts with
  | none => exact ⟨List.forall_mem_singleton.mpr rfl, List.forall_mem_singleton.mpr rfl⟩
  | some counts => exact ⟨counts.1.not_blank, counts.2.not_blank⟩

theorem first_ne_nil : record.fields.1 ≠ [] := by
  unfold fields
  cases record.counts with
  | none => exact List.cons_ne_nil _ _
  | some counts => exact counts.1.filled

theorem feed_not_mem_line : '\n' ∉ record.line := by
  obtain ⟨first, second⟩ := record.letters_of_fields
  have inFirst := Text.not_mem_of_letters _ '\n' (by decide) first
  have inSecond := Text.not_mem_of_letters _ '\n' (by decide) second
  simp only [line, List.mem_append, List.mem_cons, not_or]
  exact ⟨inFirst, by decide, inSecond, by decide, record.whole⟩

/-- The line of a record as it is read, without a carriage return at the end of the path. -/
def shown : Text := Text.dropReturn record.line

theorem shown_eq :
    record.shown =
      record.fields.1 ++ '\t' :: (record.fields.2 ++ '\t' :: Text.dropReturn record.path) := by
  have mark : '\t' ≠ '\r' := by decide
  rw [shown, line, ← List.cons_append, ← List.append_assoc,
    Text.dropReturn_append (record.fields.1 ++ '\t' :: record.fields.2) '\t' record.path mark,
    List.append_assoc]
  rfl

theorem fields_shown :
    Text.fields '\t' record.shown =
      record.fields.1 :: record.fields.2 :: Text.fields '\t' (Text.dropReturn record.path) := by
  obtain ⟨first, second⟩ := record.letters_of_fields
  have inFirst := Text.not_mem_of_letters _ '\t' (by decide) first
  have inSecond := Text.not_mem_of_letters _ '\t' (by decide) second
  rw [shown_eq, Text.fields_append '\t' _ _ inFirst, Text.fields_append '\t' _ _ inSecond]

theorem not_allBlank_shown : record.shown.isAllBlank = false := by
  obtain ⟨c, rest, opens⟩ := List.exists_cons_of_ne_nil record.first_ne_nil
  have letter : isBlank c = false :=
    record.letters_of_fields.1 c (by rw [opens]; exact List.mem_cons_self)
  rw [shown_eq, opens]
  simp only [Text.isAllBlank, List.cons_append, List.all_cons, letter, Bool.false_and]

theorem read_shown :
    DiffSummary.record record.shown =
      if record.isBinary then .error (.badCount .insertion record.shown)
      else .ok ⟨.ofNat record.insertions, .ofNat record.deletions⟩ := by
  unfold DiffSummary.record
  rw [fields_shown]
  simp only [List.getElem?_cons_zero, List.getElem?_cons_succ]
  unfold fields isBinary insertions deletions
  cases record.counts with
  | none =>
    rw [count?_dash]
    rfl
  | some counts =>
    simp only [Count.count?_digits]
    rfl

end Record

@[simp] theorem records_printed (records : List Record) :
    DiffSummary.records (printed records) = records.map Record.shown := by
  have pieces : printed records = (records.map Record.line).flatMap (· ++ ['\n']) := by
    rw [printed, List.flatMap_map]
  have whole : ∀ piece ∈ records.map Record.line, '\n' ∉ piece := by
    intro piece member
    obtain ⟨record, -, rfl⟩ := List.mem_map.mp member
    exact record.feed_not_mem_line
  unfold DiffSummary.records
  rw [pieces, Text.lines_flatMap_feed _ whole, List.map_map]
  apply List.filter_eq_self.mpr
  intro line member
  obtain ⟨record, -, rfl⟩ := List.mem_map.mp member
  have filled : (Text.dropReturn record.line).isAllBlank = false := record.not_allBlank_shown
  simp only [Function.comp_apply, filled, Bool.not_false]

theorem sum_shown (records : List Record) :
    sum (records.map Record.shown) =
      match records.find? Record.isBinary with
      | some record => .error (.badCount .insertion record.shown)
      | none => .ok ⟨.ofNat (records.map Record.insertions).sum,
          .ofNat (records.map Record.deletions).sum⟩ := by
  induction records with
  | nil => rfl
  | cons record rest ih =>
    rw [List.map_cons, sum, record.read_shown]
    cases binary : record.isBinary with
    | true => simp only [List.find?_cons, binary, ↓reduceIte]
    | false =>
      simp only [List.find?_cons, binary, Bool.false_eq_true, ↓reduceIte, ih]
      cases rest.find? Record.isBinary with
      | some refused => rfl
      | none => simp only [Totals.add, List.map_cons, List.sum_cons, UInt64.ofNat_add]

/-- A printed summary raises the totals by the sums of its counts, unless there is a binary file in
it. It is then refused for the first one. -/
theorem addTo_printed (snapshot : Snapshot) (records : List Record) :
    addTo snapshot (printed records) =
      match records.find? Record.isBinary with
      | some record => .error (.badCount .insertion record.shown)
      | none => .ok { snapshot with
          insertions := snapshot.insertions + .ofNat (records.map Record.insertions).sum
          deletions := snapshot.deletions + .ofNat (records.map Record.deletions).sum } := by
  unfold addTo totals
  rw [records_printed, sum_shown]
  cases records.find? Record.isBinary <;> rfl

def Count.ofDigit (digit : Char) (decimal : '0' ≤ digit ∧ digit ≤ '9')
    (bounded : Numeral.ofDigits [digit] ≤ 18446744073709551615) : Count :=
  ⟨[digit], List.cons_ne_nil _ _, List.forall_mem_singleton.mpr decimal, bounded⟩

def changedFile : Record where
  counts := some (.ofDigit '3' (by decide) (by decide), .ofDigit '1' (by decide) (by decide))
  path := "a.txt".toList
  whole := by decide

def binaryFile : Record where
  counts := none
  path := "logo.png".toList
  whole := by decide

/-- One binary file among the changed ones keeps all the counts from being read. -/
theorem addTo_refuses_binary :
    printed [changedFile, binaryFile] = "3\t1\ta.txt\n-\t-\tlogo.png\n".toList ∧
      addTo {} (printed [changedFile, binaryFile]) =
        .error (.badCount .insertion "-\t-\tlogo.png".toList) :=
  ⟨by decide, by decide +kernel⟩

end StatusPrompt.DiffSummary
