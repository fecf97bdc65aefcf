import StatusPrompt.Snapshot.Basic
import StatusPrompt.Text.Lines
import StatusPrompt.Text.Numeral

/-!
The diff summary: one record a line, inserted and deleted lines first, separated by tabs. Blank
lines are no records. The totals reach the snapshot together, once every record has been read.
-/

namespace StatusPrompt.DiffSummary

/-- Two sums of 64 bits, which start again past their end. -/
structure Totals where
  insertions : UInt64 := 0
  deletions : UInt64 := 0
  deriving DecidableEq, Repr

def Totals.add (first second : Totals) : Totals :=
  ⟨first.insertions + second.insertions, first.deletions + second.deletions⟩

def count? (field : Option Text) : Option UInt64 :=
  field.bind fun text => (Numeral.read? Numeral.totalLimit text.trim).map UInt64.ofNat

def record (line : Text) : Except Failure Totals :=
  let fields := Text.fields '\t' line
  match count? fields[0]?, count? fields[1]? with
  | none, _ => .error (.badCount .insertion line)
  | some _, none => .error (.badCount .deletion line)
  | some insertions, some deletions => .ok ⟨insertions, deletions⟩

def sum : List Text → Except Failure Totals
  | [] => .ok {}
  | line :: rest =>
    match record line with
    | .error failure => .error failure
    | .ok totals =>
      match sum rest with
      | .error failure => .error failure
      | .ok more => .ok (totals.add more)

def records (text : Text) : List Text := text.lines.filter fun line => !line.isAllBlank

def totals (text : Text) : Except Failure Totals := sum (records text)

def addTo (snapshot : Snapshot) (text : Text) : Except Failure Snapshot :=
  match totals text with
  | .error failure => .error failure
  | .ok totals => .ok { snapshot with
      insertions := snapshot.insertions + totals.insertions
      deletions := snapshot.deletions + totals.deletions }

theorem addTo_eq_ok_iff (before after : Snapshot) (text : Text) :
    addTo before text = .ok after ↔
      ∃ added, totals text = .ok added ∧ after = { before with
        insertions := before.insertions + added.insertions
        deletions := before.deletions + added.deletions } := by
  unfold addTo
  cases totals text with
  | error failure => simp
  | ok added => simp [eq_comm]

end StatusPrompt.DiffSummary
