import StatusPrompt.Text.Blank

/-!
The kinds of change that a status report distinguishes, and a tally of them for one side of the
working copy (staged or not yet staged).
-/

namespace StatusPrompt

inductive Change where
  | modified
  | added
  | deleted
  | renamed
  | copied
  deriving DecidableEq, Repr

namespace Change

def letter : Change → Char
  | modified => 'M'
  | added => 'A'
  | deleted => 'D'
  | renamed => 'R'
  | copied => 'C'

/-- Letters of other kinds, and the dot for no change, are not counted. -/
def ofLetter? : Char → Option Change
  | 'M' => some modified
  | 'A' => some added
  | 'D' => some deleted
  | 'R' => some renamed
  | 'C' => some copied
  | _ => none

@[simp] theorem ofLetter?_letter (change : Change) : ofLetter? change.letter = some change := by
  cases change <;> rfl

def stagedOf (pair : Text) : Option Change := pair.head?.bind ofLetter?

def unstagedOf (pair : Text) : Option Change := (pair.drop 1).head?.bind ofLetter?

end Change

/-- How often each kind of change was seen. A count has 32 bits and starts again past its end, and so
does the sum of all. -/
structure Tally where
  modified : UInt32 := 0
  added : UInt32 := 0
  deleted : UInt32 := 0
  renamed : UInt32 := 0
  copied : UInt32 := 0
  deriving DecidableEq, Repr

namespace Tally

def count (tally : Tally) : Change → UInt32
  | .modified => tally.modified
  | .added => tally.added
  | .deleted => tally.deleted
  | .renamed => tally.renamed
  | .copied => tally.copied

def record (tally : Tally) : Change → Tally
  | .modified => { tally with modified := tally.modified + 1 }
  | .added => { tally with added := tally.added + 1 }
  | .deleted => { tally with deleted := tally.deleted + 1 }
  | .renamed => { tally with renamed := tally.renamed + 1 }
  | .copied => { tally with copied := tally.copied + 1 }

def total (tally : Tally) : UInt32 :=
  tally.modified + tally.added + tally.deleted + tally.renamed + tally.copied

def isChanged (tally : Tally) : Bool := 0 < tally.total

@[simp] theorem count_record (tally : Tally) (change other : Change) :
    (tally.record change).count other = tally.count other + if other = change then 1 else 0 := by
  cases change <;> cases other <;> simp [record, count]

end Tally

end StatusPrompt
