import StatusPrompt.Report.Line

/-!
The keys of a header line. Read from the left, a key that names the commit, the branch or the
branch that it tracks takes the following word as its value, whatever that word is; the drift key
takes every word that is left; any other word is passed over. A word is a key only if it is
reached this way.
-/

namespace StatusPrompt.Report

inductive Key where
  | commit
  | branch
  | tracking
  | drift
  deriving DecidableEq, Repr

def Key.ofWord? (word : Text) : Option Key :=
  if word = "branch.oid".toList then some .commit
  else if word = "branch.head".toList then some .branch
  else if word = "branch.upstream".toList then some .tracking
  else if word = "branch.ab".toList then some .drift
  else none

/-- A key in key position with the words that it takes. -/
inductive Header where
  | commit (value : Text)
  | branch (value : Text)
  | tracking (value : Text)
  | drift (words : List Text)
  deriving DecidableEq, Repr

def headers : List Text → List Header
  | [] => []
  | [word] =>
    match Key.ofWord? word with
    | none => []
    | some .commit => [.commit []]
    | some .branch => [.branch []]
    | some .tracking => [.tracking []]
    | some .drift => [.drift []]
  | word :: value :: rest =>
    match Key.ofWord? word with
    | none => headers (value :: rest)
    | some .commit => .commit value :: headers rest
    | some .branch => .branch value :: headers rest
    | some .tracking => .tracking value :: headers rest
    | some .drift => [.drift (value :: rest)]

end StatusPrompt.Report
