import StatusPrompt.Report.Header
import StatusPrompt.Text.Lines
import StatusPrompt.Text.Numeral

/-!
A status report as a list of facts. Every line states some facts, in order; most lines state one
or none. A drift word without a count is a fact of its own, the only one that cannot be taken in.
-/

namespace StatusPrompt.Report

inductive Fact where
  | commit (id : Text)
  | branch (name : Text)
  | tracking (name : Text)
  | ahead (count : UInt32)
  | behind (count : UInt32)
  | malformed (word : Text)
  | staged (change : Change)
  | unstaged (change : Change)
  | unmerged
  | untracked
  deriving DecidableEq, Repr

def driftFacts (word : Text) : List Fact :=
  match Numeral.read? Numeral.countLimit (word.drop 1) with
  | none => [.malformed word]
  | some count =>
    match word.head? with
    | some '+' => [.ahead (.ofNat count)]
    | some '-' => [.behind (.ofNat count)]
    | _ => []

def Header.facts : Header → List Fact
  | .commit value => [.commit value]
  | .branch value => [.branch value]
  | .tracking value => [.tracking value]
  | .drift words => words.flatMap driftFacts

/-- The facts of a status pair: the change on either side that is of a counted kind. -/
def pairFacts (pair : Text) : List Fact :=
  (Change.stagedOf pair).toList.map .staged ++ (Change.unstagedOf pair).toList.map .unstaged

def Line.facts (line : Line) : List Fact :=
  match line.tag, line.words with
  | .header, words => (headers words).flatMap Header.facts
  | .changed, pair :: _ => pairFacts pair
  | .moved, pair :: _ => pairFacts pair
  | .unmerged, _ => [.unmerged]
  | .untracked, _ => [.untracked]
  | _, _ => []

def Line.isKnown (line : Line) : Bool :=
  match line.tag, line.words with
  | .header, words => !(headers words).isEmpty
  | .changed, words => !words.isEmpty
  | .moved, words => !words.isEmpty
  | .unmerged, _ => true
  | .untracked, _ => true
  | .other _, _ => false

def factsOfLine (text : Text) : List Fact := ((Line.ofText? text).map Line.facts).getD []

def factsOf (text : Text) : List Fact := text.lines.flatMap factsOfLine

end StatusPrompt.Report
