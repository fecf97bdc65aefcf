import StatusPrompt.Snapshot.Basic

/-!
One line of a status report as its words. The first word is the tag that says what kind of line
it is; nothing after it is looked at for a tag again, so a file may be called anything.
-/

namespace StatusPrompt.Report

inductive LineTag where
  | header
  | changed
  | moved
  | unmerged
  | untracked
  | other (word : Text)
  deriving DecidableEq, Repr

def LineTag.ofWord : Text → LineTag
  | ['#'] => .header
  | ['1'] => .changed
  | ['2'] => .moved
  | ['u'] => .unmerged
  | ['?'] => .untracked
  | word => .other word

structure Line where
  tag : LineTag
  words : List Text
  deriving DecidableEq, Repr

namespace Line

def ofText? (text : Text) : Option Line :=
  match text.words with
  | [] => none
  | tag :: words => some ⟨LineTag.ofWord tag, words⟩

/-- Takes the next word; past the end there are only empty ones. -/
def next (line : Line) : Text × Line :=
  match line.words with
  | [] => ([], line)
  | word :: words => (word, { line with words })

def take : Nat → Line → List Text × Line
  | 0, line => ([], line)
  | count + 1, line =>
    let (word, rest) := line.next
    let (more, left) := take count rest
    (word :: more, left)

end Line

end StatusPrompt.Report
