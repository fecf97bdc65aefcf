import StatusPrompt.Proofs.Report.Reading
import StatusPrompt.Proofs.Text.Cutting

/-!
A report taken line by line. What a line states depends on its words alone, so carriage returns
and an empty last line make no difference: the facts of a report are those of its pieces between
line feeds. Whatever is read from a report is read from these facts, and line after line.
-/

namespace StatusPrompt.Report

theorem factsOfLine_congr (first second : Text) (same : first.words = second.words) :
    factsOfLine first = factsOfLine second := by
  simp only [factsOfLine, Line.ofText?, same]

theorem flatMap_linesOfPieces (pieces : List Text) :
    (Text.linesOfPieces pieces).flatMap factsOfLine = pieces.flatMap factsOfLine := by
  induction pieces with
  | nil => rfl
  | cons piece more ih =>
    cases more with
    | nil =>
      rw [Text.linesOfPieces]
      split_ifs with empty
      · rw [empty]
        rfl
      · rfl
    | cons next rest =>
      have cut : Text.linesOfPieces (piece :: next :: rest) =
          Text.dropReturn piece :: Text.linesOfPieces (next :: rest) := rfl
      rw [cut, List.flatMap_cons, List.flatMap_cons, ih,
        factsOfLine_congr _ _ (Text.words_dropReturn piece)]

theorem factsOf_eq_flatMap (text : Text) :
    factsOf text = (Text.fields '\n' text).flatMap factsOfLine := by
  rw [factsOf, Text.lines_eq, flatMap_linesOfPieces]

theorem factsOf_joined (lines : List Text) (whole : ∀ line ∈ lines, '\n' ∉ line) :
    factsOf (Text.joined ['\n'] lines) = lines.flatMap factsOfLine := by
  cases lines with
  | nil => rfl
  | cons line more =>
    rw [factsOf_eq_flatMap, Text.fields_joined '\n' _ (List.cons_ne_nil line more) whole]

theorem Reader.read_congr (reader : Reader) (first second : Text)
    (same : factsOf first = factsOf second) : reader.read first = reader.read second := by
  simp only [Reader.read, same]

namespace Reader

variable (reader : Reader)

theorem absorb_append (reading : Reading) (first second : List Fact) :
    reader.absorb reading (first ++ second) =
      match reader.absorb reading first with
      | (after, some word) => (after, some word)
      | (after, none) => reader.absorb after second := by
  induction first generalizing reading with
  | nil => rfl
  | cons fact rest ih =>
    cases fact with
    | malformed word => rfl
    | _ => exact ih _

def readLines : Reading → List Text → Reading × Option Failure
  | reading, [] => (reading, none)
  | reading, line :: rest =>
    match reader.readLine reading line with
    | (after, .error failure) => (after, some failure)
    | (after, .ok _) => readLines after rest

theorem readLines_eq_absorb (reading : Reading) (lines : List Text) :
    reader.readLines reading lines =
      ((reader.absorb reading (lines.flatMap factsOfLine)).1,
        (reader.absorb reading (lines.flatMap factsOfLine)).2.map .badDrift) := by
  induction lines generalizing reading with
  | nil => rfl
  | cons line rest ih =>
    rw [readLines, List.flatMap_cons, absorb_append, readLine]
    unfold factsOfLine
    cases Line.ofText? line with
    | none => exact ih reading
    | some parsed =>
      simp only [Option.map_some, Option.getD_some]
      rcases reader.absorb reading parsed.facts with ⟨after, _ | word⟩
      · exact ih after
      · rfl

/-- Reading a report is reading its lines, each onto what the lines before it have left. -/
theorem read_eq_readLines (text : Text) :
    reader.read text =
      match reader.readLines reader.start text.lines with
      | (after, some failure) => (.error failure, after.lookups)
      | (after, none) => (.ok after.snapshot, after.lookups) := by
  rw [readLines_eq_absorb, read, factsOf]
  rcases reader.absorb reader.start (text.lines.flatMap factsOfLine) with ⟨after, _ | word⟩ <;> rfl

end Reader

end StatusPrompt.Report
