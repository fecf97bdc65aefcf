import StatusPrompt.Proofs.Report.Lines
import StatusPrompt.Proofs.Text.Collapse

/-!
Spacing and line ends. A line states what its words say, and collapsing keeps the words; a carriage
return at the end of a line is a blank like any other. So a report reads the same however wide the
gaps in its lines are, and whichever way its lines are ended.
-/

namespace StatusPrompt

namespace Text

def withReturns (text : Text) : Text :=
  text.flatMap fun c => if c = '\n' then ['\r', '\n'] else [c]

def mapPieces (ended last : Text → Text) : List Text → List Text
  | [] => []
  | [piece] => [last piece]
  | piece :: more => ended piece :: mapPieces ended last more

def returnOf (piece : Text) : Text := if piece.getLast? = some '\r' then ['\r'] else []

def mapLines (change : Text → Text) (text : Text) : Text :=
  joined ['\n'] (mapPieces (fun piece => change (dropReturn piece) ++ returnOf piece) change
    (fields '\n' text))

theorem mapPieces_cons (ended last : Text → Text) (piece : Text) (more : List Text)
    (further : more ≠ []) :
    mapPieces ended last (piece :: more) = ended piece :: mapPieces ended last more := by
  cases more with
  | nil => exact absurd rfl further
  | cons next rest => rfl

theorem exists_of_mem_mapPieces (ended last : Text → Text) (pieces : List Text) (made : Text)
    (member : made ∈ mapPieces ended last pieces) :
    ∃ piece ∈ pieces, made = ended piece ∨ made = last piece := by
  fun_induction mapPieces ended last pieces with
  | case1 => exact absurd member List.not_mem_nil
  | case2 piece => exact ⟨piece, List.mem_cons_self, Or.inr (List.mem_singleton.mp member)⟩
  | case3 piece more further ih =>
    rcases List.mem_cons.mp member with here | later
    · exact ⟨piece, List.mem_cons_self, Or.inl here⟩
    · obtain ⟨other, inside, made⟩ := ih later
      exact ⟨other, List.mem_cons_of_mem piece inside, made⟩

@[simp] theorem fields_withReturns (text : Text) :
    fields '\n' text.withReturns = mapPieces (· ++ ['\r']) id (fields '\n' text) := by
  induction text with
  | nil => rfl
  | cons c rest ih =>
    have further : fields '\n' rest ≠ [] := fields_ne_nil '\n' rest
    by_cases feed : c = '\n'
    · have written : withReturns (c :: rest) = ['\r'] ++ '\n' :: withReturns rest := by
        rw [feed]
        rfl
      rw [written, fields_append '\n' ['\r'] _ (by decide), ih, fields, if_pos feed,
        mapPieces_cons _ _ _ _ further]
      rfl
    · have written : withReturns (c :: rest) = c :: withReturns rest := by
        simp only [withReturns, List.flatMap_cons, if_neg feed, List.singleton_append]
      rw [written, fields, fields, if_neg feed, if_neg feed, ih]
      -- The character goes to the front of the first piece, the return to its end.
      obtain ⟨piece, more, cut⟩ := List.exists_cons_of_ne_nil further
      rw [cut]
      cases more with
      | nil => rfl
      | cons next others => rfl

@[simp] theorem words_append_returnOf (text piece : Text) :
    words (text ++ returnOf piece) = words text := by
  unfold returnOf
  split_ifs
  · exact words_append_return text
  · rw [List.append_nil]

theorem not_mem_returnOf (piece : Text) : '\n' ∉ returnOf piece := by
  unfold returnOf
  split_ifs <;> decide

theorem feed_not_mem_collapse (text : Text) : '\n' ∉ text.collapse := by
  intro member
  exact absurd (eq_space_of_mem_collapse text '\n' (by decide) member) (by decide)

theorem fields_mapLines_collapse (text : Text) :
    fields '\n' (text.mapLines collapse) =
      mapPieces (fun piece => collapse (dropReturn piece) ++ returnOf piece) collapse
        (fields '\n' text) := by
  apply fields_joined
  · obtain ⟨piece, more, cut⟩ := List.exists_cons_of_ne_nil (fields_ne_nil '\n' text)
    rw [cut]
    cases more <;> exact List.cons_ne_nil _ _
  · intro made member
    obtain ⟨piece, -, rfl | rfl⟩ := exists_of_mem_mapPieces _ _ _ made member
    · rw [List.mem_append, not_or]
      exact ⟨feed_not_mem_collapse _, not_mem_returnOf piece⟩
    · exact feed_not_mem_collapse piece

example : mapLines collapse "? a  b\r\n\t1  .M ".toList = "? a b\r\n1 .M".toList := by decide

end Text

namespace Report

open Text (withReturns mapPieces mapLines)

theorem flatMap_mapPieces (ended last : Text → Text) (pieces : List Text)
    (endedKeeps : ∀ piece, (ended piece).words = piece.words)
    (lastKeeps : ∀ piece, (last piece).words = piece.words) :
    (mapPieces ended last pieces).flatMap factsOfLine = pieces.flatMap factsOfLine := by
  fun_induction mapPieces ended last pieces with
  | case1 => rfl
  | case2 piece =>
    rw [List.flatMap_singleton, List.flatMap_singleton, factsOfLine_congr _ _ (lastKeeps piece)]
  | case3 piece more further ih =>
    rw [List.flatMap_cons, List.flatMap_cons, factsOfLine_congr _ _ (endedKeeps piece), ih]

/-- Changing the pieces of a report changes none of its facts while it keeps their words. -/
theorem factsOf_of_mapPieces (ended last : Text → Text) (text changed : Text)
    (cut : Text.fields '\n' changed = mapPieces ended last (Text.fields '\n' text))
    (endedKeeps : ∀ piece, (ended piece).words = piece.words)
    (lastKeeps : ∀ piece, (last piece).words = piece.words) : factsOf changed = factsOf text := by
  rw [factsOf_eq_flatMap, cut, flatMap_mapPieces ended last _ endedKeeps lastKeeps,
    ← factsOf_eq_flatMap]

@[simp] theorem factsOf_withReturns (text : Text) : factsOf text.withReturns = factsOf text :=
  factsOf_of_mapPieces _ _ _ _ (Text.fields_withReturns text) Text.words_append_return
    fun _ => rfl

@[simp] theorem factsOf_mapLines_collapse (text : Text) :
    factsOf (text.mapLines Text.collapse) = factsOf text := by
  refine factsOf_of_mapPieces _ _ _ _ (Text.fields_mapLines_collapse text) ?_ Text.words_collapse
  intro piece
  simp

/-- The lines of a report, collapsed and put together again with bare line feeds. -/
theorem factsOf_joined_collapse (text : Text) :
    factsOf (Text.joined ['\n'] (text.lines.map Text.collapse)) = factsOf text := by
  have whole : ∀ line ∈ text.lines.map Text.collapse, '\n' ∉ line := by
    intro line member
    obtain ⟨written, -, rfl⟩ := List.mem_map.mp member
    exact Text.feed_not_mem_collapse written
  calc
    factsOf (Text.joined ['\n'] (text.lines.map Text.collapse))
      = (text.lines.map Text.collapse).flatMap factsOfLine := factsOf_joined _ whole
    _ = text.lines.flatMap fun line => factsOfLine line.collapse := List.flatMap_map _ _ _
    _ = text.lines.flatMap factsOfLine :=
        List.flatMap_congr fun line _ => factsOfLine_congr _ _ (Text.words_collapse line)

/-- What a reader does not see of the spacing of a report. A reading holds the snapshot and how
often the tag was asked for, and so does what a whole report gives. -/
structure Reader.IgnoresSpacing (reader : Reader) : Prop where
  line : ∀ reading text, reader.readLine reading text.collapse = reader.readLine reading text
  returns : ∀ text, reader.read text.withReturns = reader.read text
  lines : ∀ text, reader.read (text.mapLines Text.collapse) = reader.read text
  joined : ∀ text,
    reader.read (Text.joined ['\n'] (text.lines.map Text.collapse)) = reader.read text

theorem Reader.ignoresSpacing (reader : Reader) : reader.IgnoresSpacing where
  line reading text := by
    simp [Reader.readLine, Line.ofText?]
  returns text := reader.read_congr _ _ (factsOf_withReturns text)
  lines text := reader.read_congr _ _ (factsOf_mapLines_collapse text)
  joined text := reader.read_congr _ _ (factsOf_joined_collapse text)

end Report

end StatusPrompt
