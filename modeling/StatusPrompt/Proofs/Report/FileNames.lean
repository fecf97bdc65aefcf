import StatusPrompt.Proofs.Report.KeyPosition
import StatusPrompt.Proofs.Report.Lines

/-!
The names of files have no say. A line that is no header is read up to its tag or, if it is an
entry, up to its status pair; what stands behind these, where files are named, can be anything at
all. Two reports that differ there alone read alike, whichever way the names are written.
-/

namespace StatusPrompt.Report

inductive BeginsWith : List Text → Text → Prop
  | done (rest : Text) : BeginsWith [] rest
  | word (lead word : Text) (blank : Char) (rest : Text) (more : List Text)
      (leading : ∀ c ∈ lead, isBlank c = true) (filled : word ≠ [])
      (whole : ∀ c ∈ word, isBlank c = false) (apart : isBlank blank = true)
      (later : BeginsWith more rest) : BeginsWith (word :: more) (lead ++ word ++ blank :: rest)

theorem words_of_beginsWith (opening : List Text) (line : Text)
    (begins : BeginsWith opening line) : ∃ rest, line.words = opening ++ rest := by
  induction begins with
  | done rest => exact ⟨rest.words, rfl⟩
  | word lead word blank rest more leading filled whole apart later ih =>
    obtain ⟨others, split⟩ := ih
    refine ⟨others, ?_⟩
    rw [Text.words_append_blank blank apart, Text.words_append_of_blanks lead word leading,
      Text.words_of_word word filled whole, split]
    rfl

/-- Two lines that are the same, or differ at most behind the status pair of an entry, or behind
the tag of a line that is neither an entry nor a header. -/
inductive SameButNames : Text → Text → Prop
  | same (line : Text) : SameButNames line line
  | entry (tag pair first second : Text) (tagged : tag = ['1'] ∨ tag = ['2'])
      (firstBegins : BeginsWith [tag, pair] first)
      (secondBegins : BeginsWith [tag, pair] second) : SameButNames first second
  | tagged (tag first second : Text) (other : tag ≠ ['#'] ∧ tag ≠ ['1'] ∧ tag ≠ ['2'])
      (firstBegins : BeginsWith [tag] first) (secondBegins : BeginsWith [tag] second) :
      SameButNames first second

theorem factsOfLine_entry (line tag pair : Text) (rest : List Text)
    (tagged : tag = ['1'] ∨ tag = ['2']) (split : line.words = tag :: pair :: rest) :
    factsOfLine line = pairFacts pair := by
  rcases tagged with rfl | rfl <;> simp only [factsOfLine, Line.ofText?, split] <;> rfl

/-- A line that is neither an entry nor a header states what its tag states. -/
theorem facts_eq_of_tag (tag : Text) (words others : List Text) (facts otherFacts : List Fact)
    (plain : tag ≠ ['#'] ∧ tag ≠ ['1'] ∧ tag ≠ ['2']) (states : LineFacts (tag :: words) facts)
    (otherStates : LineFacts (tag :: others) otherFacts) : facts = otherFacts := by
  obtain ⟨noHeader, noChanged, noMoved⟩ := plain
  cases states with
  | header words => exact absurd rfl noHeader
  | entry tag words tagged => exact absurd tagged (not_or.mpr ⟨noChanged, noMoved⟩)
  | unmerged words =>
    cases otherStates with
    | entry tag words tagged => exact absurd tagged (not_or.mpr ⟨noChanged, noMoved⟩)
    | unmerged words => rfl
    | other tag words unknown => exact absurd rfl unknown.2.2.2.1
  | untracked words =>
    cases otherStates with
    | entry tag words tagged => exact absurd tagged (not_or.mpr ⟨noChanged, noMoved⟩)
    | untracked words => rfl
    | other tag words unknown => exact absurd rfl unknown.2.2.2.2
  | other tag words unknown =>
    cases otherStates with
    | header words => exact absurd rfl noHeader
    | entry tag words tagged => exact absurd tagged (not_or.mpr ⟨noChanged, noMoved⟩)
    | unmerged words => exact absurd rfl unknown.2.2.2.1
    | untracked words => exact absurd rfl unknown.2.2.2.2
    | other tag words unknown => rfl

theorem factsOfLine_sameButNames (first second : Text) (same : SameButNames first second) :
    factsOfLine first = factsOfLine second := by
  cases same with
  | same line => rfl
  | entry tag pair first second tagged firstBegins secondBegins =>
    obtain ⟨rest, split⟩ := words_of_beginsWith [tag, pair] first firstBegins
    obtain ⟨otherRest, otherSplit⟩ := words_of_beginsWith [tag, pair] second secondBegins
    rw [factsOfLine_entry first tag pair rest tagged split,
      factsOfLine_entry second tag pair otherRest tagged otherSplit]
  | tagged tag first second other firstBegins secondBegins =>
    obtain ⟨rest, split⟩ := words_of_beginsWith [tag] first firstBegins
    obtain ⟨otherRest, otherSplit⟩ := words_of_beginsWith [tag] second secondBegins
    have states := factsOfLine_lineFacts first
    have otherStates := factsOfLine_lineFacts second
    rw [split] at states
    rw [otherSplit] at otherStates
    exact facts_eq_of_tag tag rest otherRest _ _ other states otherStates

theorem flatMap_sameButNames (first second : List Text)
    (same : List.Forall₂ SameButNames first second) :
    first.flatMap factsOfLine = second.flatMap factsOfLine := by
  induction same with
  | nil => rfl
  | cons line _ ih =>
    rw [List.flatMap_cons, List.flatMap_cons, ih, factsOfLine_sameButNames _ _ line]

/-- Two reports that differ, piece by piece between line feeds, in the names of files at most read
alike: they give the same snapshot or the same failure, and ask for the tag equally often. -/
theorem read_eq_of_sameButNames (reader : Reader) (first second : Text)
    (same : List.Forall₂ SameButNames (Text.fields '\n' first) (Text.fields '\n' second)) :
    reader.read first = reader.read second := by
  apply reader.read_congr
  rw [factsOf_eq_flatMap, factsOf_eq_flatMap]
  exact flatMap_sameButNames _ _ same

theorem beginsWith_tag (tag : Text) (blank : Char) (rest : Text) (filled : tag ≠ [])
    (whole : tag.any isBlank = false) (apart : isBlank blank = true) :
    BeginsWith [tag] (tag ++ blank :: rest) :=
  .word [] tag blank rest [] (fun _ member => absurd member List.not_mem_nil) filled
    (fun c member => Bool.eq_false_iff.mpr (List.any_eq_false.mp whole c member)) apart (.done rest)

theorem beginsWith_pair (tag pair : Text) (blank other : Char) (rest : Text) (filled : tag ≠ [])
    (whole : tag.any isBlank = false) (apart : isBlank blank = true) (pairFilled : pair ≠ [])
    (pairWhole : pair.any isBlank = false) (pairApart : isBlank other = true) :
    BeginsWith [tag, pair] (tag ++ blank :: (pair ++ other :: rest)) :=
  .word [] tag blank _ [pair] (fun _ member => absurd member List.not_mem_nil) filled
    (fun c member => Bool.eq_false_iff.mpr (List.any_eq_false.mp whole c member)) apart
    (beginsWith_tag pair other rest pairFilled pairWhole pairApart)

def disguisedLines : List Text :=
  [['?', ' ', '#', ' ', 'u', '\r'], ['1', '\t', 'M', 'D', '\t', '?', '\u2028', 'u'],
    ['#', ' '] ++ Key.branch.word ++ [' '] ++ detachedHead, ['u', ' ', '1', ' ', '.', 'A'],
    ['!', '\u2003', '2', ' ', 'A', 'A'], []]

def plainLines : List Text :=
  [['?', ' '], ['1', ' ', 'M', 'D', ' ', 'a'],
    ['#', ' '] ++ Key.branch.word ++ [' '] ++ detachedHead, ['u', '\t', '\r'],
    ['!', ' ', '?', ' ', '?'], []]

theorem disguisedLines_sameButNames : List.Forall₂ SameButNames disguisedLines plainLines := by
  refine .cons (.tagged ['?'] _ _ (by decide) ?_ ?_) <|
    .cons (.entry ['1'] ['M', 'D'] _ _ (Or.inl rfl) ?_ ?_) <| .cons (.same _) <|
    .cons (.tagged ['u'] _ _ (by decide) ?_ ?_) <| .cons (.tagged ['!'] _ _ (by decide) ?_ ?_) <|
    .cons (.same _) .nil
  · exact beginsWith_tag ['?'] ' ' _ (by decide) rfl rfl
  · exact beginsWith_tag ['?'] ' ' _ (by decide) rfl rfl
  · exact beginsWith_pair ['1'] ['M', 'D'] '\t' '\t' _ (by decide) rfl rfl (by decide) rfl rfl
  · exact beginsWith_pair ['1'] ['M', 'D'] ' ' ' ' _ (by decide) rfl rfl (by decide) rfl rfl
  · exact beginsWith_tag ['u'] ' ' _ (by decide) rfl rfl
  · exact beginsWith_tag ['u'] '\t' _ (by decide) rfl rfl
  · exact beginsWith_tag ['!'] '\u2003' _ (by decide) rfl rfl
  · exact beginsWith_tag ['!'] ' ' _ (by decide) rfl rfl

theorem read_eq_disguised :
    List.Forall₂ SameButNames (Text.fields '\n' (Text.joined ['\n'] disguisedLines))
        (Text.fields '\n' (Text.joined ['\n'] plainLines)) ∧
      Reader.read { tag := some ['v'] } (Text.joined ['\n'] disguisedLines) =
        Reader.read { tag := some ['v'] } (Text.joined ['\n'] plainLines) := by
  have same : List.Forall₂ SameButNames (Text.fields '\n' (Text.joined ['\n'] disguisedLines))
      (Text.fields '\n' (Text.joined ['\n'] plainLines)) := by
    rw [Text.fields_joined '\n' disguisedLines (by decide) (by decide),
      Text.fields_joined '\n' plainLines (by decide) (by decide)]
    exact disguisedLines_sameButNames
  exact ⟨same, read_eq_of_sameButNames { tag := some ['v'] } _ _ same⟩

end StatusPrompt.Report
