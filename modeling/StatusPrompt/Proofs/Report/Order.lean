import StatusPrompt.Proofs.Report.ByKey
import StatusPrompt.Proofs.Report.Lines

/-!
The order of the lines of a report. All that a header line says it says under a key, and no other
line says anything under one. So lines that are no header can stand anywhere; and where no key
stands in key position twice, headers can too.
-/

namespace StatusPrompt.Report

/-- Whether the first word of a line is the tag of a header. -/
def isHeader (line : Text) : Bool := line.words.head? = some ['#']

def occurrences (key : Key) (lines : List Text) : Nat :=
  (lines.flatMap fun line => keyPositions key (headerWords line)).length

theorem keyed_of_isHeader (line : Text) (header : isHeader line = true) (fact : Fact)
    (stated : fact ∈ factsOfLine line) : fact.key? ≠ none := by
  have states := factsOfLine_lineFacts line
  generalize factsOfLine line = facts at states stated
  have tagged : line.words.head? = some ['#'] := of_decide_eq_true header
  generalize line.words = words at states tagged
  cases states with
  | blank => cases tagged
  | header words =>
    obtain ⟨header, -, inside⟩ := List.mem_flatMap.mp stated
    rw [header.facts_key? fact inside]
    simp
  | entry tag words kind =>
    obtain rfl := Option.some.inj tagged
    exact absurd kind (by decide)
  | unmerged words => cases tagged
  | untracked words => cases tagged
  | other tag words unknown => exact absurd stated List.not_mem_nil

theorem keyless_of_not_isHeader (line : Text) (other : isHeader line = false) (fact : Fact)
    (stated : fact ∈ factsOfLine line) : fact.key? = none := by
  have states := factsOfLine_lineFacts line
  generalize factsOfLine line = facts at states stated
  have untagged : ¬line.words.head? = some ['#'] := of_decide_eq_false other
  generalize line.words = words at states untagged
  cases states with
  | blank => exact absurd stated List.not_mem_nil
  | header words => exact absurd rfl untagged
  | entry tag words kind =>
    cases words with
    | nil => exact absurd stated List.not_mem_nil
    | cons pair rest => exact pairFacts_key? pair fact stated
  | unmerged words => rw [List.mem_singleton.mp stated]; rfl
  | untracked words => rw [List.mem_singleton.mp stated]; rfl
  | other tag words unknown => exact absurd stated List.not_mem_nil

theorem underKey_flatMap (kind : Option Key) (lines : List Text) :
    underKey kind (lines.flatMap factsOfLine) =
      lines.flatMap fun line => underKey kind (factsOfLine line) :=
  List.filter_flatMap

theorem keyed_flatMap (lines : List Text) (chosen : Fact → Bool)
    (keyed : ∀ fact, fact.key? = none → chosen fact = false) :
    (lines.flatMap factsOfLine).filter chosen =
      (lines.filter isHeader).flatMap fun line => (factsOfLine line).filter chosen := by
  rw [List.filter_flatMap]
  refine (flatMap_filter_of_nil _ _ _ fun line other => ?_).symm
  rw [List.filter_eq_nil_iff]
  intro fact stated
  rw [keyed fact (keyless_of_not_isHeader line other fact stated)]
  exact Bool.false_ne_true

theorem keyless_flatMap (lines : List Text) :
    underKey none (lines.flatMap factsOfLine) =
      (lines.filter fun line => !isHeader line).flatMap fun line =>
        underKey none (factsOfLine line) := by
  rw [underKey_flatMap]
  refine (flatMap_filter_of_nil _ _ _ fun line header => ?_).symm
  refine List.filter_eq_nil_iff.mpr fun fact stated kept => ?_
  have tagged : isHeader line = true := by simpa using header
  exact keyed_of_isHeader line tagged fact stated (of_decide_eq_true kept)

theorem sameByKey_of_headers (first second : List Text)
    (headers : first.filter isHeader = second.filter isHeader)
    (others : (first.filter fun line => !isHeader line).Perm
      (second.filter fun line => !isHeader line)) :
    SameByKey (first.flatMap factsOfLine) (second.flatMap factsOfLine) where
  keyed key := by
    have keyed : ∀ fact : Fact, fact.key? = none → decide (fact.key? = some key) = false := by
      intro fact none
      simp [none]
    unfold underKey
    rw [keyed_flatMap first _ keyed, keyed_flatMap second _ keyed, headers]
  keyless := by
    rw [keyless_flatMap, keyless_flatMap]
    exact others.flatMap_right _

/-- Where at most one item has a mark, and the others have no image, the order of the items does
not matter. -/
theorem flatMap_eq_of_perm {α β γ : Type} (marks : α → List γ) (image : α → List β)
    (silent : ∀ item, marks item = [] → image item = []) (first second : List α)
    (perm : first.Perm second) (once : (first.flatMap marks).length ≤ 1) :
    first.flatMap image = second.flatMap image := by
  induction perm with
  | nil => rfl
  | cons item _ ih =>
    rw [List.flatMap_cons, List.length_append] at once
    rw [List.flatMap_cons, List.flatMap_cons, ih (by omega)]
  | swap item other rest =>
    simp only [List.flatMap_cons, List.length_append] at once
    -- One of the two neighbours that change places has no image.
    have one : (marks item).length = 0 ∨ (marks other).length = 0 := by omega
    rcases one with none | none
    · simp only [List.flatMap_cons, silent _ (List.eq_nil_of_length_eq_zero none), List.nil_append]
    · simp only [List.flatMap_cons, silent _ (List.eq_nil_of_length_eq_zero none), List.nil_append]
  | trans one _ ih more =>
    exact (ih once).trans (more (by rw [← (one.flatMap_right marks).length_eq]; exact once))

theorem underKey_of_keyPositions (key : Key) (line : Text)
    (none : keyPositions key (headerWords line) = []) :
    underKey (some key) (factsOfLine line) = [] := by
  -- As a view of the facts, what is under a key can be traced back to its positions.
  have view : underKey (some key) (factsOfLine line) =
      (factsOfLine line).filterMap (Option.guard fun fact => fact.key? = some key) := by
    rw [List.filterMap_eq_filter]
    rfl
  have only : ∀ fact : Fact, fact.key? ≠ some key →
      Option.guard (fun fact : Fact => fact.key? = some key) fact = Option.none := by
    intro fact other
    simp [Option.guard, other]
  rw [view, factsOfLine_filterMap key _ only, none, List.flatMap_nil]

theorem sameByKey_of_perm (first second : List Text) (perm : first.Perm second)
    (once : ∀ key, occurrences key first ≤ 1) :
    SameByKey (first.flatMap factsOfLine) (second.flatMap factsOfLine) where
  keyed key := by
    rw [underKey_flatMap, underKey_flatMap]
    exact flatMap_eq_of_perm _ _ (underKey_of_keyPositions key) first second perm (once key)
  keyless := by
    rw [underKey_flatMap, underKey_flatMap]
    exact perm.flatMap_right _

/-- Lines that are no header can stand anywhere in a report: the result is the same, and the tag is
asked for equally often. Where no key stands in key position twice, headers can stand anywhere too:
the result is the same, and if there is a snapshot the tag is asked for equally often. -/
theorem read_rearranged (reader : Reader) (first second : List Text)
    (whole : ∀ line ∈ first ++ second, '\n' ∉ line) :
    (first.filter isHeader = second.filter isHeader →
      (first.filter fun line => !isHeader line).Perm (second.filter fun line => !isHeader line) →
        reader.read (Text.joined ['\n'] first) = reader.read (Text.joined ['\n'] second)) ∧
    (first.Perm second → (∀ key, occurrences key first ≤ 1) →
      (reader.read (Text.joined ['\n'] first)).1 = (reader.read (Text.joined ['\n'] second)).1 ∧
        ∀ snapshot, (reader.read (Text.joined ['\n'] first)).1 = .ok snapshot →
          (reader.read (Text.joined ['\n'] first)).2 =
            (reader.read (Text.joined ['\n'] second)).2) := by
  have firstFacts :=
    factsOf_joined first fun line member => whole line (List.mem_append_left _ member)
  have secondFacts :=
    factsOf_joined second fun line member => whole line (List.mem_append_right _ member)
  constructor
  · intro headers others
    have same := sameByKey_of_headers first second headers others
    rw [← firstFacts, ← secondFacts] at same
    refine Prod.ext (reader.read_of_sameByKey _ _ same) (reader.lookups_of_keyed _ _ ?_)
    have keyed : ∀ fact : Fact, fact.key? = none → fact.key?.isSome = false := by
      intro fact none
      rw [none]
      rfl
    rw [firstFacts, secondFacts, keyed_flatMap first _ keyed, keyed_flatMap second _ keyed, headers]
  · intro perm once
    have same := sameByKey_of_perm first second perm once
    rw [← firstFacts, ← secondFacts] at same
    exact ⟨reader.read_of_sameByKey _ _ same, reader.lookups_of_sameByKey _ _ same⟩

def headerLine (key : Key) (words : List Text) : Text :=
  Text.joined [' '] (['#'] :: key.word :: words)

/-- A fault that stands before a header keeps the tag from being asked for. -/
example :
    (Reader.read {} (Text.joined ['\n']
      [headerLine .drift [['x']], headerLine .branch [detachedHead]])).2 = 0 ∧
    (Reader.read {} (Text.joined ['\n']
      [headerLine .branch [detachedHead], headerLine .drift [['x']]])).2 = 1 := by
  decide +kernel

/-- Headers that come twice, one of them with a fault, between lines that are no headers. -/
def headersTwice : List Text :=
  [['1', ' ', 'M', '.'], headerLine .branch [detachedHead], ['?', ' ', '#'],
    headerLine .drift [['x'], ['+', '1']], headerLine .branch [['m']]]

def headersTwiceMoved : List Text :=
  [headerLine .branch [detachedHead], headerLine .drift [['x'], ['+', '1']], ['?', ' ', '#'],
    headerLine .branch [['m']], ['1', ' ', 'M', '.']]

def headersOnce : List Text :=
  [headerLine .tracking [['o', '/', 'm']], ['u', ' ', 'a'], headerLine .drift [['+', '1']],
    headerLine .branch [detachedHead]]

def headersOnceMoved : List Text :=
  [headerLine .branch [detachedHead], headerLine .drift [['+', '1']],
    headerLine .tracking [['o', '/', 'm']], ['u', ' ', 'a']]

def onceSnapshot : Snapshot where
  branch := detachedHead
  remote := ['o']
  tracking := ['o', '/', 'm']
  ahead := 1
  unmerged := 1

theorem read_rearranged_headers :
    (∀ line ∈ headersTwice ++ headersTwiceMoved, '\n' ∉ line) ∧
      Reader.read {} (Text.joined ['\n'] headersTwice) =
        Reader.read {} (Text.joined ['\n'] headersTwiceMoved) ∧
      (∀ line ∈ headersOnce ++ headersOnceMoved, '\n' ∉ line) ∧
      (Reader.read {} (Text.joined ['\n'] headersOnce)).1 = .ok onceSnapshot ∧
      Reader.read {} (Text.joined ['\n'] headersOnce) =
        Reader.read {} (Text.joined ['\n'] headersOnceMoved) := by
  have twice : ∀ line ∈ headersTwice ++ headersTwiceMoved, '\n' ∉ line := by decide
  have once : ∀ line ∈ headersOnce ++ headersOnceMoved, '\n' ∉ line := by decide
  have readable : (Reader.read {} (Text.joined ['\n'] headersOnce)).1 = .ok onceSnapshot := by
    decide +kernel
  have single : ∀ key, occurrences key headersOnce ≤ 1 := by
    intro key
    cases key <;> decide
  have rearranged := (read_rearranged {} headersOnce headersOnceMoved once).2 (by decide) single
  exact ⟨twice, (read_rearranged {} headersTwice headersTwiceMoved twice).1 (by decide) (by decide),
    once, readable, Prod.ext rearranged.1 (rearranged.2 onceSnapshot readable)⟩

end StatusPrompt.Report
