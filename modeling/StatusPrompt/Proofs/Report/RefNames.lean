import StatusPrompt.Proofs.Report.Cut
import StatusPrompt.Proofs.Report.HeaderFields
import StatusPrompt.Proofs.Snapshot.Gathered

/-!
Names of references through a report. A reference may be called by any characters but the control
characters of ASCII and its space, and a report puts one space between a key and the name under it.
The words of a line are cut at white space of every kind, so a name comes back as it was written
exactly if it holds none of the white space beyond ASCII.
-/

namespace StatusPrompt.Report

/-- A name that no control character of ASCII and no space stands in. -/
def IsRefName (name : Text) : Prop := name ≠ [] ∧ ∀ c ∈ name, ' ' < c ∧ c ≠ '\x7f'

instance : DecidablePred IsRefName := fun name =>
  @instDecidableAnd _ _ _ (List.decidableBAll _ name)

def isWideBlank (c : Char) : Bool := isBlank c && 0x80 ≤ c.toNat

theorem IsRefName.isBlank_eq {name : Text} (named : IsRefName name) (c : Char) (member : c ∈ name) :
    isBlank c = isWideBlank c := by
  cases blank : isBlank c with
  | false => rw [isWideBlank, blank, Bool.false_and]
  | true =>
    have above : ' ' < c := (named.2 c member).1
    have printed : 0x20 < c.toNat := above
    have bounds := Text.bounds_of_blank c blank
    have wide : 0x80 ≤ c.toNat := by omega
    rw [isWideBlank, blank, Bool.true_and, decide_eq_true wide]

@[simp] theorem Key.words_word (key : Key) : key.word.words = [key.word] := by
  cases key <;> decide

@[simp] theorem words_headerLine (key : Key) (value : Text) :
    (headerLine key [value]).words = ['#'] :: key.word :: value.words := by
  have tag : Text.words ['#'] = [['#']] := by decide
  have space : isBlank ' ' = true := by decide
  have spread : headerLine key [value] = ['#'] ++ ' ' :: (key.word ++ ' ' :: value) := by
    simp [headerLine, Text.joined]
  rw [spread, Text.words_append_blank ' ' space, Text.words_append_blank ' ' space, tag,
    key.words_word]
  rfl

theorem factsOfLine_headerLine (key : Key) (valued : key ≠ .drift) (value : Text)
    (filled : value ≠ []) (whole : ∀ c ∈ value, isBlank c = false) :
    factsOfLine (headerLine key [value]) = (key.header [value]).facts := by
  have split : (headerLine key [value]).words = ['#'] :: [key.word, value] := by
    rw [words_headerLine, Text.words_of_word value filled whole]
  have named : Key.ofWord? key.word = some key := (Key.ofWord?_eq_some_iff _ key).mpr rfl
  rw [factsOfLine_header _ _ split, headerFacts_value key.word value [] key named valued]
  exact List.append_nil _

namespace Reader

variable (reader : Reader)

@[simp] theorem shownBranch_plain (plain : reader.wantsTag = false) (name : Text) :
    reader.shownBranch name = name := by
  rw [shownBranch, plain, if_neg fun asked => Bool.false_ne_true asked.2]

theorem not_blank_of_read (plain : reader.wantsTag = false) (text : Text) (snapshot : Snapshot)
    (readable : (reader.read text).1 = .ok snapshot) :
    ∀ c ∈ snapshot.branch ++ snapshot.tracking, isBlank c = false := by
  obtain ⟨-, rfl⟩ := (read_eq_ok_iff reader text snapshot).mp readable
  have shown := reader.shownBranch_plain plain
  have branch := foldl_eq_getLast reader Snapshot.branch (Fact.valueOf? .branch)
    (fun _ fact => by cases fact <;> simp [Fact.valueOf?, Reader.shown, note, shown])
    reader.start (factsOf text)
  have tracking := foldl_eq_getLast reader Snapshot.tracking (Fact.valueOf? .tracking)
    (fun _ fact => by cases fact <;> rfl) reader.start (factsOf text)
  rw [factsOf_valueOf? .branch (by decide)] at branch
  rw [factsOf_valueOf? .tracking (by decide)] at tracking
  -- Either name is a word of some line, or the empty text that it began with.
  have last : ∀ key c, c ∈ (valuesOf key text).getLast?.getD [] → isBlank c = false := by
    intro key c inside
    cases given : (valuesOf key text).getLast? with
    | none =>
      rw [given] at inside
      exact absurd inside List.not_mem_nil
    | some name =>
      rw [given] at inside
      exact not_blank_of_mem_valuesOf key text name (List.mem_of_getLast? given) c inside
  intro c member
  rcases List.mem_append.mp member with inside | inside
  · rw [branch] at inside
    exact last .branch c inside
  · rw [tracking] at inside
    exact last .tracking c inside

theorem read_names (plain : reader.wantsTag = false) (commit branch tracking text : Text)
    (lines : text.lines =
      [headerLine .commit [commit], headerLine .branch [branch], headerLine .tracking [tracking]])
    (filled : commit ≠ [] ∧ branch ≠ [] ∧ tracking ≠ [])
    (whole : ∀ c ∈ commit ++ branch ++ tracking, isBlank c = false) :
    (reader.read text).1 = .ok
      { workDir := reader.workDir, commit, branch, tracking,
        remote := (remotePart? tracking).getD [] } := by
  simp only [List.forall_mem_append] at whole
  have facts : factsOf text = [.commit commit, .branch branch, .tracking tracking] := by
    rw [factsOf, lines]
    simp only [List.flatMap_cons, List.flatMap_nil,
      factsOfLine_headerLine .commit (by decide) commit filled.1 whole.1.1,
      factsOfLine_headerLine .branch (by decide) branch filled.2.1 whole.1.2,
      factsOfLine_headerLine .tracking (by decide) tracking filled.2.2 whole.2]
    rfl
  have sound : fault? text = none := by
    rw [fault?, facts]
    rfl
  have shown := reader.shownBranch_plain plain branch
  rw [read_of_sound reader text sound, facts]
  simp only [List.foldl_cons, List.foldl_nil, takeIn_snapshot, Reader.shown, note, shown, start,
    remoteFor, ↓reduceIte, before?_slash]

/-- The names of a report come back as they were written, the remote with them, if and only if no
white space beyond ASCII stands in them. -/
theorem read_refNames_iff (plain : reader.wantsTag = false) (commit branch tracking text : Text)
    (commitWord : commit ≠ [] ∧ ∀ c ∈ commit, isBlank c = false)
    (branchName : IsRefName branch) (trackingName : IsRefName tracking)
    (lines : text.lines =
      [headerLine .commit [commit], headerLine .branch [branch],
        headerLine .tracking [tracking]]) :
    (∃ snapshot, (reader.read text).1 = .ok snapshot ∧ snapshot.branch = branch ∧
        snapshot.tracking = tracking ∧ snapshot.remote = (remotePart? tracking).getD []) ↔
      ∀ c ∈ branch ++ tracking, isWideBlank c = false := by
  have same : ∀ c ∈ branch ++ tracking, isBlank c = isWideBlank c := by
    intro c member
    rcases List.mem_append.mp member with inside | inside
    · exact branchName.isBlank_eq c inside
    · exact trackingName.isBlank_eq c inside
  constructor
  · rintro ⟨snapshot, readable, rfl, rfl, -⟩ c member
    rw [← same c member]
    exact reader.not_blank_of_read plain text snapshot readable c member
  · intro narrow
    have whole : ∀ c ∈ commit ++ branch ++ tracking, isBlank c = false := by
      intro c member
      rw [List.append_assoc] at member
      rcases List.mem_append.mp member with inside | inside
      · exact commitWord.2 c inside
      · rw [same c inside]
        exact narrow c inside
    have readable := reader.read_names plain commit branch tracking text lines
      ⟨commitWord.1, branchName.1, trackingName.1⟩ whole
    exact ⟨_, readable, rfl, rfl, rfl⟩

end Reader

def namesReport (commit branch tracking : Text) : Text :=
  [headerLine .commit [commit], headerLine .branch [branch],
    headerLine .tracking [tracking]].flatMap (· ++ ['\n'])

theorem read_refNames_accented :
    Reader.bare.wantsTag = false ∧
      (['0'] ≠ [] ∧ ∀ c ∈ ['0'], isBlank c = false) ∧
      IsRefName ['é', 't', 'é'] ∧ IsRefName ['ö', '/', 'é', '/', 'x'] ∧
      (namesReport ['0'] ['é', 't', 'é'] ['ö', '/', 'é', '/', 'x']).lines =
        [headerLine .commit [['0']], headerLine .branch [['é', 't', 'é']],
          headerLine .tracking [['ö', '/', 'é', '/', 'x']]] ∧
      ∃ snapshot,
        (Reader.bare.read (namesReport ['0'] ['é', 't', 'é'] ['ö', '/', 'é', '/', 'x'])).1 =
            .ok snapshot ∧
          snapshot.branch = ['é', 't', 'é'] ∧ snapshot.tracking = ['ö', '/', 'é', '/', 'x'] ∧
          snapshot.remote = ['ö'] := by
  have word : ['0'] ≠ [] ∧ ∀ c ∈ ['0'], isBlank c = false :=
    ⟨List.cons_ne_nil _ _, List.forall_mem_singleton.mpr rfl⟩
  have branchName : IsRefName ['é', 't', 'é'] := by decide
  have trackingName : IsRefName ['ö', '/', 'é', '/', 'x'] := by decide
  have lines : (namesReport ['0'] ['é', 't', 'é'] ['ö', '/', 'é', '/', 'x']).lines =
      [headerLine .commit [['0']], headerLine .branch [['é', 't', 'é']],
        headerLine .tracking [['ö', '/', 'é', '/', 'x']]] := by decide +kernel
  refine ⟨rfl, word, branchName, trackingName, lines, ?_⟩
  exact (Reader.bare.read_refNames_iff rfl _ _ _ _ word branchName trackingName lines).mpr
    (by simp [isWideBlank, isBlank])

/-- A branch whose name holds a no-break space is cut there. -/
theorem read_noBreakSpace :
    IsRefName ['a', '\u00a0', 'b'] ∧ IsRefName ['o', '/', 'a'] ∧
      (namesReport ['0'] ['a', '\u00a0', 'b'] ['o', '/', 'a']).lines =
        [headerLine .commit [['0']], headerLine .branch [['a', '\u00a0', 'b']],
          headerLine .tracking [['o', '/', 'a']]] ∧
      (Reader.bare.read (namesReport ['0'] ['a', '\u00a0', 'b'] ['o', '/', 'a'])).1 =
        .ok { commit := ['0'], branch := ['a'], tracking := ['o', '/', 'a'], remote := ['o'] } := by
  decide +kernel

/-- What is cut off a name is read on: it can bring in a fault of its own. -/
example :
    (Reader.bare.read (namesReport ['0']
      (['a', '\u3000'] ++ Key.drift.word ++ ['\u3000', 'b']) ['o', '/', 'a'])).1 =
        .error (.badDrift ['b']) := by
  decide +kernel

end StatusPrompt.Report
