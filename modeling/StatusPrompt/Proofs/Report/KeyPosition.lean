import Mathlib.Data.List.Basic
import StatusPrompt.Proofs.Report.Reading

/-!
Key position in the words of a header line. Whether a position is one depends on the words in
front of it alone: they are gone through from the left with a state that says what the next word
is taken for. The headers of a line are exactly its keys in key position, each with what stands
behind it, and so every header fact of a report is traced back to a position in a line.
-/

namespace StatusPrompt.Report

/-- What the scan of a header line takes the next word for. -/
inductive Awaits where
  | key
  | value
  | drift
  deriving DecidableEq, Repr

def Key.word : Key → Text
  | .commit => "branch.oid".toList
  | .branch => "branch.head".toList
  | .tracking => "branch.upstream".toList
  | .drift => "branch.ab".toList

/-- One word further: a key has its value next, and the drift key has all that is left. -/
def Awaits.after : Awaits → Text → Awaits
  | .key, word =>
    if word = Key.drift.word then .drift
    else if word = Key.commit.word ∨ word = Key.branch.word ∨ word = Key.tracking.word then .value
    else .key
  | .value, _ => .key
  | .drift, _ => .drift

def keyPositions (key : Key) (words : List Text) : List Nat :=
  (List.range words.length).filter fun position =>
    (words.take position).foldl Awaits.after .key = .key ∧ words[position]? = some key.word

def headerWords (line : Text) : List Text :=
  match line.words with
  | ['#'] :: words => words
  | _ => []

def trailing (key : Key) (text : Text) : List (List Text) :=
  text.lines.flatMap fun line =>
    (keyPositions key (headerWords line)).map fun position => (headerWords line).drop (position + 1)

/-- The values of a key in the order of the text. At the end of a line the value is empty. -/
def valuesOf (key : Key) (text : Text) : List Text :=
  (trailing key text).map fun words => words.head?.getD []

def driftWords (text : Text) : List Text := (trailing .drift text).flatten

theorem headerWords_header (line : Text) (words : List Text)
    (split : line.words = ['#'] :: words) : headerWords line = words := by
  simp only [headerWords, split]

theorem headerWords_other (line tag : Text) (words : List Text)
    (split : line.words = tag :: words) (other : tag ≠ ['#']) : headerWords line = [] := by
  rw [headerWords, split]
  split
  next same => exact absurd (List.cons.inj same).1 other
  next => rfl

theorem headerWords_eq_or (line : Text) :
    headerWords line = [] ∨ line.words = ['#'] :: headerWords line := by
  unfold headerWords
  split
  next words same => exact Or.inr same
  next => exact Or.inl rfl

theorem mem_driftWords_iff (text word : Text) :
    word ∈ driftWords text ↔ ∃ line ∈ text.lines, ∃ words, line.words = ['#'] :: words ∧
      ∃ position ∈ keyPositions .drift words, word ∈ words.drop (position + 1) := by
  simp only [driftWords, trailing, List.mem_flatten, List.mem_flatMap, List.mem_map]
  constructor
  · rintro ⟨taken, ⟨line, member, position, standing, rfl⟩, inside⟩
    rcases headerWords_eq_or line with empty | split
    · rw [empty] at inside
      exact absurd inside (by simp)
    · exact ⟨line, member, headerWords line, split, position, standing, inside⟩
  · rintro ⟨line, member, words, split, position, standing, inside⟩
    rw [← headerWords_header line words split] at standing inside
    exact ⟨_, ⟨line, member, position, standing, rfl⟩, inside⟩

theorem Key.ofWord?_eq_some_iff (word : Text) (key : Key) :
    Key.ofWord? word = some key ↔ word = key.word := by
  constructor
  · intro named
    unfold Key.ofWord? at named
    split_ifs at named with commit branch tracking drift <;> cases named <;> assumption
  · rintro rfl
    cases key <;> decide

theorem Awaits.after_named (word : Text) (key : Key) (named : Key.ofWord? word = some key) :
    Awaits.key.after word = if key = .drift then .drift else .value := by
  obtain rfl := (Key.ofWord?_eq_some_iff word key).mp named
  cases key <;> decide

theorem Awaits.after_unnamed (word : Text) (unnamed : Key.ofWord? word = none) :
    Awaits.key.after word = .key := by
  have different : ∀ key : Key, word ≠ key.word := by
    intro key same
    rw [(Key.ofWord?_eq_some_iff word key).mpr same] at unnamed
    exact absurd unnamed (by simp)
  simp only [Awaits.after, different, or_self, ↓reduceIte]

def Header.key : Header → Key
  | .commit _ => .commit
  | .branch _ => .branch
  | .tracking _ => .tracking
  | .drift _ => .drift

def Key.header : Key → List Text → Header
  | .commit, words => .commit (words.head?.getD [])
  | .branch, words => .branch (words.head?.getD [])
  | .tracking, words => .tracking (words.head?.getD [])
  | .drift, words => .drift words

theorem Key.header_key (key : Key) (words : List Text) : (key.header words).key = key := by
  cases key <;> rfl

/-- The header at a position, if the scan that begins with `awaits` finds a key there. -/
def headerFrom (awaits : Awaits) (words : List Text) (position : Nat) : Option Header :=
  if (words.take position).foldl Awaits.after awaits = .key then
    (words[position]?.bind Key.ofWord?).map fun key => key.header (words.drop (position + 1))
  else none

def scanned (awaits : Awaits) (words : List Text) : List Header :=
  (List.range words.length).filterMap (headerFrom awaits words)

theorem scanned_cons (awaits : Awaits) (word : Text) (rest : List Text) :
    scanned awaits (word :: rest) =
      (headerFrom awaits (word :: rest) 0).toList ++ scanned (awaits.after word) rest := by
  have shifted : (headerFrom awaits (word :: rest)) ∘ Nat.succ =
      headerFrom (awaits.after word) rest := by
    funext position
    simp only [Function.comp_apply, headerFrom, Nat.succ_eq_add_one, List.take_succ_cons,
      List.foldl_cons, List.getElem?_cons_succ, List.drop_succ_cons]
  unfold scanned
  rw [List.length_cons, List.range_succ_eq_map, List.filterMap_cons, List.filterMap_map, shifted]
  cases headerFrom awaits (word :: rest) 0 <;> rfl

theorem scanned_value (words : List Text) : scanned .value words = scanned .key words.tail := by
  cases words with
  | nil => rfl
  | cons value rest => rw [scanned_cons]; rfl

theorem scanned_drift (words : List Text) : scanned .drift words = [] := by
  induction words with
  | nil => rfl
  | cons word rest ih =>
    rw [scanned_cons]
    exact ih

theorem headers_cons (word : Text) (rest : List Text) :
    headers (word :: rest) =
      match Key.ofWord? word with
      | none => headers rest
      | some key => key.header rest :: if key = .drift then [] else headers rest.tail := by
  cases rest with
  | nil =>
    simp only [headers]
    cases Key.ofWord? word with
    | none => rfl
    | some key => cases key <;> rfl
  | cons value rest =>
    rw [headers]
    cases Key.ofWord? word with
    | none => rfl
    | some key => cases key <;> rfl

/-- The headers among some words are the keys in key position. The induction is on the number of
words, since a key passes over two of them. -/
theorem headers_eq_scanned (words : List Text) : headers words = scanned .key words := by
  match words with
  | [] => rfl
  | word :: rest =>
    have first : headerFrom .key (word :: rest) 0 =
        (Key.ofWord? word).map fun key => key.header rest := rfl
    rw [headers_cons, scanned_cons, first]
    cases named : Key.ofWord? word with
    | none =>
      rw [Awaits.after_unnamed word named]
      exact headers_eq_scanned rest
    | some key =>
      rw [Awaits.after_named word key named]
      by_cases drift : key = .drift
      · simp only [if_pos drift, scanned_drift]
        rfl
      · simp only [if_neg drift, scanned_value, ← headers_eq_scanned rest.tail]
        rfl
termination_by words.length
decreasing_by all_goals simp only [List.length_cons, List.length_tail]; omega

/-- The headers of one key, traced back to the positions of that key. -/
theorem headers_filter_key (key : Key) (words : List Text) :
    (headers words).filter (fun header => header.key = key) =
      (keyPositions key words).map fun position => key.header (words.drop (position + 1)) := by
  rw [headers_eq_scanned, scanned, keyPositions, ← List.filterMap_eq_filter, List.filterMap_filterMap,
    ← List.filterMap_eq_map, ← List.filterMap_eq_filter, List.filterMap_filterMap]
  apply List.filterMap_congr
  intro position _
  unfold headerFrom
  by_cases reached : (words.take position).foldl Awaits.after .key = .key
  · cases found : words[position]? with
    | none => simp [Option.guard, reached, found]
    | some word =>
      cases named : Key.ofWord? word with
      | none =>
        have different : word ≠ key.word := by
          intro same
          rw [(Key.ofWord?_eq_some_iff word key).mpr same] at named
          exact absurd named (by simp)
        simp [Option.guard, reached, found, named, different]
      | some other =>
        have same : word = key.word ↔ other = key := by
          rw [← Key.ofWord?_eq_some_iff, named, Option.some.injEq]
        by_cases equal : other = key
        · simp [Option.guard, reached, found, named, same, equal, Key.header_key]
        · simp [Option.guard, reached, found, named, same, equal, Key.header_key]
  · simp [Option.guard, reached]

/-- A key directly behind a key is its value, and the same word once more is a key again. -/
example : keyPositions .branch [Key.commit.word, Key.branch.word, Key.branch.word] = [2] := by
  decide

def Fact.key? : Fact → Option Key
  | .commit _ => some .commit
  | .branch _ => some .branch
  | .tracking _ => some .tracking
  | .ahead _ => some .drift
  | .behind _ => some .drift
  | .malformed _ => some .drift
  | _ => none

theorem driftFacts_key? (word : Text) (fact : Fact) (stated : fact ∈ driftFacts word) :
    fact.key? = some .drift := by
  unfold driftFacts at stated
  split at stated
  · rw [List.mem_singleton.mp stated]
    rfl
  · split at stated
    · rw [List.mem_singleton.mp stated]
      rfl
    · rw [List.mem_singleton.mp stated]
      rfl
    · exact absurd stated List.not_mem_nil

theorem Header.facts_key? (header : Header) (fact : Fact) (stated : fact ∈ header.facts) :
    fact.key? = some header.key := by
  cases header with
  | commit value => rw [List.mem_singleton.mp stated]; rfl
  | branch value => rw [List.mem_singleton.mp stated]; rfl
  | tracking value => rw [List.mem_singleton.mp stated]; rfl
  | drift words =>
    obtain ⟨word, -, member⟩ := List.mem_flatMap.mp stated
    exact driftFacts_key? word fact member

theorem pairFacts_key? (pair : Text) (fact : Fact) (stated : fact ∈ pairFacts pair) :
    fact.key? = none := by
  rcases List.mem_append.mp stated with first | second
  · obtain ⟨change, -, rfl⟩ := List.mem_map.mp first
    rfl
  · obtain ⟨change, -, rfl⟩ := List.mem_map.mp second
    rfl

theorem flatMap_filter_of_nil {α β : Type} (kept : α → Bool) (image : α → List β) (items : List α)
    (empty : ∀ item, kept item = false → image item = []) :
    (items.filter kept).flatMap image = items.flatMap image := by
  induction items with
  | nil => rfl
  | cons item rest ih =>
    cases keeps : kept item with
    | true => simp only [List.filter_cons, keeps, ↓reduceIte, List.flatMap_cons, ih]
    | false =>
      simp only [List.filter_cons, keeps, Bool.false_eq_true, ↓reduceIte, List.flatMap_cons, ih,
        empty item keeps, List.nil_append]

section Tracing

variable {β : Type} (key : Key) (view : Fact → Option β)
  (only : ∀ fact, fact.key? ≠ some key → view fact = none)

include only

theorem headers_filterMap (words : List Text) :
    ((headers words).flatMap Header.facts).filterMap view =
      (keyPositions key words).flatMap fun position =>
        (key.header (words.drop (position + 1))).facts.filterMap view := by
  have silent : ∀ header : Header, decide (header.key = key) = false →
      header.facts.filterMap view = [] := by
    intro header other
    rw [List.filterMap_eq_nil_iff]
    intro fact stated
    apply only
    rw [header.facts_key? fact stated, ne_eq, Option.some.injEq]
    exact of_decide_eq_false other
  rw [List.filterMap_flatMap, ← flatMap_filter_of_nil _ _ _ silent, headers_filter_key,
    List.flatMap_map]

/-- What a line says about one key stands behind that key in key position. -/
theorem factsOfLine_filterMap (line : Text) :
    (factsOfLine line).filterMap view =
      (keyPositions key (headerWords line)).flatMap fun position =>
        (key.header ((headerWords line).drop (position + 1))).facts.filterMap view := by
  have silent : ∀ facts : List Fact, (∀ fact ∈ facts, fact.key? = none) →
      facts.filterMap view = [] := by
    intro facts keyless
    rw [List.filterMap_eq_nil_iff]
    intro fact stated
    apply only
    rw [keyless fact stated]
    simp
  have states := factsOfLine_lineFacts line
  generalize factsOfLine line = facts at states ⊢
  generalize split : line.words = words at states
  cases states with
  | blank =>
    rw [headerWords, split]
    rfl
  | header words =>
    rw [headerWords_header line words split]
    exact headers_filterMap key view only words
  | entry tag words tagged =>
    have other : tag ≠ ['#'] := by rcases tagged with rfl | rfl <;> decide
    rw [headerWords_other line tag words split other]
    apply silent
    cases words with
    | nil => exact fun fact stated => absurd stated List.not_mem_nil
    | cons pair rest => exact pairFacts_key? pair
  | unmerged words =>
    rw [headerWords_other line ['u'] words split (by decide)]
    exact silent _ fun fact stated => by rw [List.mem_singleton.mp stated]; rfl
  | untracked words =>
    rw [headerWords_other line ['?'] words split (by decide)]
    exact silent _ fun fact stated => by rw [List.mem_singleton.mp stated]; rfl
  | other tag words unknown =>
    rw [headerWords_other line tag words split unknown.1]
    rfl

/-- What a report says about one key stands behind that key in key position. -/
theorem factsOf_filterMap (text : Text) :
    (factsOf text).filterMap view =
      (trailing key text).flatMap fun words => (key.header words).facts.filterMap view := by
  unfold factsOf trailing
  rw [List.filterMap_flatMap, List.flatMap_assoc]
  congr 1
  funext line
  rw [factsOfLine_filterMap key view only line, List.flatMap_map]

end Tracing

def Fact.valueOf? : Key → Fact → Option Text
  | .commit, .commit id => some id
  | .branch, .branch name => some name
  | .tracking, .tracking name => some name
  | _, _ => none

theorem Fact.valueOf?_of_key? (key : Key) (fact : Fact) (other : fact.key? ≠ some key) :
    fact.valueOf? key = none := by
  cases fact with
  | commit id =>
    cases key with
    | commit => exact absurd rfl other
    | _ => rfl
  | branch name =>
    cases key with
    | branch => exact absurd rfl other
    | _ => rfl
  | tracking name =>
    cases key with
    | tracking => exact absurd rfl other
    | _ => rfl
  | _ => cases key <;> rfl

theorem Key.header_valueOf? (key : Key) (valued : key ≠ .drift) (words : List Text) :
    (key.header words).facts.filterMap (Fact.valueOf? key) = [words.head?.getD []] := by
  cases key with
  | commit => rfl
  | branch => rfl
  | tracking => rfl
  | drift => exact absurd rfl valued

theorem factsOfLine_valueOf? (key : Key) (valued : key ≠ .drift) (line : Text) :
    (factsOfLine line).filterMap (Fact.valueOf? key) =
      (keyPositions key (headerWords line)).map fun position =>
        ((headerWords line).drop (position + 1)).head?.getD [] := by
  rw [factsOfLine_filterMap key _ (Fact.valueOf?_of_key? key)]
  simp only [key.header_valueOf? valued, ← List.map_eq_flatMap]

theorem factsOf_valueOf? (key : Key) (valued : key ≠ .drift) (text : Text) :
    (factsOf text).filterMap (Fact.valueOf? key) = valuesOf key text := by
  rw [factsOf_filterMap key _ (Fact.valueOf?_of_key? key), valuesOf]
  simp only [key.header_valueOf? valued, ← List.map_eq_flatMap]

theorem factsOf_drift {β : Type} (view : Fact → Option β)
    (only : ∀ fact, fact.key? ≠ some .drift → view fact = none) (text : Text) :
    (factsOf text).filterMap view =
      (driftWords text).flatMap fun word => (driftFacts word).filterMap view := by
  rw [factsOf_filterMap .drift view only, driftWords, List.flatten_eq_flatMap, List.flatMap_assoc]
  congr 1
  funext words
  exact List.filterMap_flatMap

end StatusPrompt.Report
