import StatusPrompt.Proofs.Report.Cut
import StatusPrompt.Proofs.Report.Refusal

/-!
When the tag of a detached head is asked for: once at every branch key with that value which stands
in front of the first fault of the text. On the line of that fault these are all the branch keys in
key position, because what is a fault stands behind a drift key, and behind that nothing is a key.
-/

namespace StatusPrompt

namespace Report

/-- A place in a report: the number of a line, and a position among the words behind its tag. -/
structure Place where
  line : Nat
  position : Nat
  deriving DecidableEq, Repr

def Place.Precedes (first second : Place) : Prop :=
  first.line < second.line ∨ first.line = second.line ∧ first.position < second.position

instance (first second : Place) : Decidable (first.Precedes second) :=
  inferInstanceAs (Decidable (_ ∨ _))

/-- The branch keys in key position, among the words behind the tag, whose value is a detached
head. -/
def detachedPositions (words : List Text) : List Nat :=
  (keyPositions .branch words).filter fun position =>
    (words.drop (position + 1)).head? = some detachedHead

def faultPositions (words : List Text) : List Nat :=
  (List.range words.length).filter fun position =>
    (∃ drift ∈ keyPositions .drift words, drift < position) ∧
      ∃ word ∈ words[position]?, ¬HasCount word

def placesFrom (positions : List Text → List Nat) (number : Nat) (lines : List Text) :
    List Place :=
  (lines.zipIdx number).flatMap fun (line, number) =>
    (positions (headerWords line)).map fun position => ⟨number, position⟩

def detachedPlaces (text : Text) : List Place := placesFrom detachedPositions 0 text.lines

def faultPlaces (text : Text) : List Place := placesFrom faultPositions 0 text.lines

theorem placesFrom_cons (positions : List Text → List Nat) (number : Nat) (line : Text)
    (rest : List Text) :
    placesFrom positions number (line :: rest) =
      (positions (headerWords line)).map (Place.mk number) ++
        placesFrom positions (number + 1) rest := by
  rw [placesFrom, List.zipIdx_cons, List.flatMap_cons]
  rfl

theorem le_line_of_mem_placesFrom (positions : List Text → List Nat) (number : Nat)
    (lines : List Text) (place : Place) (member : place ∈ placesFrom positions number lines) :
    number ≤ place.line := by
  obtain ⟨⟨line, index⟩, inside, here⟩ := List.mem_flatMap.mp member
  obtain ⟨position, -, rfl⟩ := List.mem_map.mp here
  exact List.le_snd_of_mem_zipIdx inside

theorem precedes_of_mem_placesFrom (positions : List Text → List Nat) (number position : Nat)
    (lines : List Text) (place : Place)
    (later : place ∈ placesFrom positions (number + 1) lines) :
    Place.Precedes ⟨number, position⟩ place ∧ ¬place.Precedes ⟨number, position⟩ := by
  have bound := le_line_of_mem_placesFrom positions (number + 1) lines place later
  simp only [Place.Precedes]
  omega

theorem mem_keyPositions_iff (key : Key) (words : List Text) (position : Nat) :
    position ∈ keyPositions key words ↔
      (words.take position).foldl Awaits.after .key = .key ∧ words[position]? = some key.word := by
  rw [keyPositions, List.mem_filter, List.mem_range, decide_eq_true_eq]
  constructor
  · exact fun standing => standing.2
  · intro standing
    exact ⟨(List.getElem?_eq_some_iff.mp standing.2).1, standing⟩

theorem foldl_drift (words : List Text) : words.foldl Awaits.after .drift = .drift := by
  induction words with
  | nil => rfl
  | cons word rest ih => exact ih

theorem le_of_mem_keyPositions (key : Key) (words : List Text) (position drift : Nat)
    (standing : position ∈ keyPositions key words) (drifting : drift ∈ keyPositions .drift words) :
    position ≤ drift := by
  obtain ⟨scanned, -⟩ := (mem_keyPositions_iff key words position).mp standing
  obtain ⟨reached, named⟩ := (mem_keyPositions_iff .drift words drift).mp drifting
  by_contra beyond
  have through : words.take (drift + 1) = words.take drift ++ [Key.drift.word] := by
    rw [List.take_add_one, named]
    rfl
  have split : words.take position =
      words.take (drift + 1) ++ (words.drop (drift + 1)).take (position - (drift + 1)) := by
    rw [← List.take_add]
    congr 1
    omega
  rw [split, through, List.foldl_append, List.foldl_append, reached] at scanned
  have stuck : [Key.drift.word].foldl Awaits.after .key = .drift := by decide
  rw [stuck, foldl_drift] at scanned
  cases scanned

theorem mem_faultPositions_iff (words : List Text) (position : Nat) :
    position ∈ faultPositions words ↔
      (∃ drift ∈ keyPositions .drift words, drift < position) ∧
        ∃ word, words[position]? = some word ∧ ¬HasCount word := by
  rw [faultPositions, List.mem_filter, List.mem_range, decide_eq_true_eq]
  constructor
  · exact fun faulty => faulty.2
  · rintro ⟨behind, word, here, bad⟩
    exact ⟨(List.getElem?_eq_some_iff.mp here).1, behind, word, here, bad⟩

theorem lt_of_mem_positions (words : List Text) (detached fault : Nat)
    (asked : detached ∈ detachedPositions words) (faulty : fault ∈ faultPositions words) :
    detached < fault := by
  have standing := (List.mem_filter.mp asked).1
  obtain ⟨⟨drift, drifting, less⟩, -⟩ := (mem_faultPositions_iff words fault).mp faulty
  have bound := le_of_mem_keyPositions .branch words detached drift standing drifting
  omega

theorem findSome?_fault?_eq_none_iff (line : Text) :
    (factsOfLine line).findSome? Fact.fault? = none ↔
      ∀ drift ∈ keyPositions .drift (headerWords line),
        ∀ word ∈ (headerWords line).drop (drift + 1), HasCount word := by
  rw [← List.head?_filterMap, factsOfLine_filterMap .drift Fact.fault? fault?_of_key?,
    List.head?_eq_none_iff, List.flatMap_eq_nil_iff]
  simp only [Key.header, Header.facts, List.filterMap_flatMap, driftFacts_fault?,
    List.flatMap_eq_nil_iff, Option.toList_eq_nil_iff, Option.guard_eq_none_iff,
    decide_eq_false_iff_not, not_not]

theorem faultPositions_eq_nil_iff (line : Text) :
    faultPositions (headerWords line) = [] ↔
      (factsOfLine line).findSome? Fact.fault? = none := by
  rw [findSome?_fault?_eq_none_iff, List.eq_nil_iff_forall_not_mem]
  simp only [mem_faultPositions_iff, not_and, not_exists, not_not]
  constructor
  · intro sound drift standing word member
    obtain ⟨offset, inside⟩ := List.mem_iff_getElem?.mp member
    rw [List.getElem?_drop] at inside
    exact sound _ ⟨drift, standing, by omega⟩ word inside
  · rintro sound position ⟨drift, standing, less⟩ word here
    apply sound drift standing word
    apply List.mem_of_getElem? (i := position - (drift + 1))
    rw [List.getElem?_drop, ← here]
    congr 1
    omega

theorem untilFault_append_of_fault (first second : List Fact)
    (faulty : first.findSome? Fact.fault? ≠ none) :
    untilFault (first ++ second) = untilFault first := by
  induction first with
  | nil => exact absurd rfl faulty
  | cons fact rest ih =>
    simp only [untilFault, List.cons_append, List.takeWhile_cons]
    cases fault : fact.fault? with
    | some word => rfl
    | none =>
      rw [List.findSome?_cons, fault] at faulty
      exact congrArg (fact :: ·) (ih faulty)

/-- What a line states under its drift key stands behind everything else that it states, and that is
without a fault. The induction is on the number of words, since a key passes over two of them. -/
theorem headerFacts_split (words : List Text) :
    ∃ front back, headerFacts words = front ++ back ∧ (∀ fact ∈ front, fact.fault? = none) ∧
      ∀ fact ∈ back, fact.key? = some .drift := by
  match words with
  | [] => exact ⟨[], [], rfl, nofun, nofun⟩
  | word :: rest =>
    cases named : Key.ofWord? word with
    | none =>
      rw [headerFacts_unnamed word rest named]
      exact headerFacts_split rest
    | some key =>
      by_cases drift : key = .drift
      · subst drift
        refine ⟨[], rest.flatMap driftFacts, headerFacts_drift word rest named, nofun, ?_⟩
        intro fact stated
        obtain ⟨later, -, member⟩ := List.mem_flatMap.mp stated
        exact driftFacts_key? later fact member
      · obtain ⟨front, back, split, sound, drifting⟩ := headerFacts_split rest.tail
        have whole : headerFacts (word :: rest) =
            (key.header rest).facts ++ headerFacts rest.tail := by
          rw [headerFacts, headers_cons, named]
          simp only [if_neg drift, List.flatMap_cons]
          rfl
        refine ⟨(key.header rest).facts ++ front, back, ?_, ?_, drifting⟩
        · rw [whole, split, List.append_assoc]
        · exact List.forall_mem_append.mpr ⟨key.header_sound drift rest, sound⟩
termination_by words.length
decreasing_by all_goals simp only [List.length_cons, List.length_tail]; omega

theorem factsOfLine_split (line : Text) :
    ∃ front back, factsOfLine line = front ++ back ∧ (∀ fact ∈ front, fact.fault? = none) ∧
      ∀ fact ∈ back, fact.key? = some .drift := by
  cases header : isHeader line with
  | true =>
    have tagged : line.words.head? = some ['#'] := of_decide_eq_true header
    rw [factsOfLine_header line _ (List.eq_cons_of_mem_head? tagged)]
    exact headerFacts_split _
  | false =>
    refine ⟨factsOfLine line, [], (List.append_nil _).symm, ?_, nofun⟩
    intro fact stated
    apply fault?_of_key?
    rw [keyless_of_not_isHeader line header fact stated]
    exact nofun

namespace Reader

variable (reader : Reader)

theorem asksTag_eq (wants : reader.wantsTag = true) (fact : Fact) :
    reader.asksTag fact =
      ((fact.valueOf? .branch).map fun name => decide (name = detachedHead)).getD false := by
  cases fact with
  | branch name => simp only [asksTag, wants, Bool.and_true, Fact.valueOf?, Option.map_some,
      Option.getD_some]
  | _ => rfl

theorem asksTag_of_drift (fact : Fact) (drifting : fact.key? = some .drift) :
    reader.asksTag fact = false := by
  cases fact with
  | branch name => cases drifting
  | _ => rfl

theorem countP_untilFault (line : Text) :
    (untilFault (factsOfLine line)).countP (fun fact => reader.asksTag fact) =
      (factsOfLine line).countP fun fact => reader.asksTag fact := by
  obtain ⟨front, back, split, sound, drifting⟩ := factsOfLine_split line
  have silent : ∀ facts : List Fact, facts ⊆ back →
      facts.countP (fun fact => reader.asksTag fact) = 0 := by
    intro facts inside
    rw [List.countP_eq_zero]
    intro fact member
    rw [reader.asksTag_of_drift fact (drifting fact (inside member))]
    exact Bool.false_ne_true
  rw [split, untilFault_append front back sound, List.countP_append, List.countP_append,
    silent back (List.Subset.refl back), silent (untilFault back) (List.takeWhile_prefix _).subset]

theorem countP_factsOfLine (wants : reader.wantsTag = true) (line : Text) :
    (factsOfLine line).countP (fun fact => reader.asksTag fact) =
      (detachedPositions (headerWords line)).length := by
  have valued := factsOfLine_valueOf? .branch (by decide) line
  have filled : [] ≠ detachedHead := by decide
  have named : ∀ words : List Text, words.head?.getD [] = detachedHead ↔
      words.head? = some detachedHead := by
    intro words
    cases words with
    | nil => exact ⟨fun same => absurd same filled, nofun⟩
    | cons word rest => exact Option.some_inj.symm
  calc
    (factsOfLine line).countP (fun fact => reader.asksTag fact)
      = ((factsOfLine line).filterMap (Fact.valueOf? .branch)).countP
          fun name => name = detachedHead := by
        rw [List.countP_filterMap]
        simp only [reader.asksTag_eq wants]
    _ = (keyPositions .branch (headerWords line)).countP fun position =>
          ((headerWords line).drop (position + 1)).head? = some detachedHead := by
        rw [valued, List.countP_map]
        simp only [Function.comp_def, named]
    _ = (detachedPositions (headerWords line)).length := List.countP_eq_length_filter

/-- The first fault that is asked about here is the first one of the lines, if there is one. The
lines are numbered from any number on, for the induction. -/
theorem countP_lines (wants : reader.wantsTag = true) (lines : List Text) (number : Nat) :
    (untilFault (lines.flatMap factsOfLine)).countP (fun fact => reader.asksTag fact) =
      (placesFrom detachedPositions number lines).countP fun place =>
        ∀ fault ∈ (placesFrom faultPositions number lines).head?, place.Precedes fault := by
  induction lines generalizing number with
  | nil => rfl
  | cons line rest ih =>
    have here := reader.countP_factsOfLine wants line
    rw [placesFrom_cons, placesFrom_cons, List.flatMap_cons, List.countP_append]
    cases faults : faultPositions (headerWords line) with
    | nil =>
      have sound := (faultPositions_eq_nil_iff line).mp faults
      have all : ((detachedPositions (headerWords line)).map (Place.mk number)).countP
          (fun place => ∀ fault ∈ (placesFrom faultPositions (number + 1) rest).head?,
            place.Precedes fault) = (detachedPositions (headerWords line)).length := by
        rw [List.countP_map, List.countP_eq_length]
        intro position _
        rw [Function.comp_apply, decide_eq_true_eq]
        intro fault first
        have later := List.mem_of_mem_head? first
        exact (precedes_of_mem_placesFrom _ number position rest fault later).1
      rw [List.map_nil, List.nil_append, all, ← ih (number + 1), ← here,
        untilFault_append _ _ (List.findSome?_eq_none_iff.mp sound), List.countP_append]
    | cons first others =>
      have faulty : first ∈ faultPositions (headerWords line) := by
        rw [faults]
        exact List.mem_cons_self
      have all : ((detachedPositions (headerWords line)).map (Place.mk number)).countP
          (fun place => place.Precedes ⟨number, first⟩) =
            (detachedPositions (headerWords line)).length := by
        rw [List.countP_map, List.countP_eq_length]
        intro position asked
        rw [Function.comp_apply, decide_eq_true_eq]
        exact Or.inr ⟨rfl, lt_of_mem_positions _ position first asked faulty⟩
      have none : (placesFrom detachedPositions (number + 1) rest).countP
          (fun place => place.Precedes ⟨number, first⟩) = 0 := by
        rw [List.countP_eq_zero]
        intro place later
        rw [decide_eq_true_eq]
        exact (precedes_of_mem_placesFrom _ number first rest place later).2
      have cut : untilFault (factsOfLine line ++ rest.flatMap factsOfLine) =
          untilFault (factsOfLine line) := by
        apply untilFault_append_of_fault
        rw [ne_eq, ← faultPositions_eq_nil_iff, faults]
        exact List.cons_ne_nil first others
      simp only [List.map_cons, List.cons_append, List.head?_cons, Option.mem_def,
        Option.some.injEq, forall_eq']
      rw [all, none, cut, reader.countP_untilFault, here, Nat.add_zero]

/-- The tag is asked for once at each detached head in front of the first fault of the text. -/
theorem read_lookups_eq (wants : reader.wantsTag = true) (text : Text) :
    (reader.read text).2 = (detachedPlaces text).countP fun place =>
      ∀ first ∈ (faultPlaces text).head?, place.Precedes first := by
  rw [read_lookups]
  exact reader.countP_lines wants text.lines 0

end Reader

end Report

end StatusPrompt
