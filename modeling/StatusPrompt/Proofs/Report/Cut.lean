import StatusPrompt.Proofs.Report.Order
import StatusPrompt.Proofs.Text.Cutting

/-!
A line up to its fault. A reader takes a line in from the left and stops at the first drift word
without a count, so it stops with exactly what the line says in front of that word. Cutting the line
there loses a whole word and what follows it, and moves no key in front of it out of its position.
-/

namespace StatusPrompt

namespace Report

/-- The facts in front of the first fault. -/
def untilFault (facts : List Fact) : List Fact := facts.takeWhile fun fact => fact.fault?.isNone

@[simp] theorem untilFault_append (first second : List Fact)
    (sound : ∀ fact ∈ first, fact.fault? = none) :
    untilFault (first ++ second) = first ++ untilFault second := by
  apply List.takeWhile_append_of_pos
  intro fact member
  rw [sound fact member]
  rfl

theorem findSome?_append_of_sound (first second : List Fact)
    (sound : ∀ fact ∈ first, fact.fault? = none) :
    (first ++ second).findSome? Fact.fault? = second.findSome? Fact.fault? := by
  rw [List.findSome?_append, List.findSome?_eq_none_iff.mpr sound, Option.none_or]

theorem sound_untilFault (facts : List Fact) : (untilFault facts).findSome? Fact.fault? = none := by
  rw [List.findSome?_eq_none_iff]
  intro fact member
  unfold untilFault at member
  have sound := List.mem_takeWhile_imp member
  exact Option.isNone_iff_eq_none.mp sound

theorem driftFacts_malformed_or (word : Text) :
    driftFacts word = [.malformed word] ∨ ∀ fact ∈ driftFacts word, fact.fault? = none := by
  unfold driftFacts
  split
  · exact Or.inl rfl
  · right
    intro fact stated
    split at stated
    · rw [List.mem_singleton.mp stated]
      rfl
    · rw [List.mem_singleton.mp stated]
      rfl
    · exact absurd stated List.not_mem_nil

theorem driftFacts_cut (words : List Text) (word : Text)
    (fault : (words.flatMap driftFacts).findSome? Fact.fault? = some word) :
    ∃ front back, words = front ++ word :: back ∧ driftFacts word = [.malformed word] ∧
      front.flatMap driftFacts = untilFault (words.flatMap driftFacts) := by
  induction words with
  | nil => cases fault
  | cons first rest ih =>
    rw [List.flatMap_cons] at fault ⊢
    rcases driftFacts_malformed_or first with malformed | sound
    · rw [malformed] at fault ⊢
      obtain rfl : first = word := Option.some.inj fault
      exact ⟨[], rest, rfl, malformed, rfl⟩
    · rw [findSome?_append_of_sound _ _ sound] at fault
      obtain ⟨front, back, rfl, malformed, same⟩ := ih fault
      refine ⟨first :: front, back, rfl, malformed, ?_⟩
      rw [List.flatMap_cons, same, untilFault_append _ _ sound]

def headerFacts (words : List Text) : List Fact := (headers words).flatMap Header.facts

@[simp] theorem headerFacts_unnamed (word : Text) (rest : List Text) (unnamed : Key.ofWord? word = none) :
    headerFacts (word :: rest) = headerFacts rest := by
  rw [headerFacts, headers_cons, unnamed]
  rfl

@[simp] theorem headerFacts_drift (word : Text) (rest : List Text)
    (named : Key.ofWord? word = some .drift) :
    headerFacts (word :: rest) = rest.flatMap driftFacts := by
  rw [headerFacts, headers_cons, named]
  exact List.append_nil _

theorem headerFacts_value (word value : Text) (rest : List Text) (key : Key)
    (named : Key.ofWord? word = some key) (valued : key ≠ .drift) :
    headerFacts (word :: value :: rest) = (key.header [value]).facts ++ headerFacts rest := by
  rw [headerFacts, headers_cons, named]
  simp only [if_neg valued, List.flatMap_cons, List.tail_cons]
  cases key with
  | drift => exact absurd rfl valued
  | _ => rfl

theorem headers_ne_nil (word : Text) (rest : List Text) (key : Key)
    (named : Key.ofWord? word = some key) : headers (word :: rest) ≠ [] := by
  rw [headers_cons, named]
  exact List.cons_ne_nil _ _

theorem Key.header_sound (key : Key) (valued : key ≠ .drift) (words : List Text) :
    ∀ fact ∈ (key.header words).facts, fact.fault? = none := by
  intro fact stated
  cases key with
  | drift => exact absurd rfl valued
  | _ =>
    rw [List.mem_singleton.mp stated]
    rfl

/-- The words of a header line up to the first fault have a key in key position, and they state what
the line states in front of its fault. The induction is on the number of words, since a key passes
over two of them. -/
theorem headers_cut (words : List Text) (word : Text)
    (fault : (headerFacts words).findSome? Fact.fault? = some word) :
    ∃ front back, words = front ++ word :: back ∧ headers front ≠ [] ∧
      headerFacts front = untilFault (headerFacts words) ∧
        headerFacts (front ++ [word]) = untilFault (headerFacts words) ++ [.malformed word] := by
  match words with
  | [] => cases fault
  | first :: rest =>
    cases named : Key.ofWord? first with
    | none =>
      rw [headerFacts_unnamed first rest named] at fault ⊢
      obtain ⟨front, back, rfl, keyed, before, through⟩ := headers_cut rest word fault
      refine ⟨first :: front, back, rfl, ?_, ?_, ?_⟩
      · rw [headers_cons, named]
        exact keyed
      · rw [headerFacts_unnamed first front named, before]
      · simp [named, through]
    | some key =>
      by_cases drift : key = .drift
      · subst drift
        rw [headerFacts_drift first rest named] at fault ⊢
        obtain ⟨front, back, rfl, malformed, before⟩ := driftFacts_cut rest word fault
        refine ⟨first :: front, back, rfl, headers_ne_nil first front _ named, ?_, ?_⟩
        · rw [headerFacts_drift first front named, before]
        · rw [List.cons_append, headerFacts_drift first _ named, List.flatMap_append, before,
            List.flatMap_singleton, malformed]
      · cases rest with
        | nil =>
          have alone : headerFacts [first] = (key.header []).facts ++ [] := by
            rw [headerFacts, headers_cons, named]
            simp only [if_neg drift]
            rfl
          rw [alone, findSome?_append_of_sound _ _ (key.header_sound drift [])] at fault
          cases fault
        | cons value more =>
          have sound := key.header_sound drift [value]
          rw [headerFacts_value first value more key named drift] at fault ⊢
          rw [findSome?_append_of_sound _ _ sound] at fault
          obtain ⟨front, back, rfl, -, before, through⟩ := headers_cut more word fault
          refine ⟨first :: value :: front, back, rfl, headers_ne_nil first _ key named, ?_, ?_⟩
          · rw [headerFacts_value first value front key named drift, before,
              untilFault_append _ _ sound]
          · rw [List.cons_append, List.cons_append,
              headerFacts_value first value _ key named drift, through,
              untilFault_append _ _ sound, List.append_assoc]
termination_by words.length

theorem factsOfLine_header (line : Text) (words : List Text) (split : line.words = ['#'] :: words) :
    factsOfLine line = headerFacts words := by
  simp only [factsOfLine, Line.ofText?, split]
  rfl

def isRead (line : Text) : Bool := ((Line.ofText? line).map Line.isKnown).getD false

namespace Reader

variable (reader : Reader)

theorem readLine_eq (reading : Reading) (line : Text) :
    reader.readLine reading line =
      ((untilFault (factsOfLine line)).foldl reader.takeIn reading,
        match (factsOfLine line).findSome? Fact.fault? with
        | some word => .error (.badDrift word)
        | none => .ok (if isRead line then .applied else .ignored)) := by
  unfold readLine factsOfLine isRead
  cases Line.ofText? line with
  | none => rfl
  | some parsed =>
    simp only [absorb_eq_foldl, Option.map_some, Option.getD_some]
    cases parsed.facts.findSome? Fact.fault? <;> rfl

/-- A line is refused for the first fault it states, after what it states in front of it. -/
theorem readLine_eq_error_iff (reading after : Reading) (line : Text) (failure : Failure) :
    reader.readLine reading line = (after, .error failure) ↔
      ∃ word, (factsOfLine line).findSome? Fact.fault? = some word ∧ failure = .badDrift word ∧
        after = (untilFault (factsOfLine line)).foldl reader.takeIn reading := by
  rw [readLine_eq]
  cases (factsOfLine line).findSome? Fact.fault? with
  | none => simp
  | some word => simp [eq_comm, and_comm]

theorem readLine_of_header (reading : Reading) (line : Text) (words : List Text)
    (split : line.words = ['#'] :: words)
    (sound : (headerFacts words).findSome? Fact.fault? = none) (keyed : headers words ≠ []) :
    reader.readLine reading line =
      ((headerFacts words).foldl reader.takeIn reading, .ok .applied) := by
  have whole : untilFault (headerFacts words) = headerFacts words :=
    List.takeWhile_eq_self_iff.mpr fun fact stated =>
      Option.isNone_iff_eq_none.mpr (List.findSome?_eq_none_iff.mp sound fact stated)
  have read : isRead line = true := by
    have known : Line.isKnown ⟨.header, words⟩ = true := by
      simpa only [Line.isKnown, Bool.not_eq_true', List.isEmpty_eq_false_iff] using keyed
    unfold isRead Line.ofText?
    rw [split]
    exact known
  rw [readLine_eq, factsOfLine_header line words split, whole, sound, read]
  rfl

theorem isHeader_of_fault (line word : Text)
    (fault : (factsOfLine line).findSome? Fact.fault? = some word) : isHeader line = true := by
  by_contra other
  obtain ⟨fact, stated, faulty⟩ := List.exists_of_findSome?_eq_some fault
  have keyless := keyless_of_not_isHeader line (Bool.eq_false_iff.mpr other) fact stated
  cases fact with
  | malformed word => exact absurd keyless (by simp [Fact.key?])
  | _ => cases faulty

/-- A line that is refused is a header. Up to the faulty word it is read without a fault, and leaves
what the whole line leaves; with that word it is refused as the whole line is. -/
theorem readLine_cut (reading after : Reading) (line : Text) (failure : Failure)
    (refused : reader.readLine reading line = (after, .error failure)) :
    ∃ front word back, line = front ++ word ++ back ∧
      line.words = front.words ++ word :: back.words ∧ isHeader line = true ∧
      failure = .badDrift word ∧ reader.readLine reading front = (after, .ok .applied) ∧
        reader.readLine reading (front ++ word) = (after, .error (.badDrift word)) := by
  obtain ⟨word, fault, named, left⟩ :=
    (reader.readLine_eq_error_iff reading after line failure).mp refused
  have header := isHeader_of_fault line word fault
  have tagged : line.words.head? = some ['#'] := of_decide_eq_true header
  have split : line.words = ['#'] :: line.words.tail := List.eq_cons_of_mem_head? tagged
  rw [factsOfLine_header line _ split] at fault left
  obtain ⟨earlier, later, cut, keyed, before, through⟩ := headers_cut _ word fault
  rw [cut] at split
  obtain ⟨front, back, whole, frontWords, backWords, throughWords⟩ :=
    Text.exists_cut line word (['#'] :: earlier) later split
  refine ⟨front, word, back, whole, ?_, header, named, ?_, ?_⟩
  · rw [split, frontWords, backWords]
    rfl
  · have sound : (headerFacts earlier).findSome? Fact.fault? = none := by
      rw [before]
      exact sound_untilFault _
    rw [readLine_of_header reader reading front earlier frontWords sound keyed, before, left]
  · have soundBefore :=
      List.findSome?_eq_none_iff.mp (sound_untilFault (headerFacts line.words.tail))
    have states : factsOfLine (front ++ word) =
        untilFault (headerFacts line.words.tail) ++ [.malformed word] := by
      rw [← through]
      exact factsOfLine_header _ _ throughWords
    apply (reader.readLine_eq_error_iff reading after _ _).mpr
    refine ⟨word, ?_, rfl, ?_⟩
    · rw [states, findSome?_append_of_sound _ _ soundBefore]
      rfl
    · rw [states, untilFault_append _ _ soundBefore, left]
      exact congrArg (List.foldl reader.takeIn reading) (List.append_nil _).symm

end Reader

end Report

end StatusPrompt
