import StatusPrompt.Proofs.Numeral
import StatusPrompt.Proofs.Report.KeyPosition

/-!
When a report is refused. The one thing that refuses a report is a drift word without a count: a
word behind a drift key in key position whose text after the first character, whatever that
character is, is no numeral in range. The first such word of the text is the one named.
-/

namespace StatusPrompt.Report

/-- The word has a count of 32 bits after its first character, which need not be a sign. -/
def HasCount (word : Text) : Prop := Numeral.IsNumeral 4294967295 (word.drop 1)

theorem read?_isSome_iff (word : Text) :
    (Numeral.read? Numeral.countLimit (word.drop 1)).isSome = true ↔ HasCount word := by
  rw [← not_iff_not, HasCount, ← Numeral.read?_eq_none_iff, Option.not_isSome_iff_eq_none]
  rfl

instance : DecidablePred HasCount := fun word => decidable_of_iff _ (read?_isSome_iff word)

theorem driftFacts_fault? (word : Text) :
    (driftFacts word).filterMap Fact.fault? =
      (Option.guard (fun word => ¬HasCount word) word).toList := by
  unfold driftFacts
  cases counted : Numeral.read? Numeral.countLimit (word.drop 1) with
  | none =>
    have bad : ¬HasCount word := (Numeral.read?_eq_none_iff _ _).mp counted
    simp [Option.guard, bad, Fact.fault?]
  | some count =>
    have good : HasCount word := (read?_isSome_iff word).mp (by rw [counted]; rfl)
    simp only [Option.guard, good, not_true_eq_false, decide_false, Bool.false_eq_true, ↓reduceIte,
      Option.toList_none]
    split <;> rfl

theorem fault?_eq_find? (text : Text) :
    fault? text = (driftWords text).find? fun word => ¬HasCount word := by
  have only : ∀ fact : Fact, fact.key? ≠ some .drift → fact.fault? = none := by
    intro fact other
    cases fact with
    | malformed word => exact absurd rfl other
    | _ => rfl
  rw [fault?, ← List.head?_filterMap, factsOf_drift Fact.fault? only]
  simp only [driftFacts_fault?]
  rw [← List.filterMap_eq_flatMap_toList, List.filterMap_eq_filter, List.head?_filter]

theorem fault?_eq_some_iff (text word : Text) :
    fault? text = some word ↔ ∃ before after, driftWords text = before ++ word :: after ∧
      (∀ earlier ∈ before, HasCount earlier) ∧ ¬HasCount word := by
  rw [fault?_eq_find?, List.find?_eq_some_iff_append]
  simp only [decide_not, Bool.not_not, Bool.not_eq_true', decide_eq_true_eq, decide_eq_false_iff_not]
  constructor
  · rintro ⟨bad, before, after, whole, good⟩
    exact ⟨before, after, whole, good, bad⟩
  · rintro ⟨before, after, whole, good, bad⟩
    exact ⟨bad, before, after, whole, good⟩

theorem fault?_eq_none_iff (text : Text) :
    fault? text = none ↔ ∀ word ∈ driftWords text, HasCount word := by
  rw [fault?_eq_find?, List.find?_eq_none]
  simp only [decide_not, Bool.not_eq_true', decide_eq_false_iff_not, not_not]

/-- A report is refused exactly when a drift key in key position has a word behind it without a
count, and then for the first such word of the text. -/
theorem read_refused_iff (reader : Reader) (text : Text) :
    ((∃ failure, (reader.read text).1 = .error failure) ↔
      ∃ line ∈ text.lines, ∃ words, line.words = ['#'] :: words ∧
        ∃ position ∈ keyPositions .drift words, ∃ word ∈ words.drop (position + 1),
          ¬Numeral.IsNumeral 4294967295 (word.drop 1)) ∧
    ∀ failure, (reader.read text).1 = .error failure ↔
      ∃ before word after, driftWords text = before ++ word :: after ∧
        (∀ earlier ∈ before, Numeral.IsNumeral 4294967295 (earlier.drop 1)) ∧
        ¬Numeral.IsNumeral 4294967295 (word.drop 1) ∧ failure = .badDrift word := by
  have refused : (∃ failure, (reader.read text).1 = .error failure) ↔
      ∃ word ∈ driftWords text, ¬HasCount word := by
    simp only [Reader.read_eq_error_iff]
    constructor
    · rintro ⟨failure, word, fault, -⟩
      obtain ⟨before, after, whole, -, bad⟩ := (fault?_eq_some_iff text word).mp fault
      exact ⟨word, whole ▸ List.mem_append_right before List.mem_cons_self, bad⟩
    · rintro ⟨word, member, bad⟩
      cases fault : fault? text with
      | none => exact absurd ((fault?_eq_none_iff text).mp fault word member) bad
      | some first => exact ⟨.badDrift first, first, rfl, rfl⟩
  constructor
  · rw [refused]
    simp only [mem_driftWords_iff, HasCount]
    constructor
    · rintro ⟨word, ⟨line, member, words, split, position, standing, inside⟩, bad⟩
      exact ⟨line, member, words, split, position, standing, word, inside, bad⟩
    · rintro ⟨line, member, words, split, position, standing, word, inside, bad⟩
      exact ⟨word, ⟨line, member, words, split, position, standing, inside⟩, bad⟩
  · intro failure
    rw [Reader.read_eq_error_iff]
    simp only [fault?_eq_some_iff, HasCount]
    constructor
    · rintro ⟨word, ⟨before, after, whole, good, bad⟩, named⟩
      exact ⟨before, word, after, whole, good, bad, named⟩
    · rintro ⟨before, word, after, whole, good, bad, named⟩
      exact ⟨word, ⟨before, after, whole, good, bad⟩, named⟩

end StatusPrompt.Report
