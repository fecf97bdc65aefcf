import StatusPrompt.Proofs.Text.Cutting
import StatusPrompt.Text.Numeral

/-!
What a numeral spells. The grammar stands on its own here: a plus sign that may be missing, then
digits only, and at least one of them. Reading accepts exactly the numerals whose value the
counter can hold, and gives that value.
-/

namespace StatusPrompt.Numeral

/-- The text is a numeral for the value. Leading zeros add nothing to it. -/
def Spells (text : Text) (value : Nat) : Prop :=
  ∃ digits : Text, (text = digits ∨ text = '+' :: digits) ∧ digits ≠ [] ∧
    (∀ c ∈ digits, '0' ≤ c ∧ c ≤ '9') ∧ ofDigits digits = value

def IsNumeral (limit : Nat) (text : Text) : Prop := ∃ value, value ≤ limit ∧ Spells text value

theorem isDigit_iff (c : Char) : isDigit c = true ↔ '0' ≤ c ∧ c ≤ '9' := by
  simp only [isDigit, Bool.and_eq_true, decide_eq_true_eq]

theorem dropPlus_eq_or (text : Text) : text = dropPlus text ∨ text = '+' :: dropPlus text := by
  unfold dropPlus
  split
  · exact Or.inr rfl
  · exact Or.inl rfl

/-- A plus sign is no digit, so dropping one leaves digits alone. -/
theorem dropPlus_digits (digits : Text) (all : ∀ c ∈ digits, '0' ≤ c ∧ c ≤ '9') :
    dropPlus digits = digits := by
  unfold dropPlus
  split
  next rest =>
    have plus : '0' ≤ '+' := (all '+' List.mem_cons_self).1
    exact absurd plus (by decide)
  next => rfl

theorem dropPlus_of_spells (text digits : Text) (all : ∀ c ∈ digits, '0' ≤ c ∧ c ≤ '9')
    (written : text = digits ∨ text = '+' :: digits) : dropPlus text = digits := by
  rcases written with plain | signed
  · rw [plain, dropPlus_digits digits all]
  · rw [signed, dropPlus]

theorem read?_eq_some_iff (limit : Nat) (text : Text) (value : Nat) :
    read? limit text = some value ↔ value ≤ limit ∧ Spells text value := by
  constructor
  · intro found
    unfold read? at found
    simp only [Bool.or_eq_true, List.isEmpty_iff, Bool.not_eq_true'] at found
    split at found
    next => exact absurd found (by simp)
    next proper =>
      split at found
      next bounded =>
        obtain rfl : ofDigits (dropPlus text) = value := Option.some.inj found
        have filled : dropPlus text ≠ [] := fun empty => proper (Or.inl empty)
        have all : ∀ c ∈ dropPlus text, isDigit c = true := by
          rw [← List.all_eq_true]
          exact Bool.of_not_eq_false fun some => proper (Or.inr some)
        exact ⟨bounded, dropPlus text, dropPlus_eq_or text, filled,
          fun c member => (isDigit_iff c).mp (all c member), rfl⟩
      next => exact absurd found (by simp)
  · rintro ⟨bounded, digits, written, filled, all, rfl⟩
    have digitwise : digits.all isDigit = true := by
      rw [List.all_eq_true]
      exact fun c member => (isDigit_iff c).mpr (all c member)
    have proper : digits.isEmpty = false := by simpa using filled
    simp only [read?, dropPlus_of_spells text digits all written, proper, digitwise,
      Bool.not_true, Bool.or_false, Bool.false_eq_true, ↓reduceIte, if_pos bounded]

theorem read?_eq_none_iff (limit : Nat) (text : Text) :
    read? limit text = none ↔ ¬IsNumeral limit text := by
  rw [Option.eq_none_iff_forall_ne_some]
  simp only [ne_eq, read?_eq_some_iff, IsNumeral, not_exists]

/-- A numeral that is read into 64 bits keeps its value. -/
theorem map_ofNat_read?_eq_some_iff (text : Text) (count : UInt64) :
    (read? totalLimit text).map UInt64.ofNat = some count ↔ Spells text count.toNat := by
  rw [Option.map_eq_some_iff]
  constructor
  · intro given
    obtain ⟨value, found, rfl⟩ := given
    obtain ⟨bounded, spelled⟩ := (read?_eq_some_iff _ _ _).mp found
    have fits : value < UInt64.size := Nat.lt_succ_of_le bounded
    rwa [UInt64.toNat_ofNat_of_lt' fits]
  · intro spelled
    have bounded : count.toNat ≤ totalLimit := Nat.le_of_lt_succ count.toNat_lt
    exact ⟨count.toNat, (read?_eq_some_iff _ _ _).mpr ⟨bounded, spelled⟩, UInt64.ofNat_toNat⟩

theorem write_ne_nil (value : Nat) : write value ≠ [] := Nat.toDigits_ne_nil

theorem isDigit_of_mem_write (value : Nat) : ∀ c ∈ write value, isDigit c = true := by
  intro c member
  have digit : c.isDigit = true := Nat.isDigit_of_mem_toDigits (by decide) (by decide) member
  simpa only [isDigit, Char.isDigit, Char.le_def, ge_iff_le, Bool.and_eq_true,
    decide_eq_true_eq] using digit

theorem not_blank_of_digit (c : Char) (digit : '0' ≤ c ∧ c ≤ '9') : isBlank c = false := by
  rw [← Bool.not_eq_true]
  intro blank
  have outside := Text.bounds_of_blank c blank
  simp only [Char.le_def, UInt32.le_iff_toNat_le, Char.reduceVal, UInt32.reduceToNat] at digit
  simp only [Char.toNat] at outside
  omega

theorem not_blank_of_mem_write (value : Nat) : ∀ c ∈ write value, isBlank c = false := by
  intro c member
  exact not_blank_of_digit c ((isDigit_iff c).mp (isDigit_of_mem_write value c member))

theorem ofDigits_write (value : Nat) : ofDigits (write value) = value :=
  Nat.ofDigitChars_ten_toDigits

end StatusPrompt.Numeral
