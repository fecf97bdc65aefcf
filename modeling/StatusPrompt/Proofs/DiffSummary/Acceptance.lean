import Mathlib.Algebra.GroupWithZero.Nat
import StatusPrompt.Proofs.Numeral
import StatusPrompt.Session

/-!
Which diff summaries are taken in. A line that is not blank is a record, and a record has to hold a
count of 64 bits in each of its first two fields. The records of a summary are gone through from
the top: if all of them hold their counts the two sums are added, and otherwise the summary is
refused for the first that does not, with nothing added.
-/

namespace StatusPrompt

namespace DiffSummary

def HoldsCount (position : Nat) (line : Text) (count : UInt64) : Prop :=
  ∃ field, (Text.fields '\t' line)[position]? = some field ∧ Numeral.Spells field.trim count.toNat

structure Gives (line : Text) (totals : Totals) : Prop where
  insertions : HoldsCount 0 line totals.insertions
  deletions : HoldsCount 1 line totals.deletions

/-- The field that a line is refused for. The second one is named only if the first is good. -/
inductive Faulty (line : Text) : CountField → Prop
  | insertion (bad : ¬∃ count, HoldsCount 0 line count) : Faulty line .insertion
  | deletion (good : ∃ count, HoldsCount 0 line count)
      (bad : ¬∃ count, HoldsCount 1 line count) : Faulty line .deletion

theorem count?_eq_some_iff (line : Text) (position : Nat) (count : UInt64) :
    count? (Text.fields '\t' line)[position]? = some count ↔ HoldsCount position line count := by
  rw [count?, Option.bind_eq_some_iff]
  simp only [Numeral.map_ofNat_read?_eq_some_iff]
  rfl

theorem count?_eq_none_iff (line : Text) (position : Nat) :
    count? (Text.fields '\t' line)[position]? = none ↔ ¬∃ count, HoldsCount position line count := by
  rw [Option.eq_none_iff_forall_ne_some, not_exists]
  simp only [ne_eq, count?_eq_some_iff]

theorem record_of_gives (line : Text) (totals : Totals) (gives : Gives line totals) :
    record line = .ok totals := by
  have first := (count?_eq_some_iff line 0 _).mpr gives.insertions
  have second := (count?_eq_some_iff line 1 _).mpr gives.deletions
  simp only [record, first, second]

theorem record_of_faulty (line : Text) (field : CountField) (fault : Faulty line field) :
    record line = .error (.badCount field line) := by
  cases fault with
  | insertion bad =>
    have first := (count?_eq_none_iff line 0).mpr bad
    simp only [record, first]
  | deletion good bad =>
    obtain ⟨count, holds⟩ := good
    have first := (count?_eq_some_iff line 0 count).mpr holds
    have second := (count?_eq_none_iff line 1).mpr bad
    simp only [record, first, second]

theorem exists_gives_iff (line : Text) :
    (∃ totals, Gives line totals) ↔
      (∃ count, HoldsCount 0 line count) ∧ ∃ count, HoldsCount 1 line count := by
  constructor
  · intro given
    obtain ⟨totals, gives⟩ := given
    exact ⟨⟨_, gives.insertions⟩, _, gives.deletions⟩
  · intro both
    obtain ⟨⟨insertions, inserted⟩, deletions, deleted⟩ := both
    exact ⟨⟨insertions, deletions⟩, inserted, deleted⟩

/-- A record gives its counts or is refused for one of them. -/
theorem gives_or_faulty (line : Text) :
    (∃ totals, Gives line totals) ∨ ∃ field, Faulty line field := by
  rw [exists_gives_iff]
  by_cases first : ∃ count, HoldsCount 0 line count
  · by_cases second : ∃ count, HoldsCount 1 line count
    · exact Or.inl ⟨first, second⟩
    · exact Or.inr ⟨.deletion, .deletion first second⟩
  · exact Or.inr ⟨.insertion, .insertion first⟩

theorem record_eq_ok_iff (line : Text) (totals : Totals) :
    record line = .ok totals ↔ Gives line totals := by
  refine ⟨?_, record_of_gives line totals⟩
  intro read
  rcases gives_or_faulty line with ⟨given, gives⟩ | ⟨field, fault⟩
  · rw [record_of_gives line given gives] at read
    rwa [← Except.ok.inj read]
  · rw [record_of_faulty line field fault] at read
    cases read

theorem record_eq_error_iff (line : Text) (failure : Failure) :
    record line = .error failure ↔ ∃ field, Faulty line field ∧ failure = .badCount field line := by
  constructor
  · intro refused
    rcases gives_or_faulty line with ⟨given, gives⟩ | ⟨field, fault⟩
    · rw [record_of_gives line given gives] at refused
      cases refused
    · rw [record_of_faulty line field fault] at refused
      exact ⟨field, fault, (Except.error.inj refused).symm⟩
  · intro bad
    obtain ⟨field, fault, rfl⟩ := bad
    exact record_of_faulty line field fault

theorem sum_cons_eq_ok_iff (line : Text) (rest : List Text) (totals : Totals) :
    sum (line :: rest) = .ok totals ↔
      ∃ first others, Gives line first ∧ sum rest = .ok others ∧ totals = first.add others := by
  simp only [← record_eq_ok_iff, sum]
  cases record line with
  | error failure => simp
  | ok first => cases sum rest <;> simp [eq_comm]

theorem sum_cons_eq_error_iff (line : Text) (rest : List Text) (failure : Failure) :
    sum (line :: rest) = .error failure ↔
      record line = .error failure ∨ (∃ first, Gives line first) ∧ sum rest = .error failure := by
  simp only [← record_eq_ok_iff, sum]
  cases record line with
  | error other => simp
  | ok first => cases sum rest <;> simp

theorem exists_sum_iff (lines : List Text) :
    (∃ totals, sum lines = .ok totals) ↔ ∀ line ∈ lines, ∃ totals, Gives line totals := by
  induction lines with
  | nil => exact ⟨fun _ => nofun, fun _ => ⟨{}, rfl⟩⟩
  | cons line rest ih =>
    rw [List.forall_mem_cons, ← ih]
    simp only [sum_cons_eq_ok_iff]
    constructor
    · intro summed
      obtain ⟨_, first, others, gives, later, -⟩ := summed
      exact ⟨⟨first, gives⟩, others, later⟩
    · intro each
      obtain ⟨⟨first, gives⟩, others, later⟩ := each
      exact ⟨_, first, others, gives, later, rfl⟩

def Totals.addAll (counts : List Totals) : Totals := counts.foldr Totals.add {}

theorem Totals.toNat_insertions_addAll (counts : List Totals) :
    (addAll counts).insertions.toNat =
      (counts.map fun count => count.insertions.toNat).sum % 2 ^ 64 := by
  induction counts with
  | nil => rfl
  | cons count rest ih =>
    simp only [addAll, List.foldr_cons, add, List.map_cons, List.sum_cons, UInt64.toNat_add] at ih ⊢
    omega

theorem Totals.toNat_deletions_addAll (counts : List Totals) :
    (addAll counts).deletions.toNat =
      (counts.map fun count => count.deletions.toNat).sum % 2 ^ 64 := by
  induction counts with
  | nil => rfl
  | cons count rest ih =>
    simp only [addAll, List.foldr_cons, add, List.map_cons, List.sum_cons, UInt64.toNat_add] at ih ⊢
    omega

theorem sum_eq_ok_iff (lines : List Text) (totals : Totals) :
    sum lines = .ok totals ↔
      ∃ counts, List.Forall₂ Gives lines counts ∧ totals = Totals.addAll counts := by
  induction lines generalizing totals with
  | nil =>
    constructor
    · intro read
      cases read
      exact ⟨[], .nil, rfl⟩
    · intro none
      obtain ⟨counts, given, rfl⟩ := none
      cases given
      rfl
  | cons line rest ih =>
    rw [sum_cons_eq_ok_iff]
    simp only [ih]
    constructor
    · intro summed
      obtain ⟨first, others, gives, ⟨counts, later, rfl⟩, rfl⟩ := summed
      exact ⟨first :: counts, .cons gives later, rfl⟩
    · intro counted
      obtain ⟨_, given, rfl⟩ := counted
      cases given with
      | cons gives later => exact ⟨_, _, gives, ⟨_, later, rfl⟩, rfl⟩

/-- The records that are gone through before a fault all give their counts. -/
theorem sum_eq_error_iff (lines : List Text) (failure : Failure) :
    sum lines = .error failure ↔ ∃ earlier line later, lines = earlier ++ line :: later ∧
      (∀ record ∈ earlier, ∃ totals, Gives record totals) ∧ record line = .error failure := by
  induction lines with
  | nil => simp [sum]
  | cons first rest ih =>
    rw [sum_cons_eq_error_iff, ih]
    constructor
    · intro refused
      rcases refused with refused | ⟨gives, earlier, line, later, rfl, sound, refused⟩
      · exact ⟨[], first, rest, rfl, nofun, refused⟩
      · exact ⟨first :: earlier, line, later, rfl, List.forall_mem_cons.mpr ⟨gives, sound⟩, refused⟩
    · intro found
      obtain ⟨earlier, line, later, split, sound, refused⟩ := found
      cases earlier with
      | nil =>
        obtain ⟨rfl, rfl⟩ := List.cons.inj split
        exact Or.inl refused
      | cons record more =>
        obtain ⟨rfl, rfl⟩ := List.cons.inj split
        obtain ⟨gives, others⟩ := List.forall_mem_cons.mp sound
        exact Or.inr ⟨gives, more, line, later, rfl, others, refused⟩

end DiffSummary

namespace Session

open Report DiffSummary

inductive Summarised (text : Text) (before : Reading) : Reading → Reply → Prop
  | added (counts : List Totals) (given : List.Forall₂ Gives (records text) counts)
      (insertions deletions : UInt64)
      (inserted : insertions.toNat = (before.snapshot.insertions.toNat +
        (counts.map fun count => count.insertions.toNat).sum) % 2 ^ 64)
      (deleted : deletions.toNat = (before.snapshot.deletions.toNat +
        (counts.map fun count => count.deletions.toNat).sum) % 2 ^ 64) :
      Summarised text before
        { before with snapshot := { before.snapshot with insertions, deletions } } .done
  | refused (earlier later : List Text) (line : Text) (field : CountField)
      (split : records text = earlier ++ line :: later)
      (sound : ∀ record ∈ earlier, ∃ totals, Gives record totals) (fault : Faulty line field) :
      Summarised text before before (.failed (.badCount field line))

section Summary

variable (reader : Reader) (reading : Reading) (text : Text)

theorem raised_eq_iff (before after : UInt64) (added : UInt64) (sum : Nat)
    (summed : added.toNat = sum % 2 ^ 64) :
    after.toNat = (before.toNat + sum) % 2 ^ 64 ↔ after = before + added := by
  rw [← UInt64.toNat_inj, UInt64.toNat_add, summed, Nat.add_mod_mod]

theorem apply_of_summarised (after : Reading) (reply : Reply)
    (summarised : Summarised text reading after reply) :
    apply reader reading (.addDiff text) = (after, reply) := by
  cases summarised with
  | added counts given insertions deletions inserted deleted =>
    have summed : totals text = .ok _ := (sum_eq_ok_iff (records text) _).mpr ⟨counts, given, rfl⟩
    rw [raised_eq_iff _ _ _ _ (Totals.toNat_insertions_addAll counts)] at inserted
    rw [raised_eq_iff _ _ _ _ (Totals.toNat_deletions_addAll counts)] at deleted
    simp only [apply, addTo, summed, inserted, deleted]
  | refused earlier later line field split sound fault =>
    have bad := record_of_faulty line field fault
    have summed : totals text = .error _ :=
      (sum_eq_error_iff (records text) _).mpr ⟨earlier, line, later, split, sound, bad⟩
    simp only [apply, addTo, summed]

theorem apply_done_iff :
    (apply reader reading (.addDiff text)).2 = .done ↔ ∃ added, totals text = .ok added := by
  simp only [apply, addTo]
  cases totals text <;> simp

theorem exists_summarised : ∃ after reply, Summarised text reading after reply := by
  cases summed : totals text with
  | ok added =>
    obtain ⟨counts, given, -⟩ := (sum_eq_ok_iff (records text) added).mp summed
    have insertions := Totals.toNat_insertions_addAll counts
    have deletions := Totals.toNat_deletions_addAll counts
    exact ⟨_, _, .added counts given _ _ ((raised_eq_iff _ _ _ _ insertions).mpr rfl)
      ((raised_eq_iff _ _ _ _ deletions).mpr rfl)⟩
  | error failure =>
    obtain ⟨earlier, line, later, split, sound, bad⟩ :=
      (sum_eq_error_iff (records text) failure).mp summed
    obtain ⟨field, fault, -⟩ := (record_eq_error_iff line failure).mp bad
    exact ⟨_, _, .refused earlier later line field split sound fault⟩

/-- A summary is taken in exactly when every line that is not blank holds a count in each of its
first two fields. It then adds the two sums, and otherwise it is refused for the first line that
does not, for the first such field in it, and adds nothing. -/
theorem apply_addDiff_iff :
    ((apply reader reading (.addDiff text)).2 = .done ↔
      ∀ line ∈ text.lines, line.isAllBlank = false →
        (∃ count, HoldsCount 0 line count) ∧ ∃ count, HoldsCount 1 line count) ∧
    ∀ after reply, apply reader reading (.addDiff text) = (after, reply) ↔
      Summarised text reading after reply := by
  obtain ⟨after, reply, summarised⟩ := exists_summarised reading text
  have applied := apply_of_summarised reader reading text after reply summarised
  constructor
  · simp only [apply_done_iff, totals, exists_sum_iff, records, List.mem_filter, exists_gives_iff,
      Bool.not_eq_true', and_imp]
  · intro other answer
    constructor
    · intro same
      rw [applied] at same
      obtain ⟨rfl, rfl⟩ := Prod.mk.inj same
      exact summarised
    · exact apply_of_summarised reader reading text other answer

/-- A line of tabs is blank, and a count may have a plus sign, zeros and blanks around it. -/
example : apply {} ⟨{}, 0⟩ (.addDiff "\t\t\r\n+007 \t 1\r\n".toList) =
    (⟨{ insertions := 7, deletions := 1 }, 0⟩, .done) := by rfl

end Summary

end Session

end StatusPrompt
