import Mathlib.Algebra.GroupWithZero.Nat
import StatusPrompt.Change

/-!
Counters as numbers. A counter has a fixed width and starts again past its end, so what it holds
is what was counted as long as that fits; a tally is empty exactly if its sum is, which is told from
the counts only as long as the sum fits as well.
-/

namespace StatusPrompt

namespace Counter

@[simp]
theorem toNat_eq_zero_iff (count : UInt32) : count.toNat = 0 ↔ count = 0 :=
  @UInt32.toNat_inj count 0

@[simp]
theorem toNat_total_eq_zero_iff (total : UInt64) : total.toNat = 0 ↔ total = 0 :=
  @UInt64.toNat_inj total 0

theorem toNat_pos_iff (count : UInt32) : 0 < count.toNat ↔ 0 < count :=
  (@UInt32.lt_iff_toNat_lt 0 count).symm

end Counter

namespace Tally

theorem isChanged_iff (tally : Tally) : tally.isChanged = true ↔ tally.total ≠ 0 := by
  rw [isChanged, decide_eq_true_eq, UInt32.pos_iff_ne_zero]

/-- The sum of the counts, as far as it fits. -/
theorem toNat_total (tally : Tally) :
    tally.total.toNat = (tally.modified.toNat + tally.added.toNat + tally.deleted.toNat +
      tally.renamed.toNat + tally.copied.toNat) % 2 ^ 32 := by
  simp only [total, UInt32.toNat_add]
  omega

end Tally

end StatusPrompt
