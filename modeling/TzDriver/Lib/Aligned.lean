/-
Aligned ranges: rounding by masks, and the least aligned cover of a range.

A mask that clears the low bits of a word rounds it down to a multiple of a power of two.
-/

import Mathlib.Data.Nat.Bitwise

namespace TzDriver.Lib

/-! ### Masks -/

theorem and_clearLow {width low value : Nat} (ordered : low ≤ width) (small : value < 2 ^ width) :
    value &&& (2 ^ width - 2 ^ low) = value / 2 ^ low * 2 ^ low := by
  have mask : 2 ^ width - 2 ^ low = (2 ^ (width - low) - 1) * 2 ^ low := by
    rw [Nat.sub_mul, Nat.one_mul, ← Nat.pow_add, Nat.sub_add_cancel ordered]
  apply Nat.eq_of_testBit_eq
  intro bit
  rw [mask, Nat.testBit_and, Nat.testBit_mul_two_pow, Nat.testBit_mul_two_pow,
    Nat.testBit_two_pow_sub_one, Nat.testBit_div_two_pow]
  by_cases inLow : low ≤ bit
  · have index : bit - low + low = bit := Nat.sub_add_cancel inLow
    simp only [inLow, decide_true, Bool.true_and, index]
    by_cases inWidth : bit < width
    · have inside : bit - low < width - low := by omega
      simp only [inside, decide_true, Bool.and_true]
    · have outside : ¬bit - low < width - low := by omega
      have high : value.testBit bit = false :=
        Nat.testBit_lt_two_pow
          (Nat.lt_of_lt_of_le small (Nat.pow_le_pow_right (by decide) (Nat.not_lt.mp inWidth)))
      simp only [outside, decide_false, Bool.and_false, high]
  · simp only [inLow, decide_false, Bool.false_and, Bool.and_false]

/-! ### Covers -/

/-- `count` units from `start` on are the least aligned cover of `[first, stop)`. -/
structure AlignedCover (unit first stop start count : Nat) : Prop where
  aligned : unit ∣ start
  below : start ≤ first
  above : stop ≤ start + count * unit
  least : ∀ otherStart otherCount, unit ∣ otherStart → otherStart ≤ first →
    stop ≤ otherStart + otherCount * unit →
      otherStart ≤ start ∧ start + count * unit ≤ otherStart + otherCount * unit

/-- The cover starts with the unit of the first cell, and the rest of that unit counts for the
number of units. -/
theorem alignedCover_of {unit first size : Nat} (positive : 0 < unit) :
    AlignedCover unit first (first + size) (first / unit * unit)
      ((first % unit + size + (unit - 1)) / unit) := by
  have split : first / unit * unit + first % unit = first := by
    rw [Nat.mul_comm]
    exact Nat.div_add_mod first unit
  have upper : (first % unit + size + (unit - 1)) / unit * unit ≤
      first % unit + size + (unit - 1) := Nat.div_mul_le_self _ _
  have lower : first % unit + size + (unit - 1) <
      (first % unit + size + (unit - 1)) / unit * unit + unit :=
    Nat.lt_div_mul_add positive
  constructor
  · exact Nat.dvd_mul_left unit _
  · exact Nat.div_mul_le_self _ _
  · omega
  · intro otherStart otherCount ⟨quotient, same⟩ before after
    subst same
    have quotientLe : quotient ≤ first / unit := by
      apply (Nat.le_div_iff_mul_le positive).mpr
      rw [Nat.mul_comm]
      exact before
    have startLe : unit * quotient ≤ first / unit * unit := by
      rw [Nat.mul_comm]
      exact Nat.mul_le_mul_right unit quotientLe
    apply And.intro startLe
    have ends : first / unit * unit + (first % unit + size + (unit - 1)) / unit * unit <
        unit * quotient + otherCount * unit + unit := by omega
    rw [← Nat.add_mul, Nat.mul_comm unit quotient, ← Nat.add_mul] at ends ⊢
    rw [← Nat.succ_mul] at ends
    exact Nat.mul_le_mul_right unit (Nat.lt_succ_iff.mp (Nat.lt_of_mul_lt_mul_right ends))

end TzDriver.Lib
