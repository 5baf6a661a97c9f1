/-
Orders of blocks.

A block of order `k` has `2 ^ k` units.  The order of a size is the least one whose block
holds it; the highest bit of a number of units gives it.
-/

import Mathlib.Algebra.Ring.Nat
import Mathlib.Data.Nat.Log
import Mathlib.Order.Bounds.Basic

namespace TzDriver.Lib

/-- `order` is the least one whose block of `unit * 2 ^ order` holds `size`. -/
def LeastOrder (unit size order : Nat) : Prop :=
  IsLeast {level | size ≤ unit * 2 ^ level} order

namespace LeastOrder

variable {unit size order : Nat}

theorem fits (least : LeastOrder unit size order) : size ≤ unit * 2 ^ order :=
  least.1

theorem unique {other : Nat} (least : LeastOrder unit size order)
    (leastToo : LeastOrder unit size other) : order = other :=
  IsLeast.unique least leastToo

theorem of_half (holds : size ≤ unit * 2 ^ order)
    (half : ∀ lower, order = lower + 1 → unit * 2 ^ lower < size) : LeastOrder unit size order := by
  apply And.intro holds
  intro level enough
  cases order with
  | zero => exact Nat.zero_le level
  | succ lower =>
      apply Nat.succ_le_of_lt
      by_contra below
      have shorter := Nat.pow_le_pow_right (by decide : 0 < 2) (Nat.not_lt.mp below)
      have blocks := Nat.mul_le_mul_left unit shorter
      exact absurd (Nat.le_trans enough blocks) (Nat.not_le.mpr (half lower rfl))

/-- A least block is less than twice as large as needed, whole units being needed. -/
theorem block_lt (least : LeastOrder unit size order) (positive : 0 < unit) :
    unit * 2 ^ order < 2 * max size unit := by
  have first := Nat.le_max_left size unit
  have second := Nat.le_max_right size unit
  cases order with
  | zero =>
      rw [Nat.pow_zero, Nat.mul_one]
      omega
  | succ lower =>
      have tooSmall : unit * 2 ^ lower < size := by
        by_contra enough
        exact absurd (least.2 (Nat.not_lt.mp enough)) (Nat.not_succ_le_self lower)
      have double : unit * 2 ^ (lower + 1) = 2 * (unit * 2 ^ lower) := by
        rw [Nat.pow_succ, ← Nat.mul_assoc, Nat.mul_comm]
      omega

/-! ### Whole units -/

/-- Rounding a size up to whole units changes no comparison with a number of units. -/
theorem rounded_le_iff (positive : 0 < unit) (count : Nat) :
    (size + (unit - 1)) / unit * unit ≤ unit * count ↔ size ≤ unit * count := by
  rw [Nat.mul_comm unit count]
  constructor
  · intro below
    have rest := Nat.lt_div_mul_add positive (a := size + (unit - 1))
    omega
  · intro below
    apply Nat.mul_le_mul_right
    have upper : size + (unit - 1) < (count + 1) * unit := by
      rw [Nat.add_mul]
      omega
    exact Nat.lt_succ_iff.mp ((Nat.div_lt_iff_lt_mul positive).mpr upper)

theorem rounded_iff (positive : 0 < unit) :
    LeastOrder unit ((size + (unit - 1)) / unit * unit) order ↔ LeastOrder unit size order := by
  have same : {level | (size + (unit - 1)) / unit * unit ≤ unit * 2 ^ level} =
      {level | size ≤ unit * 2 ^ level} := by
    ext level
    exact rounded_le_iff positive (2 ^ level)
  unfold LeastOrder
  rw [same]

/-! ### The highest bit -/

theorem of_single (small : size ≤ unit) : LeastOrder unit size 0 := by
  apply of_half
  · rwa [Nat.pow_zero, Nat.mul_one]
  · intro lower impossible
    cases impossible

theorem of_log2 (positive : 0 < unit) (large : unit < size) :
    LeastOrder unit size (Nat.log2 ((size - 1) / unit) + 1) := by
  have nonzero : (size - 1) / unit ≠ 0 := by
    apply Nat.ne_of_gt
    exact Nat.div_pos (by omega) positive
  have low := Nat.log2_self_le nonzero
  have high := Nat.lt_log2_self (n := (size - 1) / unit)
  apply of_half
  · have below := (Nat.div_lt_iff_lt_mul positive).mp high
    rw [Nat.mul_comm]
    omega
  · intro lower same
    rw [← Nat.succ.inj same]
    have blocks := (Nat.le_div_iff_mul_le positive).mp low
    rw [Nat.mul_comm]
    omega

end LeastOrder

/-! ### Powers of two -/

theorem log2_div_two_pow (value shift : Nat) :
    Nat.log2 (value / 2 ^ shift) = Nat.log2 value - shift := by
  rw [Nat.log2_eq_log_two, Nat.log2_eq_log_two, Nat.log_div_base_pow]

/-- The highest bit of a number is the greatest power of two in it. -/
theorem isGreatest_two_pow_log2 {size : Nat} (positive : 0 < size) :
    IsGreatest {power | power.isPowerOfTwo ∧ power ≤ size} (2 ^ Nat.log2 size) := by
  have nonzero : size ≠ 0 := Nat.ne_of_gt positive
  apply And.intro ⟨⟨Nat.log2 size, rfl⟩, Nat.log2_self_le nonzero⟩
  rintro power ⟨⟨order, rfl⟩, below⟩
  exact Nat.pow_le_pow_right (by decide) ((Nat.le_log2 nonzero).mpr below)

theorem eq_two_pow_log2 {size : Nat} (power : size.isPowerOfTwo) : 2 ^ Nat.log2 size = size := by
  obtain ⟨order, rfl⟩ := power
  rw [Nat.log2_two_pow]

end TzDriver.Lib
