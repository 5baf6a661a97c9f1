/-
Unsigned machine words as natural numbers.

A sum or difference is reduced to the width of the variable that keeps it.  Where it
fits, it is the sum or difference of the natural numbers.
-/

import Mathlib.Data.Nat.Basic

namespace TzDriver.Lib

/-- The value kept in a `uint32_t`. -/
def u32 (value : Nat) : Nat :=
  value % 4294967296

/-- The value kept in a `size_t` or an `unsigned long` of 64 bits. -/
def u64 (value : Nat) : Nat :=
  value % 18446744073709551616

def sub32 (left right : Nat) : Nat :=
  u32 (left + (4294967296 - right))

def sub64 (left right : Nat) : Nat :=
  u64 (left + (18446744073709551616 - right))

theorem u32_of_lt {value : Nat} (small : value < 4294967296) : u32 value = value :=
  Nat.mod_eq_of_lt small

theorem sub32_of_le {left right : Nat} (ordered : right ≤ left) (small : left < 4294967296) :
    sub32 left right = left - right := by
  unfold sub32 u32
  omega

theorem sub64_of_le {left right : Nat} (ordered : right ≤ left)
    (small : left < 18446744073709551616) : sub64 left right = left - right := by
  unfold sub64 u64
  omega

end TzDriver.Lib
