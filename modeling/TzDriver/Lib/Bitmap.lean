/-
Numbers that are given out by a bitmap: the first bit that is clear is taken.
-/

import Mathlib.Data.List.Nodup
import Mathlib.Data.Finset.Card
import Mathlib.Data.Finset.Range
import Mathlib.Data.Fintype.Card

namespace TzDriver.Lib.Bitmap

/-- The first clear bit among `count` bits from `pos` on. -/
def firstClear (bits : Nat → Bool) : Nat → Nat → Option Nat
  | 0, _ => none
  | count + 1, pos => if bits pos then firstClear bits count (pos + 1) else some pos

def set (bits : Nat → Bool) (number : Nat) (value : Bool) : Nat → Bool :=
  fun other => if other = number then value else bits other

variable {bits : Nat → Bool} {numbers : List Nat} {size : Nat}

theorem firstClear_some {count pos found : Nat} (finds : firstClear bits count pos = some found) :
    pos ≤ found ∧ found < pos + count ∧ bits found = false := by
  induction count generalizing pos with
  | zero => cases finds
  | succ count ih =>
      unfold firstClear at finds
      split at finds
      · obtain ⟨after, within, clear⟩ := ih finds
        exact ⟨by omega, by omega, clear⟩
      · next clear =>
          cases finds
          exact ⟨Nat.le_refl _, by omega, eq_false_of_ne_true clear⟩

theorem firstClear_none {count pos : Nat} :
    firstClear bits count pos = none ↔ ∀ number, pos ≤ number → number < pos + count →
      bits number = true := by
  induction count generalizing pos with
  | zero =>
      apply iff_of_true rfl
      intro number after within
      omega
  | succ count ih =>
      unfold firstClear
      cases here : bits pos with
      | false =>
          apply iff_of_false
          · intro impossible
            cases impossible
          · intro all
            have full := all pos (Nat.le_refl _) (by omega)
            rw [here] at full
            cases full
      | true =>
          rw [if_pos rfl, ih]
          constructor
          · intro rest number after within
            rcases Nat.eq_or_lt_of_le after with rfl | later
            · exact here
            · exact rest number later (by omega)
          · intro all number after within
            exact all number (by omega) (by omega)

/-- The bits that are set are the numbers that are out, each once. -/
structure Out (bits : Nat → Bool) (size : Nat) (numbers : List Nat) : Prop where
  distinct : numbers.Nodup
  below : ∀ number ∈ numbers, number < size
  marked : ∀ number, bits number = true ↔ number ∈ numbers

theorem Out.initial (size : Nat) : Out (fun _ => false) size [] := by
  constructor
  · exact List.nodup_nil
  · rintro number ⟨⟩
  · intro number
    exact iff_of_false Bool.false_ne_true List.not_mem_nil

theorem Out.take (out : Out bits size numbers) {number : Nat}
    (finds : firstClear bits size 0 = some number) :
    Out (set bits number true) size (numbers ++ [number]) := by
  obtain ⟨_, within, clear⟩ := firstClear_some finds
  have fresh : number ∉ numbers := by
    intro member
    rw [(out.marked number).mpr member] at clear
    cases clear
  constructor
  · rw [List.nodup_append_comm]
    exact List.nodup_cons.mpr ⟨fresh, out.distinct⟩
  · intro other member
    rcases List.mem_append.mp member with old | new
    · exact out.below other old
    · rw [List.mem_singleton.mp new]
      omega
  · intro other
    rw [List.mem_append, List.mem_singleton]
    unfold set
    split
    · next same => exact iff_of_true rfl (.inr same)
    · next different =>
        rw [out.marked other]
        exact ⟨.inl, fun either => either.resolve_right different⟩

theorem Out.giveBack (out : Out bits size numbers) {number : Nat} :
    Out (set bits number false) size (numbers.erase number) := by
  constructor
  · exact out.distinct.erase number
  · intro other member
    exact out.below other (List.mem_of_mem_erase member)
  · intro other
    rw [out.distinct.mem_erase_iff]
    unfold set
    split
    · next same => exact iff_of_false Bool.false_ne_true fun both => both.1 same
    · next different =>
        rw [out.marked other]
        exact ⟨fun member => ⟨different, member⟩, And.right⟩

theorem Out.of_perm (out : Out bits size numbers) {others : List Nat}
    (same : numbers.Perm others) : Out bits size others := by
  constructor
  · exact same.nodup_iff.mp out.distinct
  · intro number member
    exact out.below number (same.mem_iff.mpr member)
  · intro number
    rw [out.marked number]
    exact same.mem_iff

theorem Out.full_iff (out : Out bits size numbers) :
    firstClear bits size 0 = none ↔ numbers.length = size := by
  have inside : numbers.toFinset ⊆ Finset.range size := by
    intro number member
    exact Finset.mem_range.mpr (out.below number (List.mem_toFinset.mp member))
  have card : numbers.toFinset.card = numbers.length := List.toFinset_card_of_nodup out.distinct
  rw [firstClear_none]
  constructor
  · intro all
    have whole : numbers.toFinset = Finset.range size := by
      apply Finset.Subset.antisymm inside
      intro number member
      have within : number < size := Finset.mem_range.mp member
      exact List.mem_toFinset.mpr ((out.marked number).mp (all number (Nat.zero_le _) (by omega)))
    rw [← card, whole, Finset.card_range]
  · intro full number _ within
    have whole : numbers.toFinset = Finset.range size := by
      apply Finset.eq_of_subset_of_card_le inside
      rw [Finset.card_range, card, full]
    rw [out.marked, ← List.mem_toFinset, whole, Finset.mem_range]
    omega

end TzDriver.Lib.Bitmap
