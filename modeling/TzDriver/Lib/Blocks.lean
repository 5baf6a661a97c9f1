/-
Heaps of numbered blocks.

A heap keeps the ledger of what was taken from it and given back.  A block gets the next
number when it is taken, so that no block is taken twice, and one that is given back was
freed exactly once when the ledger does not refuse it.
-/

import TzDriver.Lib.Ledger

namespace TzDriver.Lib

namespace Ledger

variable {Resource : Type} [DecidableEq Resource]

theorem count_of_held {before after : Multiset Resource} {entries : List (Entry Resource)}
    (ran : held before entries = some after) (resource : Resource) :
    before.count resource + entries.count (.acquire resource) =
      after.count resource + entries.count (.release resource) := by
  induction entries generalizing before with
  | nil => rw [Option.some.inj ran, List.count_nil, List.count_nil]
  | cons entry rest ih =>
      cases entry with
      | acquire taken =>
          have counted := ih ran
          by_cases same : taken = resource
          · subst same
            rw [Multiset.count_cons_self] at counted
            rw [List.count_cons_self, List.count_cons_of_ne (by simp)]
            omega
          · rw [Multiset.count_cons_of_ne (fun equal => same equal.symm)] at counted
            rw [List.count_cons_of_ne (fun equal => same (Entry.acquire.inj equal)),
              List.count_cons_of_ne (by simp)]
            exact counted
      | release given =>
          simp only [held] at ran
          split at ran
          · next member =>
              have counted := ih ran
              by_cases same : given = resource
              · subst same
                have positive := Multiset.count_pos.mpr member
                rw [Multiset.count_erase_self] at counted
                rw [List.count_cons_self, List.count_cons_of_ne (by simp)]
                omega
              · rw [Multiset.count_erase_of_ne (fun equal => same equal.symm)] at counted
                rw [List.count_cons_of_ne (by simp),
                  List.count_cons_of_ne (fun equal => same (Entry.release.inj equal))]
                exact counted
          · cases ran

end Ledger

structure Heap.Block (Kind : Type) where
  kind : Kind
  number : Nat
deriving DecidableEq, Repr

structure Heap (Kind : Type) [DecidableEq Kind] where
  next : Nat
  trace : List (Entry (Heap.Block Kind))
  numbered : ∀ block, Entry.acquire block ∈ trace → block.number < next
  once : ∀ block, trace.count (.acquire block) ≤ 1

namespace Heap

variable {Kind : Type} [DecidableEq Kind]

def empty : Heap Kind :=
  { next := 0
    trace := []
    numbered := by
      intro block member
      cases member
    once := by
      intro block
      exact Nat.zero_le 1 }

variable (heap : Heap Kind)

def block (kind : Kind) : Block Kind :=
  ⟨kind, heap.next⟩

def take (kind : Kind) : Heap Kind :=
  { next := heap.next + 1
    trace := heap.trace ++ [.acquire (heap.block kind)]
    numbered := by
      intro other member
      rcases List.mem_append.mp member with older | new
      · exact Nat.lt_succ_of_lt (heap.numbered other older)
      · rw [Entry.acquire.inj (List.mem_singleton.mp new)]
        exact Nat.lt_succ_self heap.next
    once := by
      intro other
      rw [List.count_append]
      by_cases same : heap.block kind = other
      · subst same
        have unused : Entry.acquire (heap.block kind) ∉ heap.trace := by
          intro taken
          exact Nat.lt_irrefl _ (heap.numbered _ taken)
        rw [List.count_eq_zero_of_not_mem unused, List.count_singleton_self]
      · rw [List.count_cons_of_ne (fun equal => same (Entry.acquire.inj equal)), List.count_nil]
        exact heap.once other }

def give (block : Block Kind) : Heap Kind :=
  { next := heap.next
    trace := heap.trace ++ [.release block]
    numbered := by
      intro other member
      rcases List.mem_append.mp member with older | new
      · exact heap.numbered other older
      · cases List.mem_singleton.mp new
    once := by
      intro other
      rw [List.count_append, List.count_cons_of_ne (by simp), List.count_nil]
      exact heap.once other }

/-- The ledger leaves exactly these blocks. -/
def Holds (blocks : Multiset (Block Kind)) : Prop :=
  Ledger.held 0 heap.trace = some blocks

variable {heap} {blocks : Multiset (Block Kind)} {block : Block Kind}

theorem Holds.empty : (empty : Heap Kind).Holds 0 :=
  rfl

theorem Holds.take (holds : heap.Holds blocks) (kind : Kind) :
    (heap.take kind).Holds (heap.block kind ::ₘ blocks) :=
  Ledger.held_append_some holds _

theorem Holds.give (holds : heap.Holds (block ::ₘ blocks)) : (heap.give block).Holds blocks :=
  (Ledger.held_append_some holds _).trans (Ledger.held_release blocks block)

/-- A block that was taken has been given back exactly once or is among those left. -/
theorem Holds.given_or_left (holds : heap.Holds blocks) (taken : .acquire block ∈ heap.trace) :
    (heap.trace.count (.release block) = 1 ∧ block ∉ blocks) ∨
      (heap.trace.count (.release block) = 0 ∧ block ∈ blocks) := by
  have counted := Ledger.count_of_held holds block
  have single : heap.trace.count (.acquire block) = 1 :=
    Nat.le_antisymm (heap.once block) (List.count_pos_iff.mpr taken)
  rw [Multiset.count_zero, single] at counted
  by_cases left : block ∈ blocks
  · have positive := Multiset.count_pos.mpr left
    exact Or.inr ⟨by omega, left⟩
  · rw [Multiset.count_eq_zero_of_notMem left] at counted
    exact Or.inl ⟨by omega, left⟩

end Heap

end TzDriver.Lib
