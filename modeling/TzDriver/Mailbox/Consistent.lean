/-
The allocator's invariant and its preservation by `mailbox_alloc` and
`mailbox_free`.

The free blocks, the live blocks and the block a running `mailbox_free` has in
its hands tile the pool.  The descriptor of a block's first page carries the
block's order; every other descriptor is `order -1, count 0`.
-/

import Mathlib.Data.List.Nodup
import TzDriver.Mailbox.Mempool

namespace TzDriver.Mailbox

open TzDriver.Lib
open Mempool

def Mempool.freeBlocks (pool : Mempool) : Set Block :=
  {block | block.start ∈ pool.freeAreas block.order}

def Mempool.whole (pool : Mempool) : Block := ⟨0, pool.maxOder⟩

/-- `own` is empty between calls; inside the merge loop it is the block under
`page`, which is on no list and which no caller holds any more. -/
structure Consistent (pool : Mempool) (live own : Set Block) : Prop where
  tiles : Tiles pool.whole (pool.freeBlocks ∪ (live ∪ own))
  listed : ∀ order, (pool.freeAreas order).Nodup
  notHeld : ∀ block ∈ pool.freeBlocks, block ∉ live ∪ own
  notOwn : ∀ block ∈ live, block ∉ own
  orderMark : ∀ block ∈ pool.freeBlocks ∪ (live ∪ own),
    (pool.pages block.start).order = block.order
  -- a block of the maximal order is freed without clearing its count
  freeCount : ∀ block ∈ pool.freeBlocks, block.order < pool.maxOder →
    (pool.pages block.start).count = 0
  liveCount : ∀ block ∈ live, (pool.pages block.start).count = 1
  tailMark : ∀ page < 2 ^ pool.maxOder,
    (∀ block ∈ pool.freeBlocks ∪ (live ∪ own), block.start ≠ page) →
      pool.pages page = { order := -1, count := 0 }

namespace Consistent

variable {pool : Mempool} {live own : Set Block}

theorem block_bounds (good : Consistent pool live own) {block : Block}
    (member : block ∈ pool.freeBlocks ∪ (live ∪ own)) :
    block.start + 2 ^ block.order ≤ 2 ^ pool.maxOder := by
  have positive := Nat.two_pow_pos block.order
  have last := good.tiles.inside block member (block.start + 2 ^ block.order - 1)
    ⟨by omega, by omega⟩
  have below := last.2
  simp only [whole, Nat.zero_add] at below
  omega

theorem order_le (good : Consistent pool live own) {block : Block}
    (member : block ∈ pool.freeBlocks ∪ (live ∪ own)) : block.order ≤ pool.maxOder := by
  have bound := good.block_bounds member
  exact (Nat.pow_le_pow_iff_right (by decide)).mp (Nat.le_trans (Nat.le_add_left _ _) bound)

theorem start_lt (good : Consistent pool live own) {block : Block}
    (member : block ∈ pool.freeBlocks ∪ (live ∪ own)) : block.start < 2 ^ pool.maxOder := by
  have bound := good.block_bounds member
  have positive := Nat.two_pow_pos block.order
  omega

end Consistent

/-! ### List and descriptor updates -/

section Updates

variable (pool : Mempool)

@[simp] theorem setPage_freeAreas (index : Nat) (page : MbPage) :
    (pool.setPage index page).freeAreas = pool.freeAreas := rfl

@[simp] theorem setPage_maxOder (index : Nat) (page : MbPage) :
    (pool.setPage index page).maxOder = pool.maxOder := rfl

@[simp] theorem listDel_pages (index : Nat) : (pool.listDel index).pages = pool.pages := rfl

@[simp] theorem listDel_maxOder (index : Nat) :
    (pool.listDel index).maxOder = pool.maxOder := rfl

@[simp] theorem listAddTail_pages (area index : Nat) :
    (pool.listAddTail area index).pages = pool.pages := rfl

@[simp] theorem listAddTail_maxOder (area index : Nat) :
    (pool.listAddTail area index).maxOder = pool.maxOder := rfl

theorem setPage_pages_self (index : Nat) (page : MbPage) :
    (pool.setPage index page).pages index = page := Function.update_self _ _ _

theorem setPage_pages_other {index other : Nat} (page : MbPage) (different : other ≠ index) :
    (pool.setPage index page).pages other = pool.pages other :=
  Function.update_of_ne different _ _

@[simp] theorem setPage_freeBlocks (index : Nat) (page : MbPage) :
    (pool.setPage index page).freeBlocks = pool.freeBlocks := rfl

/-- `buddy->order` and `self->order` after the two blocks were combined. -/
def combined (low high order : Nat) : Mempool :=
  (pool.setOrder low (order + 1)).setOrder high (-1)

theorem combined_low {low high : Nat} (order : Nat) (different : low ≠ high) :
    ((combined pool low high order).pages low).order = ((order + 1 : Nat) : Int) := by
  unfold combined setOrder
  rw [setPage_pages_other _ _ different, setPage_pages_self]
  rfl

theorem combined_high {low high : Nat} (order : Nat) (different : low ≠ high)
    (idle : (pool.pages high).count = 0) :
    (combined pool low high order).pages high = { order := -1, count := 0 } := by
  unfold combined setOrder
  rw [setPage_pages_self, setPage_pages_other _ _ different.symm, idle]

theorem combined_other {low high page : Nat} (order : Nat) (notLow : page ≠ low)
    (notHigh : page ≠ high) : (combined pool low high order).pages page = pool.pages page := by
  unfold combined setOrder
  rw [setPage_pages_other _ _ notHigh, setPage_pages_other _ _ notLow]

theorem listDel_freeBlocks (index : Nat) :
    (pool.listDel index).freeBlocks = {block ∈ pool.freeBlocks | block.start ≠ index} := by
  ext block
  simp [Mempool.freeBlocks, Mempool.listDel]

theorem listAddTail_freeBlocks (area index : Nat) :
    (pool.listAddTail area index).freeBlocks = insert ⟨index, area⟩ pool.freeBlocks := by
  ext ⟨start, order⟩
  simp only [Mempool.freeBlocks, Mempool.listAddTail, Set.mem_ofPred_eq, Set.mem_insert_iff,
    Block.mk.injEq]
  by_cases same : order = area
  · subst order
    rw [Function.update_self, List.mem_append, List.mem_singleton, or_comm]
    simp only [and_true]
  · rw [Function.update_of_ne same]
    simp [same]

theorem listDel_listed (index : Nat) (listed : ∀ order, (pool.freeAreas order).Nodup) :
    ∀ order, ((pool.listDel index).freeAreas order).Nodup :=
  fun order => (listed order).filter _

theorem listAddTail_listed {area index : Nat} (fresh : index ∉ pool.freeAreas area)
    (listed : ∀ order, (pool.freeAreas order).Nodup) :
    ∀ order, ((pool.listAddTail area index).freeAreas order).Nodup := by
  intro order
  by_cases same : order = area
  · subst order
    simp only [Mempool.listAddTail, Function.update_self]
    exact List.Nodup.append (listed _) (List.nodup_singleton _)
      (List.disjoint_singleton.mpr fresh)
  · simp only [Mempool.listAddTail, Function.update_of_ne same]
    exact listed order

end Updates

/-- What no allocation or release of pages changes. -/
def Mempool.frame (pool : Mempool) : Nat × Nat × Nat × (Nat → UInt8) :=
  (pool.maxOder, pool.pageMax, pool.allPages, pool.memory)

theorem mergeLoop_frame (left : Nat) (pool : Mempool) (start order : Nat) :
    (mergeLoop left pool start order).frame = pool.frame := by
  induction left generalizing pool start order with
  | zero =>
      unfold mergeLoop addMaxOrderBlock
      split <;> rfl
  | succ left ih =>
      unfold mergeLoop
      dsimp only
      split
      · split <;> rw [ih] <;> rfl
      · rfl

theorem splitLoop_frame (pool : Mempool) (pos : Nat) (orders : List Nat) :
    (pool.splitLoop pos orders).frame = pool.frame := by
  induction orders generalizing pool with
  | nil => rfl
  | cons order rest ih =>
      unfold splitLoop
      rw [ih]
      rfl

theorem mailboxFree_frame (pool : Mempool) (ptr : Nat) :
    (pool.mailboxFree ptr).frame = pool.frame := by
  unfold mailboxFree
  split
  · rfl
  · dsimp only
    split
    · rfl
    · exact mergeLoop_frame _ _ _ _

/-! ### The merge loop -/

@[simp] theorem unsignedOrder_natCast {order : Nat} (small : order < 2 ^ 32) :
    unsignedOrder order = order := by
  unfold unsignedOrder
  rw [Int.emod_eq_of_lt (Int.natCast_nonneg _) (by exact_mod_cast small), Int.toNat_natCast]

theorem unsignedOrder_neg_one : unsignedOrder (-1) = 2 ^ 32 - 1 := by decide

namespace Consistent

variable {pool : Mempool} {live own : Set Block}

theorem release (good : Consistent pool live {⟨start, order⟩})
    (cleared : order < pool.maxOder → (pool.pages start).count = 0) :
    Consistent (pool.listAddTail order start) live ∅ := by
  have inHand : (⟨start, order⟩ : Block) ∈ live ∪ {⟨start, order⟩} := Or.inr rfl
  have fresh : start ∉ pool.freeAreas order := fun listed =>
    good.notHeld ⟨start, order⟩ listed inHand
  have blocks := listAddTail_freeBlocks pool order start
  have all : (pool.listAddTail order start).freeBlocks ∪ (live ∪ ∅) =
      pool.freeBlocks ∪ (live ∪ {⟨start, order⟩}) := by
    rw [blocks]
    ext block
    simp only [Set.mem_union, Set.mem_insert_iff, Set.mem_singleton_iff, Set.mem_empty_iff_false,
      or_false]
    tauto
  refine ⟨?_, listAddTail_listed pool fresh good.listed, ?_, ?_, ?_, ?_, good.liveCount, ?_⟩
  · rw [all]
    exact good.tiles
  · intro block member held
    rw [blocks] at member
    rw [Set.union_empty] at held
    rcases member with rfl | old
    · exact good.notOwn _ held rfl
    · exact good.notHeld block old (Or.inl held)
  · intro block _ none
    exact none
  · rw [all]
    exact good.orderMark
  · intro block member below
    rw [blocks] at member
    rcases member with rfl | old
    · exact cleared below
    · exact good.freeCount block old below
  · rw [all]
    exact good.tailMark

/-- A block that looks free at its own order is on the list of that order. -/
theorem listed_of_marks (good : Consistent pool live own) {index order : Nat}
    (inPool : index < 2 ^ pool.maxOder) (small : pool.maxOder < 2 ^ 32 - 1)
    (below : order < pool.maxOder) (notOwn : ∀ block ∈ own, block.start ≠ index)
    (marked : unsignedOrder (pool.pages index).order = order)
    (idle : (pool.pages index).count = 0) : index ∈ pool.freeAreas order := by
  by_cases head : ∃ block ∈ pool.freeBlocks ∪ (live ∪ own), block.start = index
  · obtain ⟨block, member, rfl⟩ := head
    have mark := good.orderMark block member
    have bound := good.order_le member
    rw [mark, unsignedOrder_natCast (by omega)] at marked
    rcases member with free | held | mine
    · exact marked ▸ free
    · have busy := good.liveCount block held
      omega
    · exact absurd rfl (notOwn block mine)
  · -- a page that heads no block carries -1, which no order below the maximum equals
    have tail := good.tailMark index inPool (fun block member same => head ⟨block, member, same⟩)
    rw [tail, unsignedOrder_neg_one] at marked
    omega

section Merge

variable {start order : Nat}

theorem free_start_ne (good : Consistent pool live {⟨start, order⟩}) {block : Block}
    (member : block ∈ pool.freeBlocks) : block.start ≠ start := by
  intro same
  have equal := good.tiles.start_injective (Or.inl member) (Or.inr (Or.inr rfl)) same
  exact good.notHeld block member (Or.inr equal)

theorem live_start_ne (good : Consistent pool live {⟨start, order⟩}) {block : Block}
    (held : block ∈ live) : block.start ≠ start := by
  intro same
  have equal := good.tiles.start_injective (Or.inr (Or.inl held)) (Or.inr (Or.inr rfl)) same
  exact good.notOwn block held equal

theorem live_start_ne_free (good : Consistent pool live own) {block free : Block}
    (held : block ∈ live) (listed : free ∈ pool.freeBlocks) : block.start ≠ free.start := by
  intro same
  have equal := good.tiles.start_injective (Or.inr (Or.inl held)) (Or.inl listed) same
  exact good.notHeld _ listed (Or.inl (equal ▸ held))

theorem merge_blocks (good : Consistent pool live {⟨start, order⟩}) {buddy : Nat}
    (buddyFree : (⟨buddy, order⟩ : Block) ∈ pool.freeBlocks) (wide : Block) :
    {block ∈ pool.freeBlocks | block.start ≠ buddy} ∪ (live ∪ {wide}) =
      (pool.freeBlocks ∪ (live ∪ {⟨start, order⟩})) \ {⟨start, order⟩, ⟨buddy, order⟩} ∪
        {wide} := by
  have stays {block : Block} (notSelf : block.start ≠ start) (notBuddy : block.start ≠ buddy) :
      block ∉ ({⟨start, order⟩, ⟨buddy, order⟩} : Set Block) := by
    intro either
    rcases either with same | same
    · exact notSelf (congrArg Block.start same)
    · exact notBuddy (congrArg Block.start same)
  ext block
  constructor
  · intro either
    rcases either with ⟨free, other⟩ | held | new
    · exact Or.inl ⟨Or.inl free, stays (good.free_start_ne free) other⟩
    · exact Or.inl ⟨Or.inr (Or.inl held),
        stays (good.live_start_ne held) (good.live_start_ne_free held buddyFree)⟩
    · exact Or.inr new
  · intro either
    rcases either with ⟨free | held | mine, other⟩ | new
    · refine Or.inl ⟨free, ?_⟩
      intro same
      have equal := good.tiles.start_injective (Or.inl free) (Or.inl buddyFree) same
      exact other (Or.inr equal)
    · exact Or.inr (Or.inl held)
    · exact absurd (Or.inl mine) other
    · exact Or.inr (Or.inr new)

/-- One merge: the block in hand and its free buddy become the block one order
up, headed by the lower of the two pages. -/
theorem merge (good : Consistent pool live {⟨start, order⟩})
    (buddyFree : start ^^^ 2 ^ order ∈ pool.freeAreas order)
    (idle : (pool.pages (start ^^^ 2 ^ order)).count = 0) (low high : Nat)
    (sides : low = min start (start ^^^ 2 ^ order) ∧ high = max start (start ^^^ 2 ^ order)) :
    Consistent (combined ((pool.setCount start 0).listDel (start ^^^ 2 ^ order)) low high order)
      live {⟨low, order + 1⟩} := by
  set buddy := start ^^^ 2 ^ order with buddyDef
  have inHand : (⟨start, order⟩ : Block) ∈ pool.freeBlocks ∪ (live ∪ {⟨start, order⟩}) :=
    Or.inr (Or.inr rfl)
  have aligned : 2 ^ order ∣ start := good.tiles.aligned _ inHand
  obtain ⟨wide, pair⟩ := Tiles.buddies aligned
  rw [← buddyDef] at wide pair
  have lowIs := sides.1
  set after := combined ((pool.setCount start 0).listDel buddy) low high order with afterDef
  have ends : (low = start ∧ high = buddy) ∨ (low = buddy ∧ high = start) := by
    rcases Nat.le_total start buddy with le | le
    · exact Or.inl ⟨by rw [sides.1, Nat.min_eq_left le], by rw [sides.2, Nat.max_eq_right le]⟩
    · exact Or.inr ⟨by rw [sides.1, Nat.min_eq_right le], by rw [sides.2, Nat.max_eq_left le]⟩
  have different : start ≠ buddy := by
    rcases buddy_cases aligned with ⟨_, up⟩ | ⟨room, _, down⟩ <;>
      have positive := Nat.two_pow_pos order <;> omega
  have buddyMem : (⟨buddy, order⟩ : Block) ∈ pool.freeBlocks := buddyFree
  have sidesApart : low ≠ high := by
    rcases ends with ⟨lowEq, highEq⟩ | ⟨lowEq, highEq⟩ <;> omega
  have highIdle : (((pool.setCount start 0).listDel buddy).pages high).count = 0 := by
    rw [listDel_pages, setCount]
    rcases ends with ⟨_, highEq⟩ | ⟨_, highEq⟩ <;> rw [highEq]
    · rw [setPage_pages_other _ _ different.symm]
      exact idle
    · rw [setPage_pages_self]
  have others (page : Nat) (notLow : page ≠ low) (notHigh : page ≠ high) :
      after.pages page = pool.pages page := by
    have notStart : page ≠ start := by
      rcases ends with ⟨lowEq, highEq⟩ | ⟨lowEq, highEq⟩ <;> omega
    rw [afterDef, combined_other _ _ notLow notHigh, listDel_pages, setCount,
      setPage_pages_other _ _ notStart]
  have freeNow : after.freeBlocks = {block ∈ pool.freeBlocks | block.start ≠ buddy} := by
    rw [← listDel_freeBlocks]
    rfl
  have all := good.merge_blocks buddyMem ⟨low, order + 1⟩
  rw [← freeNow] at all
  -- every block that survives starts away from both merged pages
  have keepsPage {block : Block} (notSelf : block.start ≠ start) (notBuddy : block.start ≠ buddy) :
      after.pages block.start = pool.pages block.start := by
    apply others
    · rcases ends with ⟨lowEq, _⟩ | ⟨lowEq, _⟩ <;> omega
    · rcases ends with ⟨_, highEq⟩ | ⟨_, highEq⟩ <;> omega
  have freePage {block : Block} (free : block ∈ after.freeBlocks) :
      block ∈ pool.freeBlocks ∧ after.pages block.start = pool.pages block.start := by
    rw [freeNow] at free
    exact ⟨free.1, keepsPage (good.free_start_ne free.1) free.2⟩
  have livePage {block : Block} (held : block ∈ live) :
      after.pages block.start = pool.pages block.start :=
    keepsPage (good.live_start_ne held) (good.live_start_ne_free held buddyMem)
  refine ⟨?_, listDel_listed pool buddy good.listed, ?_, ?_, ?_, ?_, ?_, ?_⟩
  · rw [all]
    refine good.tiles.coarsen ⟨low, order + 1⟩ {⟨start, order⟩, ⟨buddy, order⟩} (lowIs ▸ wide) ?_
      (lowIs ▸ pair)
    intro block either
    rcases either with rfl | rfl
    · exact inHand
    · exact Or.inl buddyMem
  · intro block free either
    rcases either with held | rfl
    · exact good.notHeld block (freePage free).1 (Or.inl held)
    · have lowFree := (freePage free).1
      rcases ends with ⟨lowEq, _⟩ | ⟨lowEq, _⟩
      · exact good.free_start_ne lowFree lowEq
      · have mark := good.tiles.start_injective (Or.inl lowFree) (Or.inl buddyMem) lowEq
        have orders := congrArg Block.order mark
        simp only at orders
        omega
  · intro block held equal
    subst equal
    rcases ends with ⟨lowEq, _⟩ | ⟨lowEq, _⟩
    · exact good.live_start_ne held lowEq
    · exact good.live_start_ne_free held buddyMem lowEq
  · intro block either
    rcases either with free | held | rfl
    · rw [(freePage free).2]
      exact good.orderMark block (Or.inl (freePage free).1)
    · rw [livePage held]
      exact good.orderMark block (Or.inr (Or.inl held))
    · exact combined_low _ _ sidesApart
  · intro block free below
    rw [(freePage free).2]
    exact good.freeCount block (freePage free).1 below
  · intro block held
    rw [livePage held]
    exact good.liveCount block held
  · intro page inPool noHead
    by_cases atLow : page = low
    · exact absurd atLow.symm (noHead ⟨low, order + 1⟩ (Or.inr (Or.inr rfl)))
    · by_cases atHigh : page = high
      · rw [atHigh]
        exact combined_high _ _ sidesApart highIdle
      · rw [others page atLow atHigh]
        refine good.tailMark page inPool fun block member same => ?_
        by_cases gone : block ∈ ({⟨start, order⟩, ⟨buddy, order⟩} : Set Block)
        · rcases gone with rfl | rfl <;> rcases ends with ⟨lowEq, highEq⟩ | ⟨lowEq, highEq⟩ <;>
            simp only at same <;> omega
        · exact noHead block (all ▸ Or.inl ⟨member, gone⟩) same

end Merge

theorem clearCount {start order : Nat} (good : Consistent pool live {⟨start, order⟩}) :
    Consistent (pool.setCount start 0) live {⟨start, order⟩} := by
  have inHand : (⟨start, order⟩ : Block) ∈ pool.freeBlocks ∪ (live ∪ {⟨start, order⟩}) :=
    Or.inr (Or.inr rfl)
  have self : (pool.setCount start 0).pages start =
      { order := (pool.pages start).order, count := 0 } := setPage_pages_self _ _ _
  have other {page : Nat} (different : page ≠ start) :
      (pool.setCount start 0).pages page = pool.pages page :=
    setPage_pages_other _ _ different
  have liveStart (block : Block) (held : block ∈ live) : block.start ≠ start :=
    fun same => good.notOwn block held
      (good.tiles.start_injective (Or.inr (Or.inl held)) inHand same)
  refine ⟨good.tiles, good.listed, good.notHeld, good.notOwn, ?_, ?_, ?_, ?_⟩
  · intro block member
    have mark := good.orderMark block member
    by_cases same : block.start = start
    · rw [same, self, ← mark, same]
    · rw [other same, mark]
  · intro block free below
    by_cases same : block.start = start
    · rw [same, self]
    · rw [other same]
      exact good.freeCount block free below
  · intro block held
    rw [other (liveStart block held)]
    exact good.liveCount block held
  · intro page below noHead
    rw [other fun same => noHead ⟨start, order⟩ inHand same.symm]
    exact good.tailMark page below noHead

/-- What one iteration of the merge loop does: it hangs the block in hand on its
list because the buddy is not free, or it merges the two. -/
inductive MergeStep (pool : Mempool) (live : Set Block) (start order left : Nat) : Prop where
  | hung (apart : (⟨start ^^^ 2 ^ order, order⟩ : Block) ∉ pool.freeBlocks)
      (busy : ¬(unsignedOrder (pool.pages (start ^^^ 2 ^ order)).order = order ∧
        (pool.pages (start ^^^ 2 ^ order)).count = 0))
      (ends : Mempool.mergeLoop (left + 1) pool start order =
        (pool.setCount start 0).listAddTail order start)
  | merged (low high : Nat)
      (sides : low = min start (start ^^^ 2 ^ order) ∧ high = max start (start ^^^ 2 ^ order))
      (free : (⟨start ^^^ 2 ^ order, order⟩ : Block) ∈ pool.freeBlocks)
      (idle : (pool.pages (start ^^^ 2 ^ order)).count = 0)
      (goesOn : Mempool.mergeLoop (left + 1) pool start order =
        Mempool.mergeLoop left
          (combined ((pool.setCount start 0).listDel (start ^^^ 2 ^ order)) low high order) low
          (order + 1))
      (good : Consistent
        (combined ((pool.setCount start 0).listDel (start ^^^ 2 ^ order)) low high order) live
          {⟨low, order + 1⟩})

theorem mergeStep (left : Nat) (small : pool.maxOder < 2 ^ 32 - 1) {start order : Nat}
    (good : Consistent pool live {⟨start, order⟩}) (below : order < pool.maxOder) :
    MergeStep pool live start order left := by
  have inHand : (⟨start, order⟩ : Block) ∈ pool.freeBlocks ∪ (live ∪ {⟨start, order⟩}) :=
    Or.inr (Or.inr rfl)
  have aligned : 2 ^ order ∣ start := good.tiles.aligned _ inHand
  have inPool := good.start_lt inHand
  have buddyInPool : start ^^^ 2 ^ order < 2 ^ pool.maxOder :=
    Nat.xor_lt_two_pow inPool (Nat.pow_lt_pow_right (by omega) below)
  have different : start ≠ start ^^^ 2 ^ order := by
    rcases buddy_cases aligned with ⟨_, up⟩ | ⟨room, _, down⟩ <;>
      have positive := Nat.two_pow_pos order <;> omega
  have loop (left : Nat) : Mempool.mergeLoop (left + 1) pool start order =
      if unsignedOrder (pool.pages (start ^^^ 2 ^ order)).order = order ∧
          (pool.pages (start ^^^ 2 ^ order)).count = 0 then
        if start > start ^^^ 2 ^ order then
          Mempool.mergeLoop left (combined ((pool.setCount start 0).listDel (start ^^^ 2 ^ order))
            (start ^^^ 2 ^ order) start order) (start ^^^ 2 ^ order) (order + 1)
        else
          Mempool.mergeLoop left (combined ((pool.setCount start 0).listDel (start ^^^ 2 ^ order))
            start (start ^^^ 2 ^ order) order) start (order + 1)
      else (pool.setCount start 0).listAddTail order start := rfl
  by_cases idle : unsignedOrder (pool.pages (start ^^^ 2 ^ order)).order = order ∧
      (pool.pages (start ^^^ 2 ^ order)).count = 0
  · have buddyFree := good.listed_of_marks buddyInPool small below
      (by
        intro block same
        subst same
        exact different)
      idle.1 idle.2
    by_cases above : start > start ^^^ 2 ^ order
    · have sides : start ^^^ 2 ^ order = min start (start ^^^ 2 ^ order) ∧
          start = max start (start ^^^ 2 ^ order) :=
        ⟨(Nat.min_eq_right (Nat.le_of_lt above)).symm,
          (Nat.max_eq_left (Nat.le_of_lt above)).symm⟩
      refine .merged _ _ sides buddyFree idle.2 ?_ (good.merge buddyFree idle.2 _ _ sides)
      rw [loop, if_pos idle, if_pos above]
    · have sides : start = min start (start ^^^ 2 ^ order) ∧
          start ^^^ 2 ^ order = max start (start ^^^ 2 ^ order) :=
        ⟨(Nat.min_eq_left (Nat.le_of_not_gt above)).symm,
          (Nat.max_eq_right (Nat.le_of_not_gt above)).symm⟩
      refine .merged _ _ sides buddyFree idle.2 ?_ (good.merge buddyFree idle.2 _ _ sides)
      rw [loop, if_pos idle, if_neg above]
  · refine .hung ?_ idle ?_
    · intro free
      have bound := good.order_le (Or.inl free)
      refine idle ⟨?_, good.freeCount _ free below⟩
      rw [good.orderMark _ (Or.inl free)]
      exact unsignedOrder_natCast (by omega)
    · rw [loop, if_neg idle]

theorem start_eq_zero {start order : Nat} (good : Consistent pool live {⟨start, order⟩})
    (top : order = pool.maxOder) : start = 0 := by
  have bound := good.block_bounds (Or.inr (Or.inr rfl))
  simp only [top] at bound
  omega

/-- From any iteration on, the merge loop of `mailbox_free` puts the block in
hand back on a free list. -/
theorem mergeLoop (pool : Mempool) (small : pool.maxOder < 2 ^ 32 - 1) {start order left : Nat}
    (good : Consistent pool live {⟨start, order⟩}) (count : order + left = pool.maxOder) :
    Consistent (Mempool.mergeLoop left pool start order) live ∅ := by
  induction left generalizing pool start order with
  | zero =>
      have top : order = pool.maxOder := by omega
      obtain rfl := good.start_eq_zero top
      rw [Mempool.mergeLoop, Mempool.addMaxOrderBlock, if_pos top]
      have hung := good.release (fun below => absurd below (by omega))
      rwa [top] at hung
  | succ left ih =>
      cases good.mergeStep left small (show order < pool.maxOder by omega) with
      | hung apart busy ends =>
          rw [ends]
          exact good.clearCount.release (fun _ => by rw [setCount, setPage_pages_self])
      | merged low high sides free idle goesOn merged =>
          rw [goesOn]
          exact ih _ (by exact small) merged (by change order + 1 + left = pool.maxOder; omega)

theorem unhold (good : Consistent pool live ∅) {block : Block} (held : block ∈ live) :
    Consistent pool (live \ {block}) {⟨block.start, block.order⟩} := by
  have all : pool.freeBlocks ∪ (live \ {block} ∪ {⟨block.start, block.order⟩}) =
      pool.freeBlocks ∪ (live ∪ ∅) := by
    have same : live \ {block} ∪ {⟨block.start, block.order⟩} = live :=
      Set.sdiff_union_of_subset (Set.singleton_subset_iff.mpr held)
    rw [same, Set.union_empty]
  refine ⟨all ▸ good.tiles, good.listed, ?_, ?_, all ▸ good.orderMark, good.freeCount, ?_,
    all ▸ good.tailMark⟩
  · intro other free either
    rcases either with ⟨old, _⟩ | rfl
    · exact good.notHeld other free (Or.inl old)
    · exact good.notHeld _ free (Or.inl held)
  · intro other given
    obtain ⟨_, different⟩ := given
    intro same
    exact different same
  · intro other given
    obtain ⟨old, _⟩ := given
    exact good.liveCount other old

/-- `mailbox_free` of a live block's first address runs the merge loop from the
block's own order on. -/
theorem mailboxFree_eq (good : Consistent pool live ∅)
    (small : pool.maxOder < 2 ^ 32 - 1) (pages : pool.pageMax = 2 ^ pool.maxOder)
    (base : 0 < pool.allPages) {block : Block} (held : block ∈ live) :
    pool.mailboxFree (pool.mailboxPageAddress block.start) =
      Mempool.mergeLoop (pool.maxOder - block.order) pool block.start block.order := by
  have member : block ∈ pool.freeBlocks ∪ (live ∪ ∅) := Or.inr (Or.inl held)
  have inPool := good.start_lt member
  have bound := good.order_le member
  have mark := good.orderMark block member
  have busy := good.liveCount block held
  have address : pool.mailboxPageAddress block.start = pool.allPages + sz4K * block.start := rfl
  have notNull : pool.mailboxPageAddress block.start ≠ 0 := by omega
  have valid : pool.isPtrValid (pool.mailboxPageAddress block.start) = true := by
    simp only [isPtrValid, address, pages, Bool.and_eq_true, decide_eq_true_eq]
    unfold sz4K
    omega
  have index : pool.mailboxVirtToPage (pool.mailboxPageAddress block.start) = block.start := by
    simp only [mailboxVirtToPage, address, Nat.add_sub_cancel_left]
    exact Nat.mul_div_cancel_left _ (by decide)
  unfold Mempool.mailboxFree
  rw [if_neg (by simp [notNull, valid]), index]
  dsimp only
  rw [if_neg (by omega), mark, unsignedOrder_natCast (by omega)]

theorem mailboxFree (pool : Mempool) (good : Consistent pool live ∅)
    (small : pool.maxOder < 2 ^ 32 - 1) (pages : pool.pageMax = 2 ^ pool.maxOder)
    (base : 0 < pool.allPages) {block : Block} (held : block ∈ live) :
    Consistent (pool.mailboxFree (pool.mailboxPageAddress block.start)) (live \ {block}) ∅ := by
  have bound := good.order_le (Or.inr (Or.inl held))
  rw [good.mailboxFree_eq small pages base held]
  exact (good.unhold held).mergeLoop pool small (by omega)

end Consistent

/-! ### Splitting a free block -/

section Split

variable (pool : Mempool) (pos : Nat)

theorem splitLoop_freeAreas (low count area : Nat) :
    (pool.splitLoop pos (List.range' low count)).freeAreas area =
      if low ≤ area ∧ area < low + count then pool.freeAreas area ++ [pos + 2 ^ area]
      else pool.freeAreas area := by
  induction count generalizing pool low with
  | zero =>
      rw [if_neg (by omega)]
      rfl
  | succ count ih =>
      rw [List.range'_succ, splitLoop, ih]
      by_cases here : area = low
      · subst area
        rw [if_neg (by omega), if_pos (by omega)]
        simp [listAddTail]
      · have same : ((pool.setPage (pos + 2 ^ low) { order := low, count := 0 }).listAddTail low
            (pos + 2 ^ low)).freeAreas area = pool.freeAreas area :=
          Function.update_of_ne here _ _
        rw [same]
        by_cases above : low ≤ area ∧ area < low + (count + 1)
        · rw [if_pos above, if_pos (by omega)]
        · rw [if_neg above, if_neg (by omega)]

theorem splitLoop_pages_half {low count order : Nat} (above : low ≤ order)
    (below : order < low + count) :
    (pool.splitLoop pos (List.range' low count)).pages (pos + 2 ^ order) =
      { order := order, count := 0 } := by
  induction count generalizing pool low with
  | zero => omega
  | succ count ih =>
      rw [List.range'_succ, splitLoop]
      by_cases here : order = low
      · subst order
        have keeps : ∀ (rest : Mempool) (next more : Nat), low < next →
            (rest.splitLoop pos (List.range' next more)).pages (pos + 2 ^ low) =
              rest.pages (pos + 2 ^ low) := by
          intro rest next more later
          induction more generalizing rest next with
          | zero => rfl
          | succ more ihMore =>
              rw [List.range'_succ, splitLoop, ihMore _ _ (by omega), listAddTail_pages]
              refine setPage_pages_other _ _ fun same => ?_
              have grows := Nat.pow_lt_pow_right (by decide : 1 < 2) later
              omega
        rw [keeps _ _ _ (Nat.lt_succ_self low), listAddTail_pages, setPage_pages_self]
      · exact ih _ (by omega) (by omega)

theorem splitLoop_pages_other (low count page : Nat)
    (other : ∀ order, low ≤ order → order < low + count → page ≠ pos + 2 ^ order) :
    (pool.splitLoop pos (List.range' low count)).pages page = pool.pages page := by
  induction count generalizing pool low with
  | zero => rfl
  | succ count ih =>
      rw [List.range'_succ, splitLoop, ih _ _ (fun order above below =>
        other order (by omega) (by omega)), listAddTail_pages]
      exact setPage_pages_other _ _ (other low (Nat.le_refl _) (by omega))

theorem half_start_ne (half : Nat) : pos + 2 ^ half ≠ pos := by
  have positive := Nat.two_pow_pos half
  omega

theorem takeBlock_maxOder (order area : Nat) :
    (pool.takeBlock order area pos).maxOder = pool.maxOder :=
  congrArg Prod.fst (splitLoop_frame
    (pool.setPage pos { order := order, count := 1 }) pos (List.range' order (area - order)))

theorem takeBlock_pages_head (order area : Nat) :
    (pool.takeBlock order area pos).pages pos = { order := order, count := 1 } := by
  rw [Mempool.takeBlock, listDel_pages, splitLoop_pages_other]
  · exact setPage_pages_self _ _ _
  · intro half _ _
    exact (half_start_ne pos half).symm

theorem takeBlock_pages_half {order area half : Nat} (above : order ≤ half) (below : half < area) :
    (pool.takeBlock order area pos).pages (pos + 2 ^ half) = { order := half, count := 0 } := by
  rw [Mempool.takeBlock, listDel_pages]
  exact splitLoop_pages_half _ _ above (by omega)

theorem takeBlock_pages_other {order area page : Nat} (notHead : page ≠ pos)
    (notHalf : ∀ half, order ≤ half → half < area → page ≠ pos + 2 ^ half) :
    (pool.takeBlock order area pos).pages page = pool.pages page := by
  rw [Mempool.takeBlock, listDel_pages, splitLoop_pages_other]
  · exact setPage_pages_other _ _ notHead
  · intro half above below
    exact notHalf half above (by omega)

end Split

namespace Consistent

variable {pool : Mempool} {live : Set Block}

/-- The free blocks once the first entry of an area is taken: its upper halves have
come in its place. -/
theorem takeBlock_freeBlocks (good : Consistent pool live ∅) {order area pos : Nat}
    (first : pos ∈ pool.freeAreas area) :
    (pool.takeBlock order area pos).freeBlocks =
      pool.freeBlocks \ {⟨pos, area⟩} ∪ upperHalves pos order area := by
  have member : (⟨pos, area⟩ : Block) ∈ pool.freeBlocks ∪ (live ∪ ∅) := Or.inl first
  ext block
  have lists : (pool.takeBlock order area pos).freeAreas block.order =
      (if order ≤ block.order ∧ block.order < order + (area - order) then
        pool.freeAreas block.order ++ [pos + 2 ^ block.order]
      else pool.freeAreas block.order).filter (· != pos) := by
    rw [Mempool.takeBlock, listDel]
    simp only [splitLoop_freeAreas, setPage_freeAreas]
  have old (listed : block ∈ pool.freeBlocks) : block.start = pos ↔ block = ⟨pos, area⟩ := by
    constructor
    · intro same
      exact good.tiles.start_injective (Or.inl listed) member same
    · intro same
      rw [same]
  simp only [Mempool.freeBlocks, Set.mem_ofPred_eq, lists, List.mem_filter, bne_iff_ne, ne_eq,
    Set.mem_union, Set.mem_sdiff, Set.mem_singleton_iff, upperHalves]
  constructor
  · intro given
    obtain ⟨listed, away⟩ := given
    by_cases inside : order ≤ block.order ∧ block.order < order + (area - order)
    · rw [if_pos inside, List.mem_append, List.mem_singleton] at listed
      rcases listed with before | new
      · exact Or.inl ⟨before, fun same => away ((old before).mpr same)⟩
      · exact Or.inr ⟨block.order, inside.1, by omega, by rw [← new]⟩
    · rw [if_neg inside] at listed
      exact Or.inl ⟨listed, fun same => away ((old listed).mpr same)⟩
  · intro either
    rcases either with ⟨before, different⟩ | ⟨half, above, below, rfl⟩
    · refine ⟨?_, fun same => different ((old before).mp same)⟩
      split
      · exact List.mem_append_left _ before
      · exact before
    · refine ⟨?_, half_start_ne pos half⟩
      rw [if_pos ⟨above, by simp only; omega⟩]
      exact List.mem_append_right _ (List.mem_singleton.mpr rfl)

theorem takeBlock_apart (good : Consistent pool live ∅) {area pos : Nat}
    (first : pos ∈ pool.freeAreas area) {block : Block}
    (member : block ∈ pool.freeBlocks ∪ (live ∪ ∅)) (different : block ≠ ⟨pos, area⟩)
    {start : Nat} (low : pos ≤ start) (high : start < pos + 2 ^ area) : block.start ≠ start := by
  intro same
  subst same
  exact different (good.tiles.apart block member _ (Or.inl first) block.start block.covers_start
    ⟨low, high⟩)

theorem takeBlock_half_new (good : Consistent pool live ∅) {area pos half : Nat}
    (first : pos ∈ pool.freeAreas area) (below : half < area) :
    (⟨pos + 2 ^ half, half⟩ : Block) ∉ pool.freeBlocks ∪ (live ∪ ∅) := by
  intro member
  have shorter := Nat.pow_lt_pow_right (by decide : 1 < 2) below
  have different : (⟨pos + 2 ^ half, half⟩ : Block) ≠ ⟨pos, area⟩ := by
    intro same
    exact half_start_ne pos half (congrArg Block.start same)
  exact good.takeBlock_apart first member different (Nat.le_add_right _ _) (by omega) rfl

theorem takeBlock_listed (good : Consistent pool live ∅) {order area pos : Nat}
    (first : pos ∈ pool.freeAreas area) (level : Nat) :
    ((pool.takeBlock order area pos).freeAreas level).Nodup := by
  rw [Mempool.takeBlock, listDel]
  apply List.Nodup.filter
  rw [splitLoop_freeAreas, setPage_freeAreas]
  split
  · next inside =>
      refine List.Nodup.append (good.listed level) (List.nodup_singleton _)
        (List.disjoint_singleton.mpr ?_)
      intro listed
      exact good.takeBlock_half_new first (show level < area by omega) (Or.inl listed)
  · exact good.listed level

theorem takeBlock_blocks (good : Consistent pool live ∅) {order area pos : Nat}
    (first : pos ∈ pool.freeAreas area) :
    (pool.takeBlock order area pos).freeBlocks ∪ (insert ⟨pos, order⟩ live ∪ ∅) =
      (pool.freeBlocks ∪ (live ∪ ∅)) \ {⟨pos, area⟩} ∪
        ({⟨pos, order⟩} ∪ upperHalves pos order area) := by
  rw [good.takeBlock_freeBlocks first]
  ext block
  have away (held : block ∈ live) : block ≠ ⟨pos, area⟩ := by
    intro same
    exact good.notHeld _ first (Or.inl (same ▸ held))
  simp only [Set.mem_union, Set.mem_insert_iff, Set.mem_sdiff, Set.mem_singleton_iff,
    Set.mem_empty_iff_false, or_false]
  tauto

theorem takeBlock_survivor (good : Consistent pool live ∅) {order area pos : Nat}
    (first : pos ∈ pool.freeAreas area) {block : Block}
    (old : block ∈ pool.freeBlocks ∪ (live ∪ ∅)) (different : block ≠ ⟨pos, area⟩) :
    (pool.takeBlock order area pos).pages block.start = pool.pages block.start := by
  have positive := Nat.two_pow_pos area
  apply takeBlock_pages_other
  · exact good.takeBlock_apart first old different (Nat.le_refl _) (by omega)
  · intro half _ below
    have shorter := Nat.pow_lt_pow_right (by decide : 1 < 2) below
    exact good.takeBlock_apart first old different (Nat.le_add_right _ _) (by omega)

/-- Taking the first entry of a free area and hanging back its upper halves
turns one free block into the live block asked for. -/
theorem takeBlock (good : Consistent pool live ∅) {order area pos : Nat}
    (enough : order ≤ area) (first : pos ∈ pool.freeAreas area) :
    Consistent (pool.takeBlock order area pos) (insert ⟨pos, order⟩ live) ∅ := by
  have taken : (⟨pos, area⟩ : Block) ∈ pool.freeBlocks := first
  have member : (⟨pos, area⟩ : Block) ∈ pool.freeBlocks ∪ (live ∪ ∅) := Or.inl taken
  have cut := Tiles.cutFront enough (good.tiles.aligned _ member)
  have oder := takeBlock_maxOder pool pos order area
  refine ⟨?_, good.takeBlock_listed first, ?_, ?_, ?_, ?_, ?_, ?_⟩
  · rw [whole, oder, good.takeBlock_blocks first]
    exact good.tiles.refine_tile member cut
  · intro block free held
    rw [good.takeBlock_freeBlocks first] at free
    rcases held with (rfl | held) | none
    · rcases free with ⟨old, different⟩ | ⟨half, _, _, same⟩
      · exact different (good.tiles.start_injective (Or.inl old) member rfl)
      · exact half_start_ne pos half (congrArg Block.start same).symm
    · rcases free with ⟨old, _⟩ | ⟨half, _, below, rfl⟩
      · exact good.notHeld block old (Or.inl held)
      · exact good.takeBlock_half_new first below (Or.inr (Or.inl held))
    · exact none
  · intro block _ none
    exact none
  · intro block present
    rw [good.takeBlock_blocks first] at present
    rcases present with ⟨old, different⟩ | rfl | ⟨half, above, below, rfl⟩
    · rw [good.takeBlock_survivor first old different]
      exact good.orderMark block old
    · rw [takeBlock_pages_head]
    · rw [takeBlock_pages_half pool pos above below]
  · intro block free below
    rw [good.takeBlock_freeBlocks first] at free
    rcases free with ⟨old, different⟩ | ⟨half, above, short, rfl⟩
    · rw [good.takeBlock_survivor first (Or.inl old) different]
      exact good.freeCount block old (oder ▸ below)
    · rw [takeBlock_pages_half pool pos above short]
  · intro block held
    rcases held with rfl | held
    · rw [takeBlock_pages_head]
    · have different : block ≠ ⟨pos, area⟩ := by
        intro same
        exact good.notHeld _ taken (Or.inl (same ▸ held))
      rw [good.takeBlock_survivor first (Or.inr (Or.inl held)) different]
      exact good.liveCount block held
  · intro page inPool noHead
    rw [good.takeBlock_blocks first] at noHead
    rw [oder] at inPool
    have notPos : page ≠ pos := fun same =>
      noHead ⟨pos, order⟩ (Or.inr (Or.inl rfl)) same.symm
    have notHalf (half : Nat) (above : order ≤ half) (below : half < area) :
        page ≠ pos + 2 ^ half := fun same =>
      noHead ⟨pos + 2 ^ half, half⟩ (Or.inr (Or.inr ⟨half, above, below, rfl⟩)) same.symm
    rw [takeBlock_pages_other pool pos notPos notHalf]
    refine good.tailMark page inPool fun block old same => ?_
    by_cases split : block = ⟨pos, area⟩
    · exact notPos (same ▸ (congrArg Block.start split))
    · exact noHead block (Or.inl ⟨old, split⟩) same

end Consistent

end TzDriver.Mailbox
