/-
Runs of the mailbox allocator.

A run starts at `mailbox_mempool_init` and takes any sequence of
`mailbox_alloc` calls and of `mailbox_free` calls on blocks that are live.  The
live blocks are history: the allocator itself keeps no such list.
-/

import TzDriver.Lib.Runs
import TzDriver.Mailbox.Consistent

namespace TzDriver.Mailbox

open TzDriver.Lib
open Mempool

/-! ### Sizes and orders -/

theorem lt_two_pow_fls64 (word : Nat) : word < 2 ^ fls64 word := by
  unfold fls64
  split
  · rename_i zero
    omega
  · rename_i positive
    exact (Nat.log2_lt positive).mp (Nat.lt_succ_self _)

theorem fls64_two_pow_sub_one (order : Nat) : fls64 (2 ^ order - 1) = order := by
  unfold fls64
  cases order with
  | zero => rfl
  | succ order =>
      have positive := Nat.two_pow_pos order
      have double : 2 ^ (order + 1) = 2 ^ order + 2 ^ order := by ring
      have nonzero : 2 ^ (order + 1) - 1 ≠ 0 := by omega
      rw [if_neg nonzero]
      have low : order ≤ Nat.log2 (2 ^ (order + 1) - 1) :=
        (Nat.le_log2 nonzero).mpr (by omega)
      have high : Nat.log2 (2 ^ (order + 1) - 1) < order + 1 :=
        (Nat.log2_lt nonzero).mpr (by omega)
      omega

/-- A block of the order that `get_order` gives is large enough. -/
theorem le_block_of_getOrder {size : Nat} (fits : size < 2 ^ 64) :
    size ≤ sz4K * 2 ^ getOrder size := by
  by_cases empty : size = 0
  · omega
  · have wrap : (size + (2 ^ 64 - 1)) % 2 ^ 64 = size - 1 := by omega
    have pages := lt_two_pow_fls64 ((size - 1) / sz4K)
    unfold getOrder
    rw [wrap]
    unfold sz4K at pages ⊢
    omega

theorem getOrder_pool {order : Nat} (fits : sz4K * 2 ^ order < 2 ^ 64) :
    getOrder (sz4K * 2 ^ order) = order := by
  have positive := Nat.two_pow_pos order
  have wrap : (sz4K * 2 ^ order + (2 ^ 64 - 1)) % 2 ^ 64 / sz4K = 2 ^ order - 1 := by
    unfold sz4K at fits ⊢
    omega
  unfold getOrder
  rw [wrap]
  exact fls64_two_pow_sub_one order

theorem order_lt_of_fits {order : Nat} (fits : sz4K * 2 ^ order < 2 ^ 64) : order < 52 := by
  by_contra large
  have grows : 2 ^ 52 ≤ 2 ^ order := Nat.pow_le_pow_right (by decide) (by omega)
  unfold sz4K at fits
  omega

theorem getOrder_zero : getOrder 0 = 52 := by
  decide +kernel

theorem pos_of_getOrder_lt {length : Nat} (below : getOrder length < 52) : 0 < length := by
  rw [Nat.pos_iff_ne_zero]
  intro same
  subst same
  rw [getOrder_zero] at below
  omega

theorem align4K_lt (size : Nat) : align4K size < 2 ^ 64 := by
  unfold align4K sz4K
  omega

/-! ### What one `mailbox_alloc` does -/

theorem searchAreas_cases (pool : Mempool) (order : Nat) (areas : List Nat) :
    pool.searchAreas order areas = (pool, none) ∨
      ∃ area ∈ areas, ∃ pos ∈ pool.freeAreas area,
        pool.searchAreas order areas = (pool.takeBlock order area pos, some pos) := by
  induction areas with
  | nil => exact Or.inl rfl
  | cons area rest ih =>
      unfold searchAreas
      cases listed : pool.freeAreas area with
      | nil =>
          rcases ih with none | ⟨later, inRest, pos, first, found⟩
          · exact Or.inl none
          · exact Or.inr ⟨later, List.mem_cons_of_mem _ inRest, pos, first, found⟩
      | cons pos others =>
          exact Or.inr ⟨area, List.mem_cons_self, pos,
            by rw [listed]; exact List.mem_cons_self, rfl⟩

theorem memsetS_cases (pool : Mempool) (addr length : Nat) :
    pool.memsetS addr length = none ∨
      ∃ memory : Nat → UInt8,
        (∀ byte, ¬(addr ≤ byte ∧ byte < addr + length) → memory byte = pool.memory byte) ∧
        pool.memsetS addr length = some { pool with memory := memory } := by
  unfold memsetS
  split
  · exact Or.inl rfl
  · refine Or.inr ⟨_, ?_, rfl⟩
    intro byte outside
    rw [if_neg outside]

theorem takeBlock_frame (pool : Mempool) (order area pos : Nat) :
    (pool.takeBlock order area pos).frame = pool.frame :=
  splitLoop_frame _ _ _

/-- The ways an allocation of a block of `order` can end: the pool as it was, a
block taken and handed out, or a block taken and freed again because it cannot
be zeroed. -/
inductive AllocOutcome (pool : Mempool) (order length : Nat) : Mempool × Option Nat → Prop where
  | refused : AllocOutcome pool order length (pool, none)
  | putBack {area pos : Nat} (enough : order ≤ area) (first : pos ∈ pool.freeAreas area) :
      AllocOutcome pool order length
        ((pool.takeBlock order area pos).mailboxFree (pool.mailboxPageAddress pos), none)
  | given {area pos : Nat} (enough : order ≤ area) (first : pos ∈ pool.freeAreas area)
      (memory : Nat → UInt8)
      (outside : ∀ byte, ¬(pool.mailboxPageAddress pos ≤ byte ∧
        byte < pool.mailboxPageAddress pos + length) → memory byte = pool.memory byte) :
      AllocOutcome pool order length
        ({ pool.takeBlock order area pos with memory := memory },
          some (pool.mailboxPageAddress pos))

theorem allocBlock_outcome (pool : Mempool) (order length flag : Nat) :
    AllocOutcome pool order length (pool.allocBlock order length flag) := by
  unfold allocBlock
  rcases searchAreas_cases pool order (List.range' order (pool.maxOder + 1 - order)) with
    none | ⟨area, inAreas, pos, first, found⟩
  · rw [none]
    exact .refused
  have enough := (List.mem_range'_1.mp inAreas).1
  have frame := takeBlock_frame pool order area pos
  simp only [Mempool.frame, Prod.mk.injEq] at frame
  have base : (pool.takeBlock order area pos).mailboxPageAddress pos =
      pool.mailboxPageAddress pos := by
    simp only [mailboxPageAddress, frame.2.2.1]
  rw [found]
  simp only [base]
  split
  · rcases memsetS_cases (pool.takeBlock order area pos) (pool.mailboxPageAddress pos) length with
      refused | ⟨memory, outside, zeroed⟩
    · rw [refused]
      exact .putBack enough first
    · rw [zeroed]
      rw [frame.2.2.2] at outside
      exact .given enough first memory outside
  · have given := @AllocOutcome.given pool order length _ _ enough first pool.memory fun _ _ => rfl
    rwa [← frame.2.2.2] at given

theorem mailboxAlloc_outcome (pool : Mempool) (size flag : Nat) :
    AllocOutcome pool (getOrder (align4K size)) (align4K size) (pool.mailboxAlloc size flag) := by
  unfold mailboxAlloc
  split
  · exact .refused
  split
  · exact .refused
  exact allocBlock_outcome pool _ _ flag

/-! ### The run machine -/

structure PoolState where
  pool : Mempool
  live : List Block

inductive PoolCall where
  | alloc (size flag : Nat)
  | free (block : Block)

/-- A returned address starts a block of the order the call asked for. -/
def PoolState.step (state : PoolState) : PoolCall → Option PoolState
  | .alloc size flag =>
      let result := state.pool.mailboxAlloc size flag
      let block (addr : Nat) : Block :=
        ⟨state.pool.mailboxVirtToPage addr, getOrder (align4K size)⟩
      some { pool := result.1, live := (result.2.map block).toList ++ state.live }
  | .free block =>
      if block ∈ state.live then
        some
          { pool := state.pool.mailboxFree (state.pool.mailboxPageAddress block.start)
            live := state.live.erase block }
      else none

/-- Runs over a pool of `2 ^ order` pages. -/
def poolMachine (order : Nat) : Machine PoolState PoolCall :=
  { init := fun state =>
      ∃ base memory, 0 < base ∧
        mailboxMempoolInit (sz4K * 2 ^ order) true (some base) memory 0 = .ok state.pool ∧
        state.live = []
    step := fun before call after => before.step call = some after }

def PoolState.liveBlocks (state : PoolState) : Set Block := {block | block ∈ state.live}

/-- The inductive invariant of the run machine. -/
structure Sound (order : Nat) (state : PoolState) : Prop where
  oder : state.pool.maxOder = order
  pages : state.pool.pageMax = 2 ^ order
  base : 0 < state.pool.allPages
  distinct : state.live.Nodup
  consistent : Consistent state.pool state.liveBlocks ∅

theorem virtToPage_pageAddress (pool : Mempool) (index : Nat) :
    pool.mailboxVirtToPage (pool.mailboxPageAddress index) = index := by
  simp only [mailboxVirtToPage, mailboxPageAddress, Nat.add_sub_cancel_left]
  exact Nat.mul_div_cancel_left _ (by decide)

section Steps

variable {order : Nat}

theorem Sound.initial (fits : sz4K * 2 ^ order < 2 ^ 64) {state : PoolState}
    (start : (poolMachine order).init state) : Sound order state := by
  obtain ⟨base, memory, nonNull, initialised, none⟩ := start
  have order_eq := getOrder_pool fits
  have positive := Nat.two_pow_pos order
  simp only [mailboxMempoolInit, order_eq, Bool.true_eq_false, if_false, ne_eq, not_true_eq_false,
    Except.ok.injEq] at initialised
  obtain ⟨pool, live⟩ := state
  simp only at initialised none
  subst none
  subst initialised
  have noLive (pool : Mempool) : PoolState.liveBlocks ⟨pool, []⟩ = ∅ := by
    ext block
    simp [PoolState.liveBlocks]
  refine ⟨rfl, by exact Nat.mul_div_cancel_left _ (by decide), nonNull, List.nodup_nil, ?_⟩
  rw [noLive]
  have free (block : Block) :
      block.start ∈ (if block.order = order then [0] else []) ↔ block = ⟨0, order⟩ := by
    cases block with
    | mk start level =>
        by_cases same : level = order <;> simp [same]
  have all : ({block : Block | block.start ∈ if block.order = order then [0] else []} ∪
      (∅ ∪ ∅) : Set Block) = {⟨0, order⟩} := by
    ext block
    simp only [Set.union_empty, Set.mem_ofPred_eq, Set.mem_singleton_iff, free]
  refine ⟨?_, ?_, ?_, ?_, ?_, ?_, ?_, ?_⟩
  · change Tiles ⟨0, order⟩ ({block : Block | _} ∪ (∅ ∪ ∅))
    rw [all]
    exact Tiles.single (Nat.dvd_zero _)
  · intro level
    simp only
    split
    · exact List.nodup_singleton _
    · exact List.nodup_nil
  · intro block _ held
    simp at held
  · intro block held
    exact held.elim
  · intro block member
    have same : block = ⟨0, order⟩ := by
      have inAll : block ∈ ({block : Block | _} ∪ (∅ ∪ ∅) : Set Block) := member
      rw [all] at inAll
      exact inAll
    rw [same]
    rfl
  · intro block member below
    have same : block = ⟨0, order⟩ := (free block).mp member
    rw [same] at below
    exact absurd below (Nat.lt_irrefl _)
  · intro block held
    exact held.elim
  · intro page _ noHead
    have notZero : page ≠ 0 := fun zero =>
      noHead ⟨0, order⟩ (Or.inl ((free _).mpr rfl)) zero.symm
    simp only [if_neg notZero]

theorem Sound.taken_fresh {state : PoolState} (sound : Sound order state) {area pos level : Nat}
    (first : pos ∈ state.pool.freeAreas area) : (⟨pos, level⟩ : Block) ∉ state.live := by
  intro held
  have free : (⟨pos, area⟩ : Block) ∈ state.pool.freeBlocks := first
  have equal := sound.consistent.tiles.start_injective
    (Or.inr (Or.inl (show (⟨pos, level⟩ : Block) ∈ state.liveBlocks from held))) (Or.inl free) rfl
  exact sound.consistent.notHeld _ free (Or.inl (equal ▸ held))

theorem Sound.takeBlock {state : PoolState} (sound : Sound order state) {area pos level : Nat}
    (enough : level ≤ area) (first : pos ∈ state.pool.freeAreas area) (memory : Nat → UInt8) :
    Sound order
      { pool := { state.pool.takeBlock level area pos with memory := memory }
        live := ⟨pos, level⟩ :: state.live } := by
  have frame : (state.pool.takeBlock level area pos).frame = state.pool.frame :=
    splitLoop_frame _ _ _
  have taken := sound.consistent.takeBlock enough first
  have live : PoolState.liveBlocks
      { pool := { state.pool.takeBlock level area pos with memory := memory }
        live := ⟨pos, level⟩ :: state.live } = insert ⟨pos, level⟩ state.liveBlocks := by
    ext block
    simp [PoolState.liveBlocks]
  simp only [Mempool.frame, Prod.mk.injEq] at frame
  refine ⟨by rw [← sound.oder]; exact frame.1, by rw [← sound.pages]; exact frame.2.1,
    by rw [show Mempool.allPages _ = _ from frame.2.2.1]; exact sound.base,
    List.nodup_cons.mpr ⟨sound.taken_fresh first, sound.distinct⟩, ?_⟩
  rw [live]
  exact ⟨taken.tiles, taken.listed, taken.notHeld, taken.notOwn, taken.orderMark,
    taken.freeCount, taken.liveCount, taken.tailMark⟩

theorem Sound.free (small : order < 2 ^ 32 - 1) {state : PoolState} (sound : Sound order state)
    {block : Block} (held : block ∈ state.live) :
    Sound order
      { pool := state.pool.mailboxFree (state.pool.mailboxPageAddress block.start)
        live := state.live.erase block } := by
  have frame := mailboxFree_frame state.pool (state.pool.mailboxPageAddress block.start)
  have live : PoolState.liveBlocks
      { pool := state.pool.mailboxFree (state.pool.mailboxPageAddress block.start)
        live := state.live.erase block } = state.liveBlocks \ {block} := by
    ext other
    simp only [PoolState.liveBlocks, Set.mem_ofPred_eq, Set.mem_sdiff, Set.mem_singleton_iff,
      List.Nodup.mem_erase_iff sound.distinct]
    exact and_comm
  simp only [Mempool.frame, Prod.mk.injEq] at frame
  refine ⟨by rw [← sound.oder]; exact frame.1, by rw [← sound.pages]; exact frame.2.1,
    by rw [show Mempool.allPages _ = _ from frame.2.2.1]; exact sound.base,
    sound.distinct.erase block, ?_⟩
  rw [live]
  exact Consistent.mailboxFree state.pool sound.consistent (by rw [sound.oder]; exact small)
    (by rw [sound.pages, sound.oder]) sound.base held

theorem Sound.alloc (small : order < 2 ^ 32 - 1) {state : PoolState}
    (sound : Sound order state) {level length : Nat} {result : Mempool × Option Nat}
    (outcome : AllocOutcome state.pool level length result) :
    Sound order
      { pool := result.1
        live := (result.2.map fun addr => ⟨state.pool.mailboxVirtToPage addr, level⟩).toList ++
          state.live } := by
  cases outcome with
  | refused => exact sound
  | @putBack area pos enough first =>
      have taken := sound.takeBlock enough first state.pool.memory
      have frame := takeBlock_frame state.pool level area pos
      simp only [Mempool.frame, Prod.mk.injEq] at frame
      rw [← frame.2.2.2] at taken
      have freed := taken.free small List.mem_cons_self
      rw [List.erase_cons_head] at freed
      have address : (state.pool.takeBlock level area pos).mailboxPageAddress pos =
          state.pool.mailboxPageAddress pos := by
        simp only [mailboxPageAddress, frame.2.2.1]
      have same : PoolState.mk ((state.pool.takeBlock level area pos).mailboxFree
          (state.pool.mailboxPageAddress pos)) state.live =
          PoolState.mk ((state.pool.takeBlock level area pos).mailboxFree
            ((state.pool.takeBlock level area pos).mailboxPageAddress pos)) state.live := by
        rw [address]
      change Sound order (PoolState.mk _ state.live)
      rw [same]
      exact freed
  | given enough first memory outside =>
      simp only [Option.map_some, Option.toList_some, List.singleton_append,
        virtToPage_pageAddress]
      exact sound.takeBlock enough first memory

theorem Sound.step (small : order < 2 ^ 32 - 1) {before after : PoolState} {call : PoolCall}
    (sound : Sound order before) (ran : before.step call = some after) : Sound order after := by
  cases call with
  | alloc size flag =>
      rw [← Option.some.inj ran]
      exact sound.alloc small (mailboxAlloc_outcome before.pool size flag)
  | free block =>
      simp only [PoolState.step] at ran
      split at ran
      · rename_i held
        rw [← Option.some.inj ran]
        exact sound.free small held
      · cases ran

end Steps

/-! ### The partition of the pool -/

def PoolState.blocks (state : PoolState) : Set Block :=
  {block | block.start ∈ state.pool.freeAreas block.order ∨ block ∈ state.live}

/-- The free lists and the live blocks cut the page indexes into blocks. -/
structure Partitioned (state : PoolState) : Prop where
  exactlyOne : ∀ page < state.pool.pageMax, ∃! block, block ∈ state.blocks ∧ block.Covers page
  inPool : ∀ block ∈ state.blocks, block.start + 2 ^ block.order ≤ state.pool.pageMax
  aligned : ∀ block ∈ state.blocks, block.start % 2 ^ block.order = 0
  liveOnce : state.live.Nodup
  freeOnce : ∀ order, (state.pool.freeAreas order).Nodup
  freeNotLive : ∀ block ∈ state.live, block.start ∉ state.pool.freeAreas block.order
  freeOrder : ∀ page order, page ∈ state.pool.freeAreas order →
    (state.pool.pages page).order = order
  oneList : ∀ page left right, page ∈ state.pool.freeAreas left →
    page ∈ state.pool.freeAreas right → left = right
  nonHead : ∀ page < state.pool.pageMax, (∀ block ∈ state.blocks, block.start ≠ page) →
    state.pool.pages page = { order := -1, count := 0 }

/-- What a caller of `mailbox_alloc` may rely on when it gets an address. -/
structure Granted (state : PoolState) (size : Nat) (after : Mempool) (addr : Nat)
    (block : Block) : Prop where
  address : addr = state.pool.allPages + sz4K * block.start
  enough : align4K size ≤ sz4K * 2 ^ block.order
  inPool : block.start + 2 ^ block.order ≤ state.pool.pageMax
  apart : ∀ other ∈ state.live, ∀ page, ¬(block.Covers page ∧ other.Covers page)
  untouched : ∀ other ∈ state.live, ∀ byte,
    state.pool.allPages + sz4K * other.start ≤ byte →
    byte < state.pool.allPages + sz4K * (other.start + 2 ^ other.order) →
      after.memory byte = state.pool.memory byte

theorem Sound.partitioned {order : Nat} {state : PoolState} (sound : Sound order state) :
    Partitioned state := by
  have good := sound.consistent
  have blocks (block : Block) :
      block ∈ state.blocks ↔ block ∈ state.pool.freeBlocks ∪ (state.liveBlocks ∪ ∅) := by
    simp only [Set.union_empty]
    exact Iff.rfl
  have size : 2 ^ state.pool.maxOder = state.pool.pageMax := by rw [sound.oder, sound.pages]
  refine ⟨?_, ?_, ?_, sound.distinct, good.listed, ?_, ?_, ?_, ?_⟩
  · intro page below
    obtain ⟨block, member, covers⟩ := good.tiles.cover page
      ⟨Nat.zero_le _, by simp only [whole, Nat.zero_add]; omega⟩
    refine ⟨block, ⟨(blocks block).mpr member, covers⟩, ?_⟩
    intro other given
    obtain ⟨otherIn, otherCovers⟩ := given
    exact good.tiles.apart other ((blocks other).mp otherIn) block member page otherCovers covers
  · intro block member
    rw [← size]
    exact good.block_bounds ((blocks block).mp member)
  · intro block member
    exact Nat.mod_eq_zero_of_dvd (good.tiles.aligned block ((blocks block).mp member))
  · intro block held listed
    exact good.notHeld block listed (Or.inl held)
  · intro page level listed
    exact good.orderMark ⟨page, level⟩ (Or.inl listed)
  · intro page left right onLeft onRight
    have equal := good.tiles.start_injective
      (Or.inl (show (⟨page, left⟩ : Block) ∈ state.pool.freeBlocks from onLeft))
      (Or.inl (show (⟨page, right⟩ : Block) ∈ state.pool.freeBlocks from onRight)) rfl
    exact congrArg Block.order equal
  · intro page below noHead
    exact good.tailMark page (by omega) fun block member =>
      noHead block ((blocks block).mpr member)

theorem Sound.granted {order : Nat} {state : PoolState} (sound : Sound order state)
    {size level addr : Nat} {after : Mempool}
    (room : align4K size ≤ sz4K * 2 ^ level)
    (outcome : AllocOutcome state.pool level (align4K size) (after, some addr)) :
    Granted state size after addr ⟨state.pool.mailboxVirtToPage addr, level⟩ := by
  obtain ⟨length, same⟩ : ∃ length, align4K size = length := ⟨_, rfl⟩
  rw [same] at room outcome
  cases outcome with
  | @given area pos enough first memory kept =>
    have good := sound.consistent
    have free : (⟨pos, area⟩ : Block) ∈ state.pool.freeBlocks := first
    have bound := good.block_bounds (Or.inl free)
    have shorter := Nat.pow_le_pow_right (by decide : 0 < 2) enough
    simp only at bound
    rw [virtToPage_pageAddress]
    have disjoint (other : Block) (held : other ∈ state.live) (page : Nat)
        (low : pos ≤ page) (high : page < pos + 2 ^ area) : ¬other.Covers page := by
      intro covers
      have equal := good.tiles.apart other (Or.inr (Or.inl held)) ⟨pos, area⟩ (Or.inl free) page
        covers ⟨low, high⟩
      exact good.notHeld _ free (Or.inl (equal ▸ held))
    refine ⟨rfl, same ▸ room, ?_, ?_, ?_⟩
    · rw [sound.pages, ← sound.oder]
      simp only
      omega
    · intro other held page known
      obtain ⟨⟨low, high⟩, covers⟩ := known
      simp only at low high
      exact disjoint other held page low (by omega) covers
    · intro other held byte low high
      apply kept
      intro known
      obtain ⟨fillLow, fillHigh⟩ := known
      -- a zeroed byte of another live block would put one of its pages in the new block
      refine disjoint other held ((byte - state.pool.allPages) / sz4K) ?_ ?_ ⟨?_, ?_⟩ <;>
        simp only [mailboxPageAddress, sz4K] at * <;> omega

/-- In every run over a pool of a power-of-two number of pages, the free blocks
and the live blocks partition the pool, and every address that `mailbox_alloc`
returns starts a block of its own. -/
theorem mailbox_blocks_partition {order : Nat} (fits : sz4K * 2 ^ order < 2 ^ 64)
    {state : PoolState} (reached : (poolMachine order).Reachable state) :
    Partitioned state ∧
      ∀ size flag after addr, state.pool.mailboxAlloc size flag = (after, some addr) →
        Granted state size after addr
          ⟨state.pool.mailboxVirtToPage addr, getOrder (align4K size)⟩ := by
  have small : order < 2 ^ 32 - 1 := Nat.lt_trans (order_lt_of_fits fits) (by decide)
  have sound : Sound order state :=
    reached.invariant (fun _ start => Sound.initial fits start)
      (fun _ _ _ held ran => held.step small ran)
  refine ⟨sound.partitioned, ?_⟩
  intro size flag after addr given
  have outcome := mailboxAlloc_outcome state.pool size flag
  rw [given] at outcome
  exact sound.granted (le_block_of_getOrder (align4K_lt size)) outcome

def fourPages : Mempool :=
  { maxOder := 2
    pageMax := 4
    allPages := sz4K
    pages := fun index => if index = 0 then { order := 2, count := 0 }
      else { order := -1, count := 0 }
    freeAreas := fun area => if area = 2 then [0] else []
    memory := fun _ => 0 }

/-- A four-page pool that has handed out one page: the page next to it and the
upper pair are free. -/
theorem mailbox_blocks_partition_four_pages :
    ∃ state : PoolState, state.live = [⟨0, 0⟩] ∧ state.pool.freeAreas 0 = [1] ∧
      state.pool.freeAreas 1 = [2] ∧ Partitioned state := by
  have initial : (poolMachine 2).Reachable ⟨fourPages, []⟩ :=
    .start ⟨sz4K, fun _ => 0, by decide, rfl, rfl⟩
  have allocated : (PoolState.mk fourPages []).step (.alloc 1 0) =
      some ⟨fourPages.takeBlock 0 2 0, [⟨0, 0⟩]⟩ := rfl
  exact ⟨_, rfl, by decide, by decide,
    (@mailbox_blocks_partition 2 (by decide) _ (.next initial allocated)).1⟩

end TzDriver.Mailbox
