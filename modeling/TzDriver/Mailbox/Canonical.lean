/-
The free blocks of the mailbox pool follow from its live blocks.

No two free blocks are buddies: a free stops merging only where the buddy is not
free, and an allocation leaves one upper half of each order.
-/

import TzDriver.Lib.Coalesced
import TzDriver.Mailbox.Partition

namespace TzDriver.Mailbox

open TzDriver.Lib
open Mempool

/-! ### Frees and allocations keep buddies apart -/

namespace Consistent

variable {pool : Mempool} {live : Set Block}

theorem release_coalesced {start order : Nat} (good : Consistent pool live {⟨start, order⟩})
    (coalesced : Coalesced pool.whole pool.freeBlocks)
    (apart : order < pool.maxOder → (⟨start ^^^ 2 ^ order, order⟩ : Block) ∉ pool.freeBlocks) :
    Coalesced pool.whole (pool.listAddTail order start).freeBlocks := by
  rw [listAddTail_freeBlocks]
  exact coalesced.insert (good.tiles.aligned _ (Or.inr (Or.inr rfl))) apart

theorem mergeLoop_coalesced (pool : Mempool) (small : pool.maxOder < 2 ^ 32 - 1)
    {start order left : Nat} (good : Consistent pool live {⟨start, order⟩})
    (count : order + left = pool.maxOder) (coalesced : Coalesced pool.whole pool.freeBlocks) :
    Coalesced pool.whole (Mempool.mergeLoop left pool start order).freeBlocks := by
  induction left generalizing pool start order with
  | zero =>
      have top : order = pool.maxOder := by omega
      obtain rfl := good.start_eq_zero top
      rw [Mempool.mergeLoop, Mempool.addMaxOrderBlock, if_pos top, ← top]
      exact good.release_coalesced coalesced fun below => absurd below (by omega)
  | succ left ih =>
      cases good.mergeStep left small (show order < pool.maxOder by omega) with
      | hung apart busy ends =>
          rw [ends]
          exact good.clearCount.release_coalesced coalesced fun _ => apart
      | merged low high sides free idle goesOn merged =>
          rw [goesOn]
          refine ih _ (by exact small) merged
            (by change order + 1 + left = pool.maxOder; omega) (coalesced.subset ?_)
          intro block listed
          have kept : block ∈ ((pool.setCount start 0).listDel (start ^^^ 2 ^ order)).freeBlocks :=
            listed
          rw [listDel_freeBlocks] at kept
          exact kept.1

theorem mailboxFree_coalesced (good : Consistent pool live ∅)
    (small : pool.maxOder < 2 ^ 32 - 1) (pages : pool.pageMax = 2 ^ pool.maxOder)
    (base : 0 < pool.allPages) {block : Block} (held : block ∈ live)
    (coalesced : Coalesced pool.whole pool.freeBlocks) :
    Coalesced pool.whole
      (pool.mailboxFree (pool.mailboxPageAddress block.start)).freeBlocks := by
  have bound := good.order_le (Or.inr (Or.inl held))
  rw [good.mailboxFree_eq small pages base held]
  exact (good.unhold held).mergeLoop_coalesced pool small (by omega) coalesced

theorem takeBlock_coalesced (order : Nat) (good : Consistent pool live ∅) {area pos : Nat}
    (first : pos ∈ pool.freeAreas area) (coalesced : Coalesced pool.whole pool.freeBlocks) :
    Coalesced pool.whole (pool.takeBlock order area pos).freeBlocks := by
  rw [good.takeBlock_freeBlocks first]
  exact coalesced.cutFront good.tiles first

end Consistent

/-! ### Runs -/

/-- The invariant of a run together with the distance of buddies. -/
structure Canonical (order : Nat) (state : PoolState) : Prop where
  sound : Sound order state
  coalesced : Coalesced ⟨0, order⟩ state.pool.freeBlocks

namespace Canonical

variable {order : Nat} {state : PoolState}

theorem whole_eq (sound : Sound order state) : state.pool.whole = ⟨0, order⟩ := by
  rw [whole, sound.oder]

theorem initial (fits : sz4K * 2 ^ order < 2 ^ 64) (start : (poolMachine order).init state) :
    Canonical order state := by
  refine ⟨Sound.initial fits start, ?_⟩
  obtain ⟨base, memory, _, initialised, _⟩ := start
  simp only [mailboxMempoolInit, getOrder_pool fits, Bool.true_eq_false, if_false, ne_eq,
    not_true_eq_false, Except.ok.injEq] at initialised
  intro block member below
  change block.start ∈ state.pool.freeAreas block.order at member
  rw [← initialised] at member
  have other : block.order ≠ order := Nat.ne_of_lt below
  simp only [if_neg other, List.not_mem_nil] at member

theorem taken (canonical : Canonical order state) {level area pos : Nat} (enough : level ≤ area)
    (first : pos ∈ state.pool.freeAreas area) (memory : Nat → UInt8) :
    Canonical order
      { pool := { state.pool.takeBlock level area pos with memory := memory }
        live := ⟨pos, level⟩ :: state.live } := by
  have whole := whole_eq canonical.sound
  refine ⟨canonical.sound.takeBlock enough first memory, ?_⟩
  have kept := canonical.sound.consistent.takeBlock_coalesced level first
    (whole ▸ canonical.coalesced)
  rw [whole] at kept
  exact kept

theorem freed (small : order < 2 ^ 32 - 1) (canonical : Canonical order state) {block : Block}
    (held : block ∈ state.live) :
    Canonical order
      { pool := state.pool.mailboxFree (state.pool.mailboxPageAddress block.start)
        live := state.live.erase block } := by
  have sound := canonical.sound
  have whole := whole_eq sound
  refine ⟨sound.free small held, ?_⟩
  have kept := sound.consistent.mailboxFree_coalesced (by rw [sound.oder]; exact small)
    (by rw [sound.pages, sound.oder]) sound.base held (whole ▸ canonical.coalesced)
  rw [whole] at kept
  exact kept

theorem alloc (small : order < 2 ^ 32 - 1) (canonical : Canonical order state)
    {level length : Nat} {result : Mempool × Option Nat}
    (outcome : AllocOutcome state.pool level length result) :
    Canonical order
      { pool := result.1
        live := (result.2.map fun addr => ⟨state.pool.mailboxVirtToPage addr, level⟩).toList ++
          state.live } := by
  refine ⟨canonical.sound.alloc small outcome, ?_⟩
  cases outcome with
  | refused => exact canonical.coalesced
  | @putBack area pos enough first =>
      have taken := canonical.taken enough first (state.pool.takeBlock level area pos).memory
      have freed := (taken.freed small List.mem_cons_self).coalesced
      have frame := takeBlock_frame state.pool level area pos
      simp only [Mempool.frame, Prod.mk.injEq] at frame
      have address : (state.pool.takeBlock level area pos).mailboxPageAddress pos =
          state.pool.mailboxPageAddress pos := by
        simp only [mailboxPageAddress, frame.2.2.1]
      rw [← address]
      exact freed
  | given enough first memory outside =>
      exact (canonical.taken enough first memory).coalesced

theorem step (small : order < 2 ^ 32 - 1) {after : PoolState} {call : PoolCall}
    (canonical : Canonical order state) (ran : state.step call = some after) :
    Canonical order after := by
  cases call with
  | alloc size flag =>
      rw [← Option.some.inj ran]
      exact canonical.alloc small (mailboxAlloc_outcome state.pool size flag)
  | free block =>
      simp only [PoolState.step] at ran
      split at ran
      · next held =>
          rw [← Option.some.inj ran]
          exact canonical.freed small held
      · cases ran

theorem of_reachable (fits : sz4K * 2 ^ order < 2 ^ 64) (small : order < 2 ^ 32 - 1)
    (reached : (poolMachine order).Reachable state) : Canonical order state :=
  reached.invariant (fun _ start => Canonical.initial fits start)
    (fun _ _ _ held ran => held.step small ran)

/-! ### What follows from the live blocks -/

theorem tiles (canonical : Canonical order state) :
    Tiles ⟨0, order⟩ (state.pool.freeBlocks ∪ state.liveBlocks) := by
  have tiles := canonical.sound.consistent.tiles
  rwa [whole_eq canonical.sound, Set.union_empty] at tiles

theorem free_iff (canonical : Canonical order state) (block : Block) :
    block ∈ state.pool.freeBlocks ↔ MaximalClear ⟨0, order⟩ state.liveBlocks block := by
  refine canonical.coalesced.free_iff canonical.tiles ?_ block
  intro other free held
  exact canonical.sound.consistent.notHeld other free (Or.inl held)

theorem free_eq {other : PoolState} (canonical : Canonical order state)
    (otherCanonical : Canonical order other) (same : other.liveBlocks = state.liveBlocks) :
    other.pool.freeBlocks = state.pool.freeBlocks := by
  ext block
  rw [canonical.free_iff, otherCanonical.free_iff, same]

theorem freeAreas_of_none (canonical : Canonical order state) (none_ : state.live = []) :
    state.pool.freeAreas = fun area => if area = order then [0] else [] := by
  have unheld (block : Block) : block ∉ state.liveBlocks := by
    change block ∉ state.live
    rw [none_]
    exact List.not_mem_nil
  have clear : Clear ⟨0, order⟩ state.liveBlocks ⟨0, order⟩ :=
    ⟨Nat.dvd_zero _, fun _ covers => covers, fun _ _ other held => absurd held (unheld other)⟩
  obtain ⟨tile, tileFree, within⟩ := canonical.coalesced.exists_free canonical.tiles clear
  have isWhole : tile = ⟨0, order⟩ :=
    Block.eq_of_within (canonical.tiles.inside tile (Or.inl tileFree)) within
  have single (block : Block) : block ∈ state.pool.freeBlocks ↔ block = ⟨0, order⟩ := by
    refine ⟨?_, fun same => same ▸ isWhole ▸ tileFree⟩
    intro free
    refine canonical.tiles.apart block (Or.inl free) _ (Or.inl (isWhole ▸ tileFree)) block.start
      block.covers_start ?_
    exact canonical.tiles.inside block (Or.inl free) _ block.covers_start
  funext area
  have listed (page : Nat) : page ∈ state.pool.freeAreas area ↔ page = 0 ∧ area = order := by
    have member := single ⟨page, area⟩
    rw [Block.mk.injEq] at member
    exact member
  have once := canonical.sound.consistent.listed area
  split
  · next top =>
      refine List.perm_singleton.mp ((List.perm_ext_iff_of_nodup once (List.nodup_singleton 0)).mpr ?_)
      intro page
      rw [listed, List.mem_singleton]
      exact and_iff_left top
  · next other =>
      apply List.eq_nil_iff_forall_not_mem.mpr
      intro page member
      exact other ((listed page).mp member).2

end Canonical

/-! ### When an allocation succeeds -/

theorem searchAreas_isSome (pool : Mempool) (order : Nat) (areas : List Nat) :
    (pool.searchAreas order areas).2.isSome = true ↔
      ∃ area ∈ areas, ∃ pos, pos ∈ pool.freeAreas area := by
  induction areas with
  | nil => simp [searchAreas]
  | cons area rest ih =>
      rw [searchAreas]
      cases listed : pool.freeAreas area with
      | nil =>
          rw [ih, List.exists_mem_cons_iff, listed]
          simp only [List.not_mem_nil, exists_false, false_or]
      | cons pos others =>
          refine iff_of_true rfl ⟨area, List.mem_cons_self, pos, ?_⟩
          rw [listed]
          exact List.mem_cons_self

theorem allocBlock_isSome (pool : Mempool) {order length flag : Nat}
    (zeroable : flag % 2 = 1 → 0 < length ∧ length ≤ securecMemMaxLen) :
    (pool.allocBlock order length flag).2.isSome = true ↔
      ∃ area, order ≤ area ∧ area ≤ pool.maxOder ∧ ∃ pos, pos ∈ pool.freeAreas area := by
  have found := searchAreas_isSome pool order (List.range' order (pool.maxOder + 1 - order))
  have range : (∃ area ∈ List.range' order (pool.maxOder + 1 - order),
      ∃ pos, pos ∈ pool.freeAreas area) ↔
        ∃ area, order ≤ area ∧ area ≤ pool.maxOder ∧ ∃ pos, pos ∈ pool.freeAreas area := by
    refine exists_congr fun area => ?_
    rw [List.mem_range'_1]
    refine ⟨?_, ?_⟩
    · intro given
      obtain ⟨⟨above, below⟩, listed⟩ := given
      exact ⟨above, by omega, listed⟩
    · intro given
      obtain ⟨above, below, listed⟩ := given
      exact ⟨⟨above, by omega⟩, listed⟩
  rw [← range, ← found]
  unfold allocBlock
  rcases search : pool.searchAreas order (List.range' order (pool.maxOder + 1 - order)) with
    ⟨after, none | pos⟩
  · rfl
  · refine iff_of_true ?_ rfl
    simp only
    split
    · next zeroed =>
        obtain ⟨some_, short⟩ := zeroable zeroed
        rw [memsetS, if_neg (by omega)]
        rfl
    · rfl

/-- An aligned run of pages that no live block has. -/
def FreeRun (state : PoolState) (order start : Nat) : Prop :=
  2 ^ order ∣ start ∧ start + 2 ^ order ≤ state.pool.pageMax ∧
    ∀ page, start ≤ page → page < start + 2 ^ order → ∀ block ∈ state.live, ¬ block.Covers page

theorem Canonical.alloc_isSome {order : Nat} {state : PoolState} (canonical : Canonical order state)
    (fits : sz4K * 2 ^ order < 2 ^ 64) {size flag : Nat}
    (zeroable : flag % 2 = 1 → align4K size ≤ securecMemMaxLen) :
    (state.pool.mailboxAlloc size flag).2.isSome = true ↔
      ∃ start, FreeRun state (getOrder (align4K size)) start := by
  have sound := canonical.sound
  have pages : state.pool.pageMax = 2 ^ order := sound.pages
  have orderSmall := order_lt_of_fits fits
  -- a run of that length fits into the pool only for the orders that the pool has
  have inRange {start : Nat} (run : FreeRun state (getOrder (align4K size)) start) :
      getOrder (align4K size) ≤ order := by
    have length := run.2.1
    rw [pages] at length
    exact (Nat.pow_le_pow_iff_right (by decide)).mp (Nat.le_trans (Nat.le_add_left _ _) length)
  unfold mailboxAlloc
  split
  · next empty =>
      apply iff_of_false (by simp)
      intro given
      obtain ⟨start, run⟩ := given
      have bound := inRange run
      have zero : align4K 0 = 0 := by decide
      rw [empty, zero, getOrder_zero] at bound
      omega
  split
  · next large =>
      apply iff_of_false (by simp)
      intro given
      obtain ⟨start, run⟩ := given
      have bound := inRange run
      rw [sound.oder] at large
      omega
  · next fitting =>
      rw [sound.oder] at fitting
      have some_ : 0 < align4K size := pos_of_getOrder_lt (by omega)
      rw [allocBlock_isSome state.pool fun zeroed => ⟨some_, zeroable zeroed⟩]
      constructor
      · intro given
        obtain ⟨area, above, _, pos, listed⟩ := given
        have free : (⟨pos, area⟩ : Block) ∈ state.pool.freeBlocks := listed
        have bound := sound.consistent.block_bounds (Or.inl free)
        have shorter := Nat.pow_le_pow_right (by decide : 0 < 2) above
        have clear := ((canonical.free_iff _).mp free).clear
        rw [sound.oder] at bound
        simp only at bound
        refine ⟨pos, Nat.dvd_trans (pow_dvd_pow 2 above) clear.aligned, by omega, ?_⟩
        intro page low high block held
        exact clear.unheld page ⟨low, by simp only; omega⟩ block held
      · intro given
        obtain ⟨start, aligned, inPool, unheld⟩ := given
        rw [pages] at inPool
        have clear : Clear ⟨0, order⟩ state.liveBlocks ⟨start, getOrder (align4K size)⟩ := by
          refine ⟨aligned, ?_, ?_⟩
          · intro cell given
            obtain ⟨low, high⟩ := given
            simp only at low high
            exact ⟨Nat.zero_le _, by simp only; omega⟩
          · intro cell given
            obtain ⟨low, high⟩ := given
            exact unheld cell low high
        obtain ⟨tile, tileFree, within⟩ := canonical.coalesced.exists_free canonical.tiles clear
        refine ⟨tile.order, Block.order_le_of_within within, ?_, tile.start, tileFree⟩
        exact sound.consistent.order_le (Or.inl tileFree)

/-! ### Freeing everything -/

theorem Canonical.free_all {order : Nat} (small : order < 2 ^ 32 - 1) {state : PoolState}
    (canonical : Canonical order state) {blocks : List Block} (same : blocks.Perm state.live) :
    ∃ after, Machine.replay PoolState.step state (blocks.map .free) = some after ∧
      after.live = [] ∧
        after.pool.freeAreas = fun area => if area = order then [0] else [] := by
  induction blocks generalizing state with
  | nil =>
      have none_ := List.nil_perm.mp same
      exact ⟨state, rfl, none_, canonical.freeAreas_of_none none_⟩
  | cons block rest ih =>
      have held : block ∈ state.live := same.subset List.mem_cons_self
      have ran : state.step (.free block) = some
          { pool := state.pool.mailboxFree (state.pool.mailboxPageAddress block.start)
            live := state.live.erase block } := if_pos held
      have fewer : rest.Perm (state.live.erase block) := by
        have erased := same.erase block
        rwa [List.erase_cons_head] at erased
      obtain ⟨after, replayed, none_, areas⟩ := ih (canonical.freed small held) fewer
      refine ⟨after, ?_, none_, areas⟩
      rw [List.map_cons, Machine.replay, ran]
      exact replayed

/-- In every run, free buddies are merged, the free blocks follow from the live
blocks, an allocation succeeds exactly when there is an aligned run of pages for
it, and freeing all live blocks in any order gives the whole pool back. -/
theorem mailbox_coalescing_canonical {order : Nat} (fits : sz4K * 2 ^ order < 2 ^ 64)
    {state : PoolState} (reached : (poolMachine order).Reachable state) :
    (∀ block ∈ state.pool.freeBlocks, block.order < order →
        block.buddy ∉ state.pool.freeBlocks) ∧
      (∀ other, (poolMachine order).Reachable other → other.liveBlocks = state.liveBlocks →
        other.pool.freeBlocks = state.pool.freeBlocks) ∧
      (∀ size flag, (flag % 2 = 1 → align4K size ≤ securecMemMaxLen) →
        ((state.pool.mailboxAlloc size flag).2.isSome = true ↔
          ∃ start, FreeRun state (getOrder (align4K size)) start)) ∧
      ∀ blocks : List Block, blocks.Perm state.live →
        ∃ after, Machine.replay PoolState.step state (blocks.map .free) = some after ∧
          after.live = [] ∧
            after.pool.freeAreas = fun area => if area = order then [0] else [] := by
  have small : order < 2 ^ 32 - 1 := Nat.lt_trans (order_lt_of_fits fits) (by decide)
  have canonical := Canonical.of_reachable fits small reached
  refine ⟨canonical.coalesced, ?_, ?_, ?_⟩
  · intro other otherReached same
    exact canonical.free_eq (Canonical.of_reachable fits small otherReached) same
  · intro size flag zeroable
    exact canonical.alloc_isSome fits zeroable
  · intro blocks same
    exact canonical.free_all small same

/-- A four-page pool with its first page out: freeing that page gives the pool back
as one block. -/
theorem mailbox_coalescing_canonical_four_pages :
    ∃ state : PoolState, state.live = [⟨0, 0⟩] ∧
      ∃ after, state.step (.free ⟨0, 0⟩) = some after ∧ after.live = [] ∧
        after.pool.freeAreas = fun area => if area = 2 then [0] else [] := by
  have initial : (poolMachine 2).Reachable ⟨fourPages, []⟩ :=
    .start ⟨sz4K, fun _ => 0, by decide, rfl, rfl⟩
  have allocated : (PoolState.mk fourPages []).step (.alloc 1 0) =
      some ⟨fourPages.takeBlock 0 2 0, [⟨0, 0⟩]⟩ := rfl
  have canonical := @mailbox_coalescing_canonical 2 (by decide) _ (.next initial allocated)
  obtain ⟨after, replayed, none_, areas⟩ := canonical.2.2.2 [⟨0, 0⟩] (List.Perm.refl _)
  refine ⟨⟨fourPages.takeBlock 0 2 0, [⟨0, 0⟩]⟩, rfl, after, ?_, none_, areas⟩
  obtain ⟨middle, ran, last⟩ := Option.bind_eq_some_iff.mp replayed
  rw [ran]
  exact last

end TzDriver.Mailbox
