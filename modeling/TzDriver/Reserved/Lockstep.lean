/-
The mailbox pool and the reserved pool side by side.

Two pools of one size that get the same calls keep the same descriptors and the
same free lists.  The two codes differ in the comparison of a buddy's order and in
the page they hang back once everything is merged; the allocator's invariant says
that neither difference shows.
-/

import TzDriver.Mailbox.Partition
import TzDriver.Reserved.Mempool

namespace TzDriver.Reserved

open TzDriver.Lib TzDriver.Mailbox

structure Alike (pool : Mempool) (zone : Zone) : Prop where
  oder : pool.maxOder = zone.resMaxOrder
  pages : pool.pages = zone.pages
  areas : pool.freeAreas = zone.freeAreas

namespace Alike

variable {pool : Mempool} {zone : Zone}

theorem setPage (alike : Alike pool zone) (index : Nat) (page : MbPage) :
    Alike (pool.setPage index page) (zone.setPage index page) := by
  refine ⟨alike.oder, ?_, alike.areas⟩
  change Function.update pool.pages index page = Function.update zone.pages index page
  rw [alike.pages]

theorem setOrder (alike : Alike pool zone) (index : Nat) (order : Int) :
    Alike (pool.setOrder index order) (zone.setOrder index order) := by
  unfold Mempool.setOrder Zone.setOrder
  rw [alike.pages]
  exact alike.setPage index _

theorem setCount (alike : Alike pool zone) (index count : Nat) :
    Alike (pool.setCount index count) (zone.setCount index count) := by
  unfold Mempool.setCount Zone.setCount
  rw [alike.pages]
  exact alike.setPage index _

theorem listAddTail (alike : Alike pool zone) (area index : Nat) :
    Alike (pool.listAddTail area index) (zone.listAddTail area index) := by
  refine ⟨alike.oder, alike.pages, ?_⟩
  change Function.update pool.freeAreas area _ = Function.update zone.freeAreas area _
  rw [alike.areas]

theorem listDel (alike : Alike pool zone) (index : Nat) :
    Alike (pool.listDel index) (zone.listDel index) := by
  refine ⟨alike.oder, alike.pages, ?_⟩
  funext area
  change (pool.freeAreas area).filter _ = (zone.freeAreas area).filter _
  rw [alike.areas]

/-! ### Allocating -/

theorem splitLoop (alike : Alike pool zone) (pos : Nat) (orders : List Nat) :
    Alike (pool.splitLoop pos orders) (zone.splitLoop pos orders) := by
  induction orders generalizing pool zone with
  | nil => exact alike
  | cons order rest ih => exact ih ((alike.setPage _ _).listAddTail _ _)

theorem takeBlock (alike : Alike pool zone) (order area pos : Nat) :
    Alike (pool.takeBlock order area pos) (zone.takeBlock order area pos) :=
  ((alike.setPage _ _).splitLoop _ _).listDel pos

theorem searchAreas (alike : Alike pool zone) (order : Nat) (areas : List Nat) :
    Alike (pool.searchAreas order areas).1 (zone.searchAreas order areas).1 ∧
      (pool.searchAreas order areas).2 = (zone.searchAreas order areas).2 := by
  induction areas with
  | nil => exact ⟨alike, rfl⟩
  | cons area rest ih =>
      rw [Mempool.searchAreas, Zone.searchAreas, alike.areas]
      cases zone.freeAreas area with
      | nil => exact ih
      | cons pos others => exact ⟨alike.takeBlock order area pos, rfl⟩

/-! ### Freeing -/

/-- The page that the reserved pool hangs back is the lower one of the last merge. -/
def LastMerge (start : Nat) : Option (Nat × Nat) → Prop
  | none => True
  | some (curIdx, buddyIdx) => start = min curIdx buddyIdx

theorem mergeLoop {live : Set Block} {start order left : Nat} {last : Option (Nat × Nat)}
    (alike : Alike pool zone) (small : pool.maxOder < 2 ^ 32 - 1)
    (good : Consistent pool live {⟨start, order⟩}) (count : order + left = pool.maxOder)
    (lower : LastMerge start last) :
    Alike (Mempool.mergeLoop left pool start order)
      (Zone.hangBack (Zone.buddyMerge left zone start order last)) := by
  induction left generalizing pool zone start order last with
  | zero =>
      have top : order = pool.maxOder := by omega
      obtain rfl := good.start_eq_zero top
      have hung : Zone.buddyMerge 0 zone 0 order last = (zone, some 0) := by
        cases last with
        | none => rfl
        | some pair =>
            obtain ⟨curIdx, buddyIdx⟩ := pair
            rw [Zone.buddyMerge]
            change 0 = min curIdx buddyIdx at lower
            split
            · next above =>
                rw [Nat.min_eq_right (Nat.le_of_lt above)] at lower
                rw [← lower]
            · next notAbove =>
                rw [Nat.min_eq_left (Nat.le_of_not_gt notAbove)] at lower
                rw [← lower]
      rw [hung, Mempool.mergeLoop, Mempool.addMaxOrderBlock, if_pos top, alike.oder]
      exact alike.listAddTail _ _
  | succ left ih =>
      have below : order < pool.maxOder := by omega
      rw [Zone.buddyMerge, ← alike.pages]
      simp only
      cases good.mergeStep left small below with
      | hung apart busy ends =>
          have notIdle : ¬((pool.pages (start ^^^ 2 ^ order)).order = order ∧
              (pool.pages (start ^^^ 2 ^ order)).count = 0) := by
            intro given
            obtain ⟨marked, idle⟩ := given
            refine busy ⟨?_, idle⟩
            rw [marked]
            exact unsignedOrder_natCast (by omega)
          rw [ends, if_neg notIdle]
          exact (alike.setCount start 0).listAddTail order start
      | merged low high sides free idle goesOn merged =>
          have marked := good.orderMark _ (Or.inl free)
          have cleared := (alike.setCount start 0).listDel (start ^^^ 2 ^ order)
          have rest : order + 1 + left = pool.maxOder := by omega
          rw [goesOn, if_pos ⟨marked, idle⟩]
          split
          · next above =>
              obtain rfl : low = start ^^^ 2 ^ order := by
                rw [sides.1, Nat.min_eq_right (Nat.le_of_lt above)]
              obtain rfl : high = start := by
                rw [sides.2, Nat.max_eq_left (Nat.le_of_lt above)]
              exact ih ((cleared.setOrder _ _).setOrder _ _) (by exact small) merged rest sides.1
          · next notAbove =>
              obtain rfl : low = start := by
                rw [sides.1, Nat.min_eq_left (Nat.le_of_not_gt notAbove)]
              obtain rfl : high = low ^^^ 2 ^ order := by
                rw [sides.2, Nat.max_eq_right (Nat.le_of_not_gt notAbove)]
              exact ih ((cleared.setOrder _ _).setOrder _ _) (by exact small) merged rest sides.1

end Alike

/-! ### Lockstep -/

/-- Both pools, with the blocks that were handed out. -/
structure Pair where
  mailbox : Mempool
  reserved : Zone
  live : List Block

namespace Pair

def poolState (pair : Pair) : PoolState := ⟨pair.mailbox, pair.live⟩

/-- The same call on both pools; a block is freed by its first address in each. -/
def step (pair : Pair) : PoolCall → Option Pair
  | .alloc size flag =>
      (pair.poolState.step (.alloc size flag)).map fun after =>
        { mailbox := after.pool
          reserved := (pair.reserved.reservedMemAlloc size).1
          live := after.live }
  | .free block =>
      (pair.poolState.step (.free block)).map fun after =>
        { mailbox := after.pool
          reserved := pair.reserved.reservedMemFree (pair.reserved.pageStart block.start)
          live := after.live }

end Pair

/-- Pools of `2 ^ order` pages that are called in lockstep. -/
def pairMachine (order : Nat) : Machine Pair PoolCall :=
  { init := fun pair =>
      (poolMachine order).init pair.poolState ∧
        ∃ base, 0 < base ∧ base + sz4K * 2 ^ order ≤ 2 ^ 64 ∧
          pair.reserved = Zone.zoneInit (sz4K * 2 ^ order) base
    step := fun before call after => before.step call = some after }

/-- `mailbox_alloc` can zero what it is asked to zero: `memset_s` refuses lengths
from 2 GiB on. -/
def Zeroable (_ : Pair) : PoolCall → Prop
  | .alloc size flag => flag % 2 = 1 → align4K size ≤ securecMemMaxLen
  | .free _ => True

/-- The invariant of lockstep runs. -/
structure InStep (order : Nat) (pair : Pair) : Prop where
  sound : Sound order pair.poolState
  alike : Alike pair.mailbox pair.reserved
  size : pair.reserved.resPageSize = 2 ^ order
  base : 0 < pair.reserved.startVaddr
  room : pair.reserved.startVaddr + sz4K * 2 ^ order ≤ 2 ^ 64

/-! ### What no call changes -/

def Zone.frame (zone : Zone) : Nat × Nat × Nat :=
  (zone.resMaxOrder, zone.resPageSize, zone.startVaddr)

theorem splitLoop_zone_frame (zone : Zone) (pos : Nat) (orders : List Nat) :
    (zone.splitLoop pos orders).frame = zone.frame := by
  induction orders generalizing zone with
  | nil => rfl
  | cons order rest ih =>
      rw [Zone.splitLoop, ih]
      rfl

theorem searchAreas_zone_frame (zone : Zone) (order : Nat) (areas : List Nat) :
    (zone.searchAreas order areas).1.frame = zone.frame := by
  induction areas with
  | nil => rfl
  | cons area rest ih =>
      rw [Zone.searchAreas]
      cases zone.freeAreas area with
      | nil => exact ih
      | cons pos others => exact splitLoop_zone_frame _ _ _

/-- The order stands apart, so that nothing unfolds `getOrder` at an unknown size. -/
theorem reservedMemAlloc_eq {zone : Zone} {size order : Nat}
    (asked : getOrder (align4K size) = order) :
    zone.reservedMemAlloc size =
      if size > 0 ∧ order ≤ zone.resMaxOrder then
        let found := zone.searchAreas order (List.range' order (zone.resMaxOrder + 1 - order))
        (found.1, found.2.map found.1.pageStart)
      else (zone, none) := by
  rw [Zone.reservedMemAlloc, asked]

theorem reservedMemAlloc_frame (zone : Zone) (size : Nat) :
    (zone.reservedMemAlloc size).1.frame = zone.frame := by
  obtain ⟨order, asked⟩ : ∃ order, getOrder (align4K size) = order := ⟨_, rfl⟩
  rw [reservedMemAlloc_eq asked]
  split
  · exact searchAreas_zone_frame zone _ _
  · rfl

theorem buddyMerge_frame (left : Nat) (zone : Zone) (curIdx order : Nat)
    (last : Option (Nat × Nat)) :
    (Zone.hangBack (Zone.buddyMerge left zone curIdx order last)).frame = zone.frame := by
  induction left generalizing zone curIdx order last with
  | zero =>
      cases last with
      | none => rfl
      | some pair => rfl
  | succ left ih =>
      rw [Zone.buddyMerge]
      simp only
      split
      · split
        · rw [ih]
          rfl
        · rw [ih]
          rfl
      · rfl

theorem reservedMemFree_frame (zone : Zone) (ptr : Nat) :
    (zone.reservedMemFree ptr).frame = zone.frame := by
  unfold Zone.reservedMemFree
  split
  · rfl
  split
  · rfl
  simp only
  split
  · rfl
  · exact buddyMerge_frame _ _ _ _ _

/-! ### The calls -/

def SameBlock (pool : Mempool) (zone : Zone) : Option Nat → Option Nat → Prop
  | none, none => True
  | some taken, some reserved =>
      ∃ index, taken = pool.mailboxPageAddress index ∧ reserved = zone.pageStart index
  | _, _ => False

theorem Alike.allocBlock {pool : Mempool} {zone : Zone} (alike : Alike pool zone) (level : Nat)
    {length flag : Nat} (positive : 0 < length)
    (zeroable : flag % 2 = 1 → length ≤ securecMemMaxLen) {found : Zone × Option Nat}
    (search : zone.searchAreas level (List.range' level (pool.maxOder + 1 - level)) = found) :
    Alike (pool.allocBlock level length flag).1 found.1 ∧
      SameBlock pool zone (pool.allocBlock level length flag).2
        (found.2.map found.1.pageStart) := by
  have zoneFrame := searchAreas_zone_frame zone level
    (List.range' level (pool.maxOder + 1 - level))
  obtain ⟨areas, block⟩ := alike.searchAreas level
    (List.range' level (pool.maxOder + 1 - level))
  rw [search] at areas block zoneFrame
  simp only [Zone.frame, Prod.mk.injEq] at zoneFrame
  unfold Mempool.allocBlock
  rcases searchAreas_cases pool level (List.range' level (pool.maxOder + 1 - level)) with
    refused | ⟨area, _, pos, _, taken⟩
  · rw [refused] at areas block ⊢
    rw [← block]
    exact ⟨areas, trivial⟩
  · have frame := takeBlock_frame pool level area pos
    simp only [Mempool.frame, Prod.mk.injEq] at frame
    have address : (pool.takeBlock level area pos).mailboxPageAddress pos =
        pool.mailboxPageAddress pos := by
      simp only [Mempool.mailboxPageAddress, frame.2.2.1]
    have start : found.1.pageStart pos = zone.pageStart pos := by
      simp only [Zone.pageStart, zoneFrame.2.2]
    rw [taken] at areas block ⊢
    rw [← block]
    simp only [Option.map_some, start, address]
    split
    · next zeroed =>
        have accepted : ¬(length = 0 ∨ length > securecMemMaxLen) := by
          have short := zeroable zeroed
          omega
        rw [Mempool.memsetS, if_neg accepted]
        exact ⟨⟨areas.oder, areas.pages, areas.areas⟩, pos, rfl, rfl⟩
    · exact ⟨areas, pos, rfl, rfl⟩

namespace InStep

variable {order : Nat} {pair : Pair}

theorem initial (fits : sz4K * 2 ^ order < 2 ^ 32) (start : (pairMachine order).init pair) :
    InStep order pair := by
  obtain ⟨poolStart, base, nonNull, room, reserved⟩ := start
  have wide : sz4K * 2 ^ order < 2 ^ 64 := Nat.lt_trans fits (by decide)
  have sound := Sound.initial wide poolStart
  have pages : sz4K * 2 ^ order / sz4K = 2 ^ order := Nat.mul_div_cancel_left _ (by decide)
  have one : (List.range (sz4K * 2 ^ order / sz4K / 2 ^ order)).map (· * 2 ^ order) = [0] := by
    rw [pages, Nat.div_self (Nat.two_pow_pos order)]
    simp
  obtain ⟨poolBase, memory, _, initialised, _⟩ := poolStart
  simp only [Mempool.mailboxMempoolInit, getOrder_pool wide, Bool.true_eq_false, if_false, ne_eq,
    not_true_eq_false, Except.ok.injEq] at initialised
  change _ = pair.mailbox at initialised
  rw [Zone.zoneInit, getOrder_pool wide] at reserved
  simp only [one] at reserved
  refine ⟨sound, ?_, ?_, ?_, ?_⟩
  · rw [← initialised, reserved]
    refine ⟨rfl, ?_, rfl⟩
    funext index
    simp only [List.mem_singleton]
  · rw [reserved]
    exact pages
  · rw [reserved]
    exact nonNull
  · rw [reserved]
    exact room

theorem alloc (fits : sz4K * 2 ^ order < 2 ^ 64) (inStep : InStep order pair) {size flag : Nat}
    (zeroable : flag % 2 = 1 → align4K size ≤ securecMemMaxLen) :
    Alike (pair.mailbox.mailboxAlloc size flag).1 (pair.reserved.reservedMemAlloc size).1 ∧
      SameBlock pair.mailbox pair.reserved (pair.mailbox.mailboxAlloc size flag).2
        (pair.reserved.reservedMemAlloc size).2 := by
  have alike := inStep.alike
  have oder : pair.mailbox.maxOder = order := inStep.sound.oder
  obtain ⟨level, asked⟩ : ∃ level, getOrder (align4K size) = level := ⟨_, rfl⟩
  unfold Mempool.mailboxAlloc
  rw [reservedMemAlloc_eq asked, asked, ← alike.oder]
  by_cases empty : size = 0
  · rw [if_pos empty, if_neg (by omega)]
    exact ⟨alike, trivial⟩
  rw [if_neg empty]
  by_cases large : level > pair.mailbox.maxOder
  · rw [if_pos large, if_neg (by omega)]
    exact ⟨alike, trivial⟩
  rw [if_neg large, if_pos ⟨by omega, by omega⟩]
  have positive : 0 < align4K size := pos_of_getOrder_lt (by
    have bound := order_lt_of_fits fits
    omega)
  exact alike.allocBlock level positive zeroable rfl

theorem page_index (fits : sz4K * 2 ^ order < 2 ^ 32) (inStep : InStep order pair)
    {page ptr : Nat} (inPool : page < 2 ^ order) (low : pair.reserved.pageStart page ≤ ptr)
    (high : ptr < pair.reserved.pageStart page + sz4K) :
    ptr ≠ 0 ∧ pair.reserved.getVirtPageIndex ptr = some page := by
  have room := inStep.room
  have base := inStep.base
  unfold Zone.pageStart at low high
  refine ⟨by omega, ?_⟩
  have offset : (ptr + 2 ^ 64 - pair.reserved.startVaddr) % 2 ^ 64 =
      ptr - pair.reserved.startVaddr := by
    unfold sz4K at *
    omega
  have quotient : (ptr - pair.reserved.startVaddr) / sz4K = page := by
    unfold sz4K at *
    omega
  unfold Zone.getVirtPageIndex
  rw [offset]
  simp only
  rw [quotient, inStep.size]
  unfold sz4K at fits
  rw [Nat.mod_eq_of_lt (by omega), if_neg (by omega)]

theorem free (fits : sz4K * 2 ^ order < 2 ^ 32) (inStep : InStep order pair) {block : Block}
    (held : block ∈ pair.live) :
    Alike (pair.mailbox.mailboxFree (pair.mailbox.mailboxPageAddress block.start))
      (pair.reserved.reservedMemFree (pair.reserved.pageStart block.start)) := by
  have sound := inStep.sound
  have alike := inStep.alike
  have good : Consistent pair.mailbox pair.poolState.liveBlocks ∅ := sound.consistent
  have isLive : block ∈ pair.poolState.liveBlocks := held
  have member : block ∈ pair.mailbox.freeBlocks ∪ (pair.poolState.liveBlocks ∪ ∅) :=
    Or.inr (Or.inl isLive)
  have oder : pair.mailbox.maxOder = order := sound.oder
  have orderSmall := order_lt_of_fits (Nat.lt_trans fits (by decide))
  have small : pair.mailbox.maxOder < 2 ^ 32 - 1 := by omega
  have inPool := good.start_lt member
  have mark := good.orderMark block member
  have busy := good.liveCount block isLive
  have bound := good.order_le member
  rw [oder] at inPool
  rw [good.mailboxFree_eq small (by rw [oder]; exact sound.pages) sound.base isLive]
  obtain ⟨notNull, index⟩ := inStep.page_index fits inPool (Nat.le_refl _)
    (Nat.lt_add_of_pos_right (by decide))
  unfold Zone.reservedMemFree
  rw [if_neg notNull, index]
  simp only
  rw [← alike.pages, if_neg (by omega), mark, Int.toNat_natCast, ← alike.oder]
  exact alike.mergeLoop small (good.unhold isLive) (by omega) trivial

theorem step (fits : sz4K * 2 ^ order < 2 ^ 32) {after : Pair} {call : PoolCall}
    (inStep : InStep order pair) (zeroable : Zeroable pair call)
    (ran : pair.step call = some after) : InStep order after := by
  have wide : sz4K * 2 ^ order < 2 ^ 64 := Nat.lt_trans fits (by decide)
  have small : order < 2 ^ 32 - 1 := Nat.lt_trans (order_lt_of_fits wide) (by decide)
  cases call with
  | alloc size flag =>
      rw [Pair.step, Option.map_eq_some_iff] at ran
      obtain ⟨next, stepped, rfl⟩ := ran
      have sound := inStep.sound.step small stepped
      have frame := reservedMemAlloc_frame pair.reserved size
      simp only [Zone.frame, Prod.mk.injEq] at frame
      have alike := (inStep.alloc wide zeroable).1
      rw [← Option.some.inj stepped] at sound ⊢
      refine ⟨sound, alike, ?_, ?_, ?_⟩
      · exact frame.2.1.trans inStep.size
      · exact frame.2.2 ▸ inStep.base
      · exact frame.2.2 ▸ inStep.room
  | free block =>
      rw [Pair.step, Option.map_eq_some_iff] at ran
      obtain ⟨next, stepped, rfl⟩ := ran
      have sound := inStep.sound.step small stepped
      have frame := reservedMemFree_frame pair.reserved (pair.reserved.pageStart block.start)
      simp only [Zone.frame, Prod.mk.injEq] at frame
      rw [PoolState.step] at stepped
      split at stepped
      · next held =>
          rw [← Option.some.inj stepped] at sound ⊢
          refine ⟨sound, inStep.free fits held, ?_, ?_, ?_⟩
          · exact frame.2.1.trans inStep.size
          · exact frame.2.2 ▸ inStep.base
          · exact frame.2.2 ▸ inStep.room
      · cases stepped

theorem of_reachable (fits : sz4K * 2 ^ order < 2 ^ 32)
    (reached : ((pairMachine order).restrict Zeroable).Reachable pair) : InStep order pair := by
  induction reached with
  | start initial => exact InStep.initial fits initial
  | next _ taken ih => exact ih.step fits taken.1 taken.2

end InStep

/-- Two pools of one size that get the same calls keep the same descriptors and
free lists, and an allocation fails in both or returns blocks at one page. -/
theorem pools_agree_in_lockstep {order : Nat} (fits : sz4K * 2 ^ order < 2 ^ 32) {pair : Pair}
    (reached : ((pairMachine order).restrict Zeroable).Reachable pair) :
    pair.mailbox.pages = pair.reserved.pages ∧
      pair.mailbox.freeAreas = pair.reserved.freeAreas ∧
      ∀ size flag, Zeroable pair (.alloc size flag) →
        SameBlock pair.mailbox pair.reserved (pair.mailbox.mailboxAlloc size flag).2
          (pair.reserved.reservedMemAlloc size).2 := by
  have inStep := InStep.of_reachable fits reached
  refine ⟨inStep.alike.pages, inStep.alike.areas, ?_⟩
  intro size flag zeroable
  exact (inStep.alloc (Nat.lt_trans fits (by decide)) zeroable).2

/-- Two four-page pools after one page was taken from each. -/
theorem pools_agree_in_lockstep_four_pages :
    ∃ pair : Pair, pair.live = [⟨0, 0⟩] ∧ pair.mailbox.freeAreas 0 = [1] ∧
      pair.mailbox.pages = pair.reserved.pages ∧
      pair.mailbox.freeAreas = pair.reserved.freeAreas := by
  have initial : ((pairMachine 2).restrict Zeroable).Reachable
      ⟨fourPages, Zone.zoneInit (sz4K * 2 ^ 2) sz4K, []⟩ :=
    .start ⟨⟨sz4K, fun _ => 0, by decide, rfl, rfl⟩, sz4K, by decide, by decide, rfl⟩
  have zeroable : Zeroable ⟨fourPages, Zone.zoneInit (sz4K * 2 ^ 2) sz4K, []⟩ (.alloc 1 0) :=
    fun odd => absurd odd (by decide)
  have agree := pools_agree_in_lockstep (by decide : sz4K * 2 ^ 2 < 2 ^ 32)
    (initial.next ⟨zeroable, rfl⟩)
  exact ⟨_, rfl, by decide, agree.1, agree.2.1⟩

end TzDriver.Reserved
