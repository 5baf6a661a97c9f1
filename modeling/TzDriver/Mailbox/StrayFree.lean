/-
`mailbox_free` of pointers nobody was given.

The guard against a second free is the count of the page's descriptor.  The merge
loop clears it, but the loop does not run for a block of the maximal order, so a
block of that order is hung back with its count still set.
-/

import TzDriver.Mailbox.Partition

namespace TzDriver.Mailbox

open TzDriver.Lib
open Mempool

def Mempool.InFirstPage (pool : Mempool) (ptr : Nat) (block : Block) : Prop :=
  pool.mailboxPageAddress block.start ≤ ptr ∧ ptr < pool.mailboxPageAddress block.start + sz4K

instance (pool : Mempool) (ptr : Nat) (block : Block) : Decidable (pool.InFirstPage ptr block) :=
  inferInstanceAs (Decidable (_ ∧ _))

/-- No caller holds a block that the pointer would free. -/
def PoolState.Stray (state : PoolState) (ptr : Nat) : Prop :=
  ∀ block ∈ state.live, ¬state.pool.InFirstPage ptr block

instance (state : PoolState) (ptr : Nat) : Decidable (state.Stray ptr) :=
  inferInstanceAs (Decidable (∀ block ∈ state.live, ¬state.pool.InFirstPage ptr block))

/-- The pointer is in page 0, the whole pool hangs on its free list, and page 0
still counts as handed out. -/
def Mempool.WholeCounted (pool : Mempool) (ptr : Nat) : Prop :=
  pool.InFirstPage ptr pool.whole ∧ pool.whole ∈ pool.freeBlocks ∧ (pool.pages 0).count ≠ 0

def Untouched (before after : Mempool) : Prop :=
  after.freeAreas = before.freeAreas ∧ after.pages = before.pages

/-! ### Any calls -/

inductive AnyCall where
  | alloc (size flag : Nat)
  | free (ptr : Nat)

def PoolState.call (state : PoolState) : AnyCall → PoolState
  | .alloc size flag =>
      let result := state.pool.mailboxAlloc size flag
      let block (addr : Nat) : Block :=
        ⟨state.pool.mailboxVirtToPage addr, getOrder (align4K size)⟩
      { pool := result.1, live := (result.2.map block).toList ++ state.live }
  | .free ptr =>
      { pool := state.pool.mailboxFree ptr
        live := state.live.filter fun block => ¬state.pool.InFirstPage ptr block }

/-- Runs in which `mailbox_free` may get any pointer. -/
def anyMachine (order : Nat) : Machine PoolState AnyCall :=
  { init := (poolMachine order).init
    step := fun before call after => before.call call = after }

/-- No call frees the whole pool a second time. -/
def NotWholeTwice (state : PoolState) : AnyCall → Prop
  | .alloc _ _ => True
  | .free ptr => ¬state.pool.WholeCounted ptr

/-! ### One free -/

section Free

variable {order : Nat} {state : PoolState}

/-- `mailbox_free` reads no more of its pointer than the page. -/
theorem mailboxFree_firstPage {pool : Mempool} (base : 0 < pool.allPages) {ptr : Nat}
    {block : Block} (inside : pool.InFirstPage ptr block) :
    pool.mailboxFree ptr = pool.mailboxFree (pool.mailboxPageAddress block.start) := by
  have page : pool.mailboxVirtToPage ptr = block.start := by
    simp only [InFirstPage, mailboxPageAddress, mailboxVirtToPage, sz4K] at inside ⊢
    omega
  have valid : pool.isPtrValid ptr = pool.isPtrValid (pool.mailboxPageAddress block.start) := by
    rw [Bool.eq_iff_iff]
    simp only [isPtrValid, Bool.and_eq_true, decide_eq_true_eq]
    simp only [InFirstPage, mailboxPageAddress, sz4K] at inside ⊢
    omega
  have notNull : ptr ≠ 0 := by
    have above := inside.1
    simp only [mailboxPageAddress] at above
    omega
  have startNotNull : pool.mailboxPageAddress block.start ≠ 0 := by
    simp only [mailboxPageAddress]
    omega
  unfold mailboxFree
  rw [page, virtToPage_pageAddress, valid]
  simp only [notNull, startNotNull, false_or]

theorem inFirstPage_of_valid {pool : Mempool} {ptr level : Nat}
    (valid : pool.isPtrValid ptr = true) :
    pool.InFirstPage ptr ⟨pool.mailboxVirtToPage ptr, level⟩ ∧
      pool.mailboxVirtToPage ptr < pool.pageMax := by
  simp only [isPtrValid, Bool.and_eq_true, decide_eq_true_eq, InFirstPage, mailboxPageAddress,
    mailboxVirtToPage] at valid ⊢
  unfold sz4K at *
  omega

theorem mailboxFree_idle {pool : Mempool} {ptr : Nat}
    (idle : (pool.pages (pool.mailboxVirtToPage ptr)).count = 0) : pool.mailboxFree ptr = pool := by
  unfold mailboxFree
  split
  · rfl
  · simp only
    rw [if_pos idle]

/-- A counted page that no live block starts at is the first page of the free
whole. -/
theorem Sound.counted_stray (sound : Sound order state) {page : Nat} (inPool : page < 2 ^ order)
    (counted : (state.pool.pages page).count ≠ 0)
    (noHolder : ∀ block ∈ state.live, block.start ≠ page) :
    page = 0 ∧ state.pool.whole ∈ state.pool.freeBlocks := by
  have good := sound.consistent
  by_cases headed : ∃ block ∈ state.pool.freeBlocks ∪ (state.liveBlocks ∪ ∅), block.start = page
  · obtain ⟨block, member, rfl⟩ := headed
    rcases member with free | held | none
    · by_cases below : block.order < state.pool.maxOder
      · exact absurd (good.freeCount block free below) counted
      · have top : block.order = state.pool.maxOder :=
          Nat.le_antisymm (good.order_le (Or.inl free)) (Nat.le_of_not_lt below)
        have bound := good.block_bounds (Or.inl free)
        rw [top] at bound
        have zero : block.start = 0 := by omega
        refine ⟨zero, ?_⟩
        have same : block = state.pool.whole := by
          rw [whole, ← zero, ← top]
        exact same ▸ free
    · exact absurd rfl (noHolder block held)
    · exact none.elim
  · have blank := good.tailMark page (by rw [sound.oder]; exact inPool)
      (fun block member same => headed ⟨block, member, same⟩)
    rw [blank] at counted
    exact absurd rfl counted

theorem WholeCounted.mailboxFree (sound : Sound order state) (small : order < 2 ^ 32 - 1)
    {ptr : Nat} (whole : state.pool.WholeCounted ptr) :
    state.pool.mailboxFree ptr = state.pool.listAddTail state.pool.maxOder 0 := by
  obtain ⟨inside, free, counted⟩ := whole
  have mark := sound.consistent.orderMark _ (Or.inl free)
  have positive := Nat.two_pow_pos order
  have valid : state.pool.isPtrValid (state.pool.mailboxPageAddress 0) = true := by
    simp only [isPtrValid, Bool.and_eq_true, decide_eq_true_eq]
    rw [sound.pages]
    simp only [mailboxPageAddress, sz4K]
    omega
  have notNull : state.pool.mailboxPageAddress 0 ≠ 0 := by
    have base := sound.base
    simp only [mailboxPageAddress]
    omega
  rw [mailboxFree_firstPage sound.base inside]
  change state.pool.mailboxFree (state.pool.mailboxPageAddress 0) = _
  unfold Mempool.mailboxFree
  rw [if_neg (by simp [notNull, valid]), virtToPage_pageAddress]
  dsimp only
  change (state.pool.pages 0).order = (state.pool.maxOder : Int) at mark
  rw [if_neg counted, mark, unsignedOrder_natCast (by rw [sound.oder]; omega), Nat.sub_self,
    mergeLoop, addMaxOrderBlock, if_pos rfl]

theorem WholeCounted.touched (sound : Sound order state) (small : order < 2 ^ 32 - 1) {ptr : Nat}
    (whole : state.pool.WholeCounted ptr) :
    ¬Untouched state.pool (state.pool.mailboxFree ptr) := by
  intro given
  obtain ⟨areas, _⟩ := given
  rw [WholeCounted.mailboxFree sound small whole] at areas
  have longer := congrArg List.length (congrFun areas state.pool.maxOder)
  simp [listAddTail] at longer

theorem Sound.mailboxFree_stray (sound : Sound order state) {ptr : Nat}
    (stray : state.Stray ptr) (notWhole : ¬state.pool.WholeCounted ptr) :
    state.pool.mailboxFree ptr = state.pool := by
  by_cases refused : ptr = 0 ∨ state.pool.isPtrValid ptr = false
  · rw [Mempool.mailboxFree, if_pos refused]
  · have valid : state.pool.isPtrValid ptr = true := by
      simpa using (not_or.mp refused).2
    obtain ⟨inside, inPool⟩ := @inFirstPage_of_valid _ _ state.pool.maxOder valid
    apply mailboxFree_idle
    by_contra counted
    rw [sound.pages] at inPool
    have noHolder : ∀ block ∈ state.live, block.start ≠ state.pool.mailboxVirtToPage ptr := by
      intro block held same
      have first := (@inFirstPage_of_valid _ _ block.order valid).1
      rw [← same] at first
      exact stray block held first
    obtain ⟨zero, free⟩ := sound.counted_stray inPool counted noHolder
    rw [zero] at inside counted
    exact notWhole ⟨inside, free, counted⟩

/-- A stray free changes something exactly when it frees the whole pool again. -/
theorem Sound.stray_free (sound : Sound order state) (small : order < 2 ^ 32 - 1) {ptr : Nat}
    (stray : state.Stray ptr) :
    Untouched state.pool (state.pool.mailboxFree ptr) ↔ ¬state.pool.WholeCounted ptr := by
  constructor
  · intro untouched whole
    exact WholeCounted.touched sound small whole untouched
  · intro notWhole
    rw [sound.mailboxFree_stray stray notWhole]
    exact ⟨rfl, rfl⟩

theorem setOrder_count (pool : Mempool) (index page : Nat) (mark : Int) :
    ((pool.setOrder index mark).pages page).count = (pool.pages page).count := by
  unfold setOrder
  by_cases same : page = index
  · rw [same, setPage_pages_self]
  · rw [setPage_pages_other _ _ same]

theorem setCount_count {pool : Mempool} {index page : Nat}
    (idle : page = index ∨ (pool.pages page).count = 0) :
    ((pool.setCount index 0).pages page).count = 0 := by
  unfold setCount
  by_cases same : page = index
  · rw [same, setPage_pages_self]
  · rw [setPage_pages_other _ _ same]
    exact idle.resolve_left same

/-- The merge loop counts no page as handed out, and clears the page it starts at. -/
theorem mergeLoop_count {left start level page : Nat} {pool : Mempool}
    (idle : page = start ∧ 0 < left ∨ (pool.pages page).count = 0) :
    ((mergeLoop left pool start level).pages page).count = 0 := by
  induction left generalizing pool start level with
  | zero =>
      have clear := idle.resolve_left fun started => Nat.lt_irrefl 0 started.2
      unfold mergeLoop addMaxOrderBlock
      split
      · exact clear
      · exact clear
  | succ left ih =>
      have cleared : ((pool.setCount start 0).pages page).count = 0 :=
        setCount_count (idle.imp_left And.left)
      rw [mergeLoop]
      simp only
      split
      · split
        · apply ih
          rw [setOrder_count, setOrder_count]
          exact Or.inr cleared
        · apply ih
          rw [setOrder_count, setOrder_count]
          exact Or.inr cleared
      · exact cleared

/-- The second of two frees in a row is harmless for every block but the whole. -/
theorem Sound.free_twice (sound : Sound order state) (small : order < 2 ^ 32 - 1) {ptr : Nat}
    {block : Block} (held : block ∈ state.live) (inside : state.pool.InFirstPage ptr block) :
    Untouched (state.pool.mailboxFree ptr) ((state.pool.mailboxFree ptr).mailboxFree ptr) ↔
      block.order < order := by
  have good := sound.consistent
  have oder := sound.oder
  have member : block ∈ state.pool.freeBlocks ∪ (state.liveBlocks ∪ ∅) := Or.inr (Or.inl held)
  have bound := good.order_le member
  have page : state.pool.mailboxVirtToPage ptr = block.start := by
    simp only [InFirstPage, mailboxPageAddress, mailboxVirtToPage, sz4K] at inside ⊢
    omega
  have frame := mailboxFree_frame state.pool ptr
  simp only [Mempool.frame, Prod.mk.injEq] at frame
  have freed : state.pool.mailboxFree ptr =
      mergeLoop (state.pool.maxOder - block.order) state.pool block.start block.order := by
    rw [mailboxFree_firstPage sound.base inside]
    exact good.mailboxFree_eq (by omega) (by rw [oder]; exact sound.pages) sound.base held
  have pageAfter : (state.pool.mailboxFree ptr).mailboxVirtToPage ptr = block.start := by
    rw [← page]
    simp only [mailboxVirtToPage, frame.2.2.1]
  constructor
  · intro untouched
    by_contra notBelow
    have top : block.order = state.pool.maxOder := by omega
    have gap : state.pool.maxOder - block.order = 0 := by omega
    rw [gap, mergeLoop, addMaxOrderBlock, if_pos top] at freed
    have zero := good.block_bounds member
    rw [top] at zero
    have start : block.start = 0 := by omega
    have after := sound.free small held
    rw [← mailboxFree_firstPage sound.base inside] at after
    refine WholeCounted.touched after small ⟨?_, ?_, ?_⟩ untouched
    · simp only [InFirstPage, mailboxPageAddress, frame.2.2.1, whole, start] at inside ⊢
      exact inside
    · change (state.pool.mailboxFree ptr).whole ∈ (state.pool.mailboxFree ptr).freeBlocks
      rw [freed, listAddTail_freeBlocks]
      exact Set.mem_insert _ _
    · have counted := good.liveCount block held
      rw [start] at counted
      change ((state.pool.mailboxFree ptr).pages 0).count ≠ 0
      rw [freed, listAddTail_pages, counted]
      exact Nat.one_ne_zero
  · intro below
    have idle : ((state.pool.mailboxFree ptr).pages block.start).count = 0 := by
      obtain ⟨left, count⟩ : ∃ left, state.pool.maxOder - block.order = left + 1 :=
        ⟨state.pool.maxOder - block.order - 1, by omega⟩
      rw [freed, count]
      exact mergeLoop_count (Or.inl ⟨rfl, Nat.succ_pos left⟩)
    have second : (state.pool.mailboxFree ptr).mailboxFree ptr = state.pool.mailboxFree ptr :=
      mailboxFree_idle (by rw [pageAfter]; exact idle)
    rw [second]
    exact ⟨rfl, rfl⟩

theorem Sound.filter_start (sound : Sound order state) {inside : Block → Prop}
    [DecidablePred inside] {block : Block} (held : block ∈ state.live) (here : inside block)
    (start : ∀ other, inside other → other.start = block.start) :
    (state.live.filter fun other => ¬inside other) = state.live.erase block := by
  rw [sound.distinct.erase_eq_filter]
  apply List.filter_congr
  intro other member
  rw [Bool.eq_iff_iff]
  simp only [decide_not, Bool.not_eq_true', decide_eq_false_iff_not, bne_iff_ne]
  constructor
  · intro outside same
    subst same
    exact outside here
  · intro different alsoInside
    exact different (sound.consistent.tiles.start_injective (Or.inr (Or.inl member))
      (Or.inr (Or.inl held)) (start other alsoInside))

theorem start_eq_of_inFirstPage {pool : Mempool} {ptr : Nat} {left right : Block}
    (onLeft : pool.InFirstPage ptr left) (onRight : pool.InFirstPage ptr right) :
    left.start = right.start := by
  simp only [InFirstPage, mailboxPageAddress, sz4K] at onLeft onRight
  omega

theorem Sound.call (sound : Sound order state) (small : order < 2 ^ 32 - 1) {call : AnyCall}
    (allowed : NotWholeTwice state call) : Sound order (state.call call) := by
  cases call with
  | alloc size flag => exact sound.alloc small (mailboxAlloc_outcome state.pool size flag)
  | free ptr =>
      simp only [PoolState.call]
      by_cases owned : ∃ block ∈ state.live, state.pool.InFirstPage ptr block
      · obtain ⟨block, held, inside⟩ := owned
        rw [sound.filter_start held inside fun _ also => start_eq_of_inFirstPage also inside,
          mailboxFree_firstPage sound.base inside]
        exact sound.free small held
      · have stray : state.Stray ptr := fun block held inside => owned ⟨block, held, inside⟩
        have same : state.live.filter (fun block => ¬state.pool.InFirstPage ptr block) =
            state.live := by
          apply List.filter_eq_self.mpr
          intro block held
          exact decide_eq_true (stray block held)
        rw [same, sound.mailboxFree_stray stray allowed]
        exact sound

end Free

theorem Sound.of_reachable {order : Nat} (fits : sz4K * 2 ^ order < 2 ^ 64) {state : PoolState}
    (reached : ((anyMachine order).restrict NotWholeTwice).Reachable state) :
    Sound order state := by
  have small : order < 2 ^ 32 - 1 := Nat.lt_trans (order_lt_of_fits fits) (by decide)
  induction reached with
  | start initial => exact Sound.initial fits initial
  | next _ taken ih =>
      rw [← taken.2]
      exact ih.call small taken.1

/-- As long as no call frees the whole pool twice, a free of a pointer that nobody
holds changes nothing, unless it is such a free itself; and a block freed twice in a
row is left alone the second time, unless it is the whole pool. -/
theorem mailbox_free_stray_harmless {order : Nat} (fits : sz4K * 2 ^ order < 2 ^ 64)
    {state : PoolState}
    (reached : ((anyMachine order).restrict NotWholeTwice).Reachable state) :
    (∀ ptr, state.Stray ptr →
      (Untouched state.pool (state.pool.mailboxFree ptr) ↔ ¬state.pool.WholeCounted ptr)) ∧
    ∀ ptr, ∀ block ∈ state.live, state.pool.InFirstPage ptr block →
      (Untouched (state.pool.mailboxFree ptr) ((state.pool.mailboxFree ptr).mailboxFree ptr) ↔
        block.order < order) := by
  have small : order < 2 ^ 32 - 1 := Nat.lt_trans (order_lt_of_fits fits) (by decide)
  have sound := Sound.of_reachable fits reached
  constructor
  · intro ptr stray
    exact sound.stray_free small stray
  · intro ptr block held inside
    exact sound.free_twice small held inside

/-- A four-page pool with one page handed out: a pointer into the second page is
stray, and freeing it changes nothing. -/
theorem mailbox_free_stray_harmless_four_pages :
    ∃ state : PoolState, state.live = [⟨0, 0⟩] ∧ state.Stray (2 * sz4K) ∧
      Untouched state.pool (state.pool.mailboxFree (2 * sz4K)) := by
  have initial : ((anyMachine 2).restrict NotWholeTwice).Reachable ⟨fourPages, []⟩ :=
    .start ⟨sz4K, fun _ => 0, by decide, rfl, rfl⟩
  have harmless := (mailbox_free_stray_harmless (by decide : sz4K * 2 ^ 2 < 2 ^ 64)
    (@Machine.Reachable.next _ _ _ _ _ (.alloc 1 0) initial ⟨trivial, rfl⟩)).1 (2 * sz4K)
  have stray : PoolState.Stray ((PoolState.mk fourPages []).call (.alloc 1 0)) (2 * sz4K) := by
    decide
  exact ⟨_, rfl, stray, (harmless stray).mpr fun whole => absurd whole.1 (by decide)⟩

/-- All four pages are handed out as one block and freed; the second free hangs page
0 on its list again. -/
theorem whole_pool_freed_twice :
    ∃ state : PoolState, (anyMachine 2).Reachable state ∧ state.Stray sz4K ∧
      ¬Untouched state.pool (state.pool.mailboxFree sz4K) := by
  have initial : (anyMachine 2).Reachable ⟨fourPages, []⟩ :=
    .start ⟨sz4K, fun _ => 0, by decide, rfl, rfl⟩
  refine ⟨((PoolState.mk fourPages []).call (.alloc (4 * sz4K) 0)).call (.free sz4K), ?_, ?_, ?_⟩
  · exact (initial.next rfl).next rfl
  · decide
  · intro given
    obtain ⟨areas, _⟩ := given
    exact absurd (congrFun areas 2) (by decide)

end TzDriver.Mailbox
