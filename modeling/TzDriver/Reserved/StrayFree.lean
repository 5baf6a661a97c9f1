/-
`reserved_mem_free` of pointers nobody was given.

Two things go wrong.  `get_virt_page_index` cuts the page number to an `int` before
it checks the range, so a pointer 2^44 bytes away names the same page; and, as in
the mailbox pool, a block of the maximal order is hung back with its count set.
-/

import TzDriver.Mailbox.StrayFree
import TzDriver.Reserved.Lockstep

namespace TzDriver.Reserved

open TzDriver.Lib TzDriver.Mailbox

structure ZoneState where
  zone : Zone
  live : List Block

inductive ZoneCall where
  | alloc (size : Nat)
  | free (ptr : Nat)

def Zone.InFirstPage (zone : Zone) (ptr : Nat) (block : Block) : Prop :=
  zone.pageStart block.start ≤ ptr ∧ ptr < zone.pageStart block.start + sz4K

instance (zone : Zone) (ptr : Nat) (block : Block) : Decidable (zone.InFirstPage ptr block) :=
  inferInstanceAs (Decidable (_ ∧ _))

def Zone.Untouched (before after : Zone) : Prop :=
  after.freeAreas = before.freeAreas ∧ after.pages = before.pages

namespace ZoneState

def Stray (state : ZoneState) (ptr : Nat) : Prop :=
  ∀ block ∈ state.live, ¬state.zone.InFirstPage ptr block

instance (state : ZoneState) (ptr : Nat) : Decidable (state.Stray ptr) :=
  inferInstanceAs (Decidable (∀ block ∈ state.live, ¬state.zone.InFirstPage ptr block))

def call (state : ZoneState) : ZoneCall → ZoneState
  | .alloc size =>
      let result := state.zone.reservedMemAlloc size
      let block (addr : Nat) : Block :=
        ⟨(addr - state.zone.startVaddr) / sz4K, getOrder (align4K size)⟩
      { zone := result.1, live := (result.2.map block).toList ++ state.live }
  | .free ptr =>
      { zone := state.zone.reservedMemFree ptr
        live := state.live.filter fun block => ¬state.zone.InFirstPage ptr block }

/-- The page number, once cut to an `int`, is that of a live block which the pointer
is not in. -/
def Aliased (state : ZoneState) (ptr : Nat) : Prop :=
  ptr ≠ 0 ∧ ∃ block ∈ state.live,
    state.zone.getVirtPageIndex ptr = some block.start ∧ ¬state.zone.InFirstPage ptr block

/-- The page number is 0, the whole pool hangs on its free list, and page 0 still
counts as handed out. -/
def WholeCounted (state : ZoneState) (ptr : Nat) : Prop :=
  ptr ≠ 0 ∧ state.zone.getVirtPageIndex ptr = some 0 ∧
    0 ∈ state.zone.freeAreas state.zone.resMaxOrder ∧ (state.zone.pages 0).count ≠ 0

/-- No call frees through a cut page number or frees the whole pool again. -/
def Careful (state : ZoneState) : ZoneCall → Prop
  | .alloc _ => True
  | .free ptr => ¬state.Aliased ptr ∧ ¬state.WholeCounted ptr

end ZoneState

/-- Runs over a reserved pool of `2 ^ order` pages in which `reserved_mem_free` may
get any pointer. -/
def zoneMachine (order : Nat) : Machine ZoneState ZoneCall :=
  { init := fun state =>
      ∃ base, 0 < base ∧ base + sz4K * 2 ^ order ≤ 2 ^ 64 ∧
        state.zone = Zone.zoneInit (sz4K * 2 ^ order) base ∧ state.live = []
    step := fun before call after => before.call call = after }

/-! ### The mailbox pool beside it -/

/-- A mailbox pool in the same state says what the zone's invariant is. -/
def ZoneState.Sound (order : Nat) (state : ZoneState) : Prop :=
  ∃ pool : Mempool, InStep order ⟨pool, state.zone, state.live⟩

theorem free_shows {order : Nat} {state : PoolState} (sound : Mailbox.Sound order state)
    (small : order < 2 ^ 32 - 1) {block : Block} (held : block ∈ state.live) :
    (state.pool.mailboxFree (state.pool.mailboxPageAddress block.start)).freeAreas ≠
      state.pool.freeAreas := by
  intro same
  have before := sound.consistent
  have after := (sound.free small held).consistent
  have member : block ∈ state.pool.freeBlocks ∪ (state.liveBlocks ∪ ∅) := Or.inr (Or.inl held)
  have positive := Nat.two_pow_pos block.order
  have bound := before.block_bounds member
  have frame := mailboxFree_frame state.pool (state.pool.mailboxPageAddress block.start)
  simp only [Mempool.frame, Prod.mk.injEq] at frame
  have areas : (state.pool.mailboxFree (state.pool.mailboxPageAddress block.start)).freeBlocks =
      state.pool.freeBlocks := by
    simp only [Mempool.freeBlocks, same]
  obtain ⟨other, otherIn, covers⟩ := after.tiles.cover block.start
    ⟨Nat.zero_le _, by simp only [Mempool.whole, frame.1]; omega⟩
  rw [areas] at otherIn
  have otherBefore : other ∈ state.pool.freeBlocks ∪ (state.liveBlocks ∪ ∅) := by
    rcases otherIn with free | rest | none
    · exact Or.inl free
    · exact Or.inr (Or.inl (List.mem_of_mem_erase rest))
    · exact none.elim
  obtain rfl := before.tiles.apart other otherBefore block member block.start covers
    ⟨Nat.le_refl _, by omega⟩
  rcases otherIn with free | rest | none
  · exact before.notHeld other free (Or.inl held)
  · exact ((List.Nodup.mem_erase_iff sound.distinct).mp rest).1 rfl
  · exact none.elim

namespace ZoneState

variable {order : Nat} {state : ZoneState}

theorem Sound.initial (fits : sz4K * 2 ^ order < 2 ^ 32) (start : (zoneMachine order).init state) :
    state.Sound order := by
  obtain ⟨base, nonNull, room, zone, live⟩ := start
  have poolStart : ∃ pool, Mempool.mailboxMempoolInit (sz4K * 2 ^ order) true (some base)
      (fun _ => 0) 0 = .ok pool := ⟨_, rfl⟩
  obtain ⟨pool, initialised⟩ := poolStart
  refine ⟨pool, InStep.initial fits ⟨⟨base, fun _ => 0, nonNull, initialised, live⟩, ?_⟩⟩
  exact ⟨base, nonNull, room, zone⟩

/-- `reserved_mem_free` reads no more of its pointer than the page number. -/
theorem reservedMemFree_index {zone : Zone} {left right page : Nat} (leftNotNull : left ≠ 0)
    (rightNotNull : right ≠ 0) (leftPage : zone.getVirtPageIndex left = some page)
    (rightPage : zone.getVirtPageIndex right = some page) :
    zone.reservedMemFree left = zone.reservedMemFree right := by
  unfold Zone.reservedMemFree
  rw [if_neg leftNotNull, if_neg rightNotNull, leftPage, rightPage]

theorem getVirtPageIndex_lt {zone : Zone} {ptr page : Nat}
    (index : zone.getVirtPageIndex ptr = some page) : page < zone.resPageSize := by
  unfold Zone.getVirtPageIndex at index
  simp only at index
  split at index
  · cases index
  · next inRange =>
      obtain rfl := Option.some.inj index
      omega

theorem firstPage_index (fits : sz4K * 2 ^ order < 2 ^ 32) {pair : Pair}
    (inStep : InStep order pair) {block : Block} (held : block ∈ pair.live) {ptr : Nat}
    (inside : pair.reserved.InFirstPage ptr block) :
    ptr ≠ 0 ∧ pair.reserved.getVirtPageIndex ptr = some block.start := by
  have good := inStep.sound.consistent
  have oder : pair.mailbox.maxOder = order := inStep.sound.oder
  have inPool := good.start_lt (Or.inr (Or.inl held))
  exact inStep.page_index fits (oder ▸ inPool) inside.1 inside.2

theorem Sound.reservedMemFree_stray (sound : state.Sound order) {ptr : Nat}
    (stray : state.Stray ptr) (notAliased : ¬state.Aliased ptr)
    (notWhole : ¬state.WholeCounted ptr) :
    state.zone.reservedMemFree ptr = state.zone := by
  obtain ⟨pool, inStep⟩ := sound
  have alike := inStep.alike
  unfold Zone.reservedMemFree
  by_cases null : ptr = 0
  · rw [if_pos null]
  rw [if_neg null]
  cases index : state.zone.getVirtPageIndex ptr with
  | none => rfl
  | some page =>
      simp only
      have idle : (state.zone.pages page).count = 0 := by
        by_contra counted
        have inPool : page < 2 ^ order := by
          rw [← inStep.size]
          exact getVirtPageIndex_lt index
        have noHolder : ∀ block ∈ state.live, block.start ≠ page := by
          intro block held same
          exact notAliased ⟨null, block, held, by rw [same]; exact index, stray block held⟩
        rw [← alike.pages] at counted
        obtain ⟨rfl, free⟩ := inStep.sound.counted_stray inPool counted noHolder
        change 0 ∈ pool.freeAreas pool.maxOder at free
        rw [alike.areas, alike.oder] at free
        rw [alike.pages] at counted
        exact notWhole ⟨null, index, free, counted⟩
      rw [if_pos idle]

theorem Aliased.touched (fits : sz4K * 2 ^ order < 2 ^ 32) (sound : state.Sound order) {ptr : Nat}
    (aliased : state.Aliased ptr) : ¬state.zone.Untouched (state.zone.reservedMemFree ptr) := by
  obtain ⟨pool, inStep⟩ := sound
  obtain ⟨notNull, block, held, index, _⟩ := aliased
  have small : order < 2 ^ 32 - 1 :=
    Nat.lt_trans (order_lt_of_fits (Nat.lt_trans fits (by decide))) (by decide)
  have first := firstPage_index fits inStep held
    ⟨Nat.le_refl _, Nat.lt_add_of_pos_right (by decide)⟩
  intro given
  obtain ⟨areas, _⟩ := given
  rw [reservedMemFree_index notNull first.1 index first.2] at areas
  have after := inStep.free fits held
  apply free_shows inStep.sound small held
  change (pool.mailboxFree (pool.mailboxPageAddress block.start)).freeAreas = pool.freeAreas
  rw [inStep.alike.areas, ← areas]
  exact after.areas

theorem WholeCounted.touched (sound : state.Sound order) {ptr : Nat}
    (whole : state.WholeCounted ptr) :
    ¬state.zone.Untouched (state.zone.reservedMemFree ptr) := by
  obtain ⟨pool, inStep⟩ := sound
  obtain ⟨notNull, index, free, counted⟩ := whole
  have listed : pool.whole ∈ pool.freeBlocks := by
    change 0 ∈ pool.freeAreas pool.maxOder
    rw [inStep.alike.areas, inStep.alike.oder]
    exact free
  have mark := inStep.sound.consistent.orderMark _ (Or.inl listed)
  change (pool.pages 0).order = (pool.maxOder : Int) at mark
  rw [inStep.alike.pages, inStep.alike.oder] at mark
  have again : state.zone.reservedMemFree ptr =
      state.zone.listAddTail state.zone.resMaxOrder 0 := by
    unfold Zone.reservedMemFree
    rw [if_neg notNull, index]
    simp only
    rw [if_neg counted, mark, Int.toNat_natCast, Nat.sub_self]
    rfl
  intro given
  obtain ⟨areas, _⟩ := given
  rw [again] at areas
  have longer := congrArg List.length (congrFun areas state.zone.resMaxOrder)
  simp [Zone.listAddTail] at longer

/-! ### Runs -/

theorem start_eq_of_inFirstPage {zone : Zone} {ptr : Nat} {left right : Block}
    (onLeft : zone.InFirstPage ptr left) (onRight : zone.InFirstPage ptr right) :
    left.start = right.start := by
  simp only [Zone.InFirstPage, Zone.pageStart, sz4K] at onLeft onRight
  omega

theorem Sound.alloc (fits : sz4K * 2 ^ order < 2 ^ 32) (sound : state.Sound order) (size : Nat) :
    (state.call (.alloc size)).Sound order := by
  obtain ⟨pool, inStep⟩ := sound
  have zeroable : Zeroable ⟨pool, state.zone, state.live⟩ (.alloc size 0) :=
    fun odd => absurd odd (by decide)
  have same := (inStep.alloc (Nat.lt_trans fits (by decide)) zeroable).2
  have next := inStep.step fits zeroable rfl
  refine ⟨(pool.mailboxAlloc size 0).1, ?_⟩
  have blocks : ((pool.mailboxAlloc size 0).2.map pool.mailboxVirtToPage) =
      (state.zone.reservedMemAlloc size).2.map fun addr =>
        (addr - state.zone.startVaddr) / sz4K := by
    simp only at same
    cases taken : (pool.mailboxAlloc size 0).2 with
    | none =>
        cases reserved : (state.zone.reservedMemAlloc size).2 with
        | none => rfl
        | some addr =>
            rw [taken, reserved] at same
            exact same.elim
    | some addr =>
        cases reserved : (state.zone.reservedMemAlloc size).2 with
        | none =>
            rw [taken, reserved] at same
            exact same.elim
        | some start =>
            rw [taken, reserved] at same
            obtain ⟨index, rfl, rfl⟩ := same
            simp only [Option.map_some, virtToPage_pageAddress, Zone.pageStart,
              Nat.add_sub_cancel_left]
            rw [Nat.mul_div_cancel_left _ (by decide)]
  have live : ((state.zone.reservedMemAlloc size).2.map fun addr =>
      (⟨(addr - state.zone.startVaddr) / sz4K, getOrder (align4K size)⟩ : Block)) =
      (pool.mailboxAlloc size 0).2.map fun addr =>
        (⟨pool.mailboxVirtToPage addr, getOrder (align4K size)⟩ : Block) := by
    have mapped := congrArg (Option.map fun page : Nat =>
      (⟨page, getOrder (align4K size)⟩ : Block)) blocks
    rw [Option.map_map, Option.map_map] at mapped
    exact mapped.symm
  simp only [call]
  rw [live]
  exact next

theorem Sound.call (fits : sz4K * 2 ^ order < 2 ^ 32) (sound : state.Sound order)
    {request : ZoneCall} (careful : state.Careful request) :
    (state.call request).Sound order := by
  cases request with
  | alloc size => exact sound.alloc fits size
  | free ptr =>
      simp only [ZoneState.call]
      by_cases owned : ∃ block ∈ state.live, state.zone.InFirstPage ptr block
      · obtain ⟨pool, inStep⟩ := sound
        obtain ⟨block, held, inside⟩ := owned
        have index := firstPage_index fits inStep held inside
        have first := firstPage_index fits inStep held
          ⟨Nat.le_refl _, Nat.lt_add_of_pos_right (by decide)⟩
        have live := inStep.sound.filter_start held inside
          fun _ also => start_eq_of_inFirstPage also inside
        have ran : Pair.step ⟨pool, state.zone, state.live⟩ (.free block) = some
            ⟨pool.mailboxFree (pool.mailboxPageAddress block.start),
              state.zone.reservedMemFree (state.zone.pageStart block.start),
              state.live.erase block⟩ := by
          rw [Pair.step, PoolState.step, if_pos (by exact held)]
          rfl
        refine ⟨pool.mailboxFree (pool.mailboxPageAddress block.start), ?_⟩
        rw [reservedMemFree_index index.1 first.1 index.2 first.2]
        change _ = state.live.erase block at live
        simp only [Pair.poolState] at live
        rw [live]
        have zeroable : Zeroable ⟨pool, state.zone, state.live⟩ (.free block) := trivial
        exact inStep.step fits zeroable ran
      · have stray : state.Stray ptr := fun block held inside => owned ⟨block, held, inside⟩
        have same : state.live.filter (fun block => ¬state.zone.InFirstPage ptr block) =
            state.live := by
          apply List.filter_eq_self.mpr
          intro block held
          exact decide_eq_true (stray block held)
        obtain ⟨notAliased, notWhole⟩ := careful
        rw [same, sound.reservedMemFree_stray stray notAliased notWhole]
        exact sound

theorem Sound.of_reachable (fits : sz4K * 2 ^ order < 2 ^ 32)
    (reached : ((zoneMachine order).restrict ZoneState.Careful).Reachable state) :
    state.Sound order := by
  induction reached with
  | start initial => exact Sound.initial fits initial
  | next _ taken ih =>
      rw [← taken.2]
      exact ih.call fits taken.1

end ZoneState

/-- As long as no stray free goes wrong, a free of a pointer that nobody holds
changes nothing, unless its page number is cut to that of a live block or it frees
the whole pool again. -/
theorem reserved_free_stray_harmless {order : Nat} (fits : sz4K * 2 ^ order < 2 ^ 32)
    {state : ZoneState}
    (reached : ((zoneMachine order).restrict ZoneState.Careful).Reachable state) {ptr : Nat}
    (stray : state.Stray ptr) :
    state.zone.Untouched (state.zone.reservedMemFree ptr) ↔
      ¬state.Aliased ptr ∧ ¬state.WholeCounted ptr := by
  have sound := ZoneState.Sound.of_reachable fits reached
  constructor
  · intro untouched
    constructor
    · intro aliased
      exact ZoneState.Aliased.touched fits sound aliased untouched
    · intro whole
      exact ZoneState.WholeCounted.touched sound whole untouched
  · intro given
    obtain ⟨notAliased, notWhole⟩ := given
    rw [sound.reservedMemFree_stray stray notAliased notWhole]
    exact ⟨rfl, rfl⟩

def reservedFourPages : ZoneState :=
  ⟨Zone.zoneInit (sz4K * 2 ^ 2) sz4K, []⟩

theorem reservedFourPages_init : (zoneMachine 2).init reservedFourPages :=
  ⟨sz4K, by decide, by decide, rfl, rfl⟩

/-- One page of four is handed out; a pointer into the next page frees nothing. -/
theorem reserved_free_stray_harmless_four_pages :
    ∃ state : ZoneState, state.live = [⟨0, 0⟩] ∧ state.Stray (2 * sz4K) ∧
      state.zone.Untouched (state.zone.reservedMemFree (2 * sz4K)) := by
  have initial : ((zoneMachine 2).restrict ZoneState.Careful).Reachable reservedFourPages :=
    .start reservedFourPages_init
  have stray : (reservedFourPages.call (.alloc 1)).Stray (2 * sz4K) := by decide
  have harmless := reserved_free_stray_harmless (by decide : sz4K * 2 ^ 2 < 2 ^ 32)
    (@Machine.Reachable.next _ _ _ _ _ (.alloc 1) initial ⟨trivial, rfl⟩) stray
  have index : (reservedFourPages.call (.alloc 1)).zone.getVirtPageIndex (2 * sz4K) = some 1 := by
    decide
  refine ⟨_, rfl, stray, harmless.mpr ⟨?_, ?_⟩⟩
  · intro given
    obtain ⟨_, block, held, here, _⟩ := given
    rw [index] at here
    obtain rfl : block = ⟨0, 0⟩ := List.mem_singleton.mp held
    exact absurd here (by decide)
  · intro given
    obtain ⟨_, here, _⟩ := given
    rw [index] at here
    exact absurd here (by decide)

/-- A pointer 2^44 bytes above the one page handed out takes that page back. -/
theorem far_pointer_frees_page :
    ∃ state : ZoneState, (zoneMachine 2).Reachable state ∧ state.Stray (sz4K + 2 ^ 44) ∧
      ¬state.zone.Untouched (state.zone.reservedMemFree (sz4K + 2 ^ 44)) := by
  refine ⟨reservedFourPages.call (.alloc 1), ?_, ?_, ?_⟩
  · exact (Machine.Reachable.start reservedFourPages_init).next rfl
  · decide
  · intro given
    obtain ⟨areas, _⟩ := given
    exact absurd (congrFun areas 2) (by decide)

end TzDriver.Reserved
