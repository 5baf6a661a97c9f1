/-
The orders of the LiteOS mailbox pool (`liteos/include/los_adapt.h`,
`liteos/core/mailbox_mempool.c`).

A `size_t` has 32 bits there.  `GET_ORDER` is a macro of the port, `ALIGN` is the kernel's.
The pool itself is that of the linux driver: the descriptors, the free lists, the search, the
split and the merge are the same code.
-/

import Mathlib.Data.List.Find
import TzDriver.Lib.Aligned
import TzDriver.Lib.Orders
import TzDriver.Mailbox.Partition

namespace TzDriver.LiteOs

open TzDriver.Lib TzDriver.Mailbox

/-- `SZ_4K` and `PAGE_SIZE` as a `size_t`. -/
def pageSize : UInt32 := 0x1000

def pageShift : Int := 12

def mailboxPoolSize : UInt32 := 0x400000

/-- `ALIGN(size, SZ_4K)` of the kernel.  A size is rounded up to whole pages; one of the last
page, whose pages do not fit into 32 bits, is not taken below that page. -/
structure KernelAlign where
  align : UInt32 → UInt32
  roundsUp : ∀ size, size.toNat ≤ 0xFFFFF000 →
    (align size).toNat = (size.toNat + (sz4K - 1)) / sz4K * sz4K
  lastPage : ∀ size, 0xFFFFF000 < size.toNat → 0xFFFFF000 ≤ (align size).toNat

/-- The links of the conditional chain of `MAX_POW_TWO`; a link's shift is its value too. -/
def maxPowTwoLinks : List Nat :=
  [31, 30, 29, 28, 27, 26, 25, 25, 23, 22, 21, 20, 19, 18, 17, 16, 15, 14, 13, 12, 11, 10, 9, 8,
    7, 6, 5, 4, 3, 2]

def maxPowTwo (n : UInt32) : Int :=
  match maxPowTwoLinks.find? (fun link => n >>> UInt32.ofNat link != 0) with
  | some link => link
  | none => 1

def getOrder (n : UInt32) : Int :=
  if n ≤ pageSize then 0 else maxPowTwo (n - 1) - pageShift + 1

/-- `MAILBOX_ORDER_MAX`, which is `g_max_oder`. -/
def mailboxOrderMax : Nat := (getOrder mailboxPoolSize).toNat

/-! ### The pool -/

/-- `mailbox_alloc(size, flag)`; `none` is a NULL result. -/
def mailboxAlloc (kernel : KernelAlign) (pool : Mempool) (size : UInt32) (flag : Nat) :
    Mempool × Option Nat :=
  let order := getOrder (kernel.align size)
  if size = 0 then (pool, none)
  else if order > pool.maxOder ∨ order < 0 then (pool, none)
  else pool.allocBlock order.toNat (kernel.align size).toNat flag

/-- `mailbox_mempool_init`; the device nodes that it makes last change nothing of the
pool. -/
def mailboxMempoolInit (zone : Bool) (allPages : Option Nat) (memory : Nat → UInt8)
    (mailboxRegister : Int) : Except Int Mempool :=
  let maxOder := mailboxOrderMax
  if zone = false then .error (-eNoMem)
  else
    match allPages with
    | none => .error (-eNoMem)
    | some base =>
        if mailboxRegister ≠ 0 then .error (-eIo)
        else
          .ok
            { maxOder := maxOder
              pageMax := mailboxPoolSize.toNat / sz4K
              allPages := base
              pages := fun index =>
                if index = 0 then { order := maxOder, count := 0 }
                else { order := -1, count := 0 }
              freeAreas := fun area => if area = maxOder then [0] else []
              memory := memory }

def blockAt (pool : Mempool) (addr : Nat) : Block :=
  ⟨pool.mailboxVirtToPage addr, (pool.pages (pool.mailboxVirtToPage addr)).order.toNat⟩

inductive MailboxCall where
  | alloc (size : UInt32) (flag : Nat)
  | free (block : Block)

def mailboxStep (kernel : KernelAlign) (state : PoolState) : MailboxCall → Option PoolState
  | .alloc size flag =>
      let result := mailboxAlloc kernel state.pool size flag
      some { pool := result.1, live := (result.2.map (blockAt result.1)).toList ++ state.live }
  | .free block =>
      if block ∈ state.live then
        some
          { pool := state.pool.mailboxFree (state.pool.mailboxPageAddress block.start)
            live := state.live.erase block }
      else none

/-- Runs of calls on a new pool. -/
def mailboxMachine (kernel : KernelAlign) : Machine PoolState MailboxCall :=
  { init := fun state =>
      ∃ base memory, 0 < base ∧ mailboxMempoolInit true (some base) memory 0 = .ok state.pool ∧
        state.live = []
    step := fun before call after => mailboxStep kernel before call = some after }

/-! ### The macros -/

theorem link_holds {n : UInt32} {link : Nat} (nonzero : n ≠ 0) (inWord : link < 32) :
    (n >>> UInt32.ofNat link != 0) = decide (link ≤ Nat.log2 n.toNat) := by
  have some_ : n.toNat ≠ 0 := by
    intro zero
    exact nonzero (UInt32.toNat_inj.mp zero)
  have shifted : (n >>> UInt32.ofNat link).toNat = n.toNat / 2 ^ link := by
    rw [UInt32.toNat_shiftRight, Nat.shiftRight_eq_div_pow, UInt32.toNat_ofNat_of_lt' (by
      exact Nat.lt_trans inWord (by decide)), Nat.mod_eq_of_lt inWord]
  rw [Bool.eq_iff_iff, bne_iff_ne, decide_eq_true_iff, Nat.le_log2 some_, ne_eq,
    ← UInt32.toNat_inj, shifted]
  change ¬n.toNat / 2 ^ link = 0 ↔ _
  rw [Nat.div_eq_zero_iff]
  have positive := Nat.two_pow_pos link
  omega

/-- The first link at or below the highest bit; the link of bit 24 is missing. -/
theorem find_link {high : Nat} (inWord : high < 32) :
    maxPowTwoLinks.find? (fun link => decide (link ≤ high)) =
      if high = 24 then some 23 else if high < 2 then none else some high := by
  revert inWord high
  decide

theorem maxPowTwo_eq {n : UInt32} (large : 4 ≤ n.toNat) :
    maxPowTwo n = if Nat.log2 n.toNat = 24 then 23 else (Nat.log2 n.toNat : Int) := by
  have nonzero : n ≠ 0 := by
    intro zero
    rw [zero] at large
    exact absurd large (by decide)
  have some_ : n.toNat ≠ 0 := by omega
  have inWord : Nat.log2 n.toNat < 32 := (Nat.log2_lt some_).mpr n.toNat_lt
  have low : 2 ≤ Nat.log2 n.toNat := (Nat.le_log2 some_).mpr large
  have links : maxPowTwoLinks.find? (fun link => n >>> UInt32.ofNat link != 0) =
      maxPowTwoLinks.find? (fun link => decide (link ≤ Nat.log2 n.toNat)) := by
    apply List.find?_congr
    intro link member
    apply link_holds nonzero
    revert member link
    decide
  rw [maxPowTwo, links, find_link inWord, if_neg (Nat.not_lt.mpr low)]
  by_cases missing : Nat.log2 n.toNat = 24
  · rw [if_pos missing, if_pos missing]
    rfl
  · rw [if_neg missing, if_neg missing]

/-- The sizes whose order `GET_ORDER` gets wrong by one: those of the missing link. -/
def MissingLink (size : Nat) : Prop := 2 ^ 24 < size ∧ size ≤ 2 ^ 25

theorem log2_eq_of_missing {size : Nat} :
    MissingLink size ↔ sz4K < size ∧ Nat.log2 (size - 1) = 24 := by
  unfold MissingLink sz4K
  constructor
  · intro band
    have bits := (Nat.log2_eq_iff (show size - 1 ≠ 0 by omega)).mpr
      (show 2 ^ 24 ≤ size - 1 ∧ size - 1 < 2 ^ (24 + 1) by omega)
    exact ⟨by omega, bits⟩
  · intro ⟨large, bits⟩
    have bounds := (Nat.log2_eq_iff (show size - 1 ≠ 0 by omega)).mp bits
    omega

theorem getOrder_eq {n : UInt32} (large : sz4K < n.toNat) :
    getOrder n =
      if Nat.log2 (n.toNat - 1) = 24 then 12 else (Nat.log2 (n.toNat - 1) : Int) - 12 + 1 := by
  unfold sz4K at large
  have above : ¬n ≤ pageSize := by
    rw [UInt32.le_iff_toNat_le]
    exact Nat.not_le.mpr large
  have before : (n - 1).toNat = n.toNat - 1 := by
    apply UInt32.toNat_sub_of_le
    rw [UInt32.le_iff_toNat_le]
    change 1 ≤ n.toNat
    omega
  rw [getOrder, if_neg above, maxPowTwo_eq (by omega), before]
  unfold pageShift
  split
  · rfl
  · rfl

/-- `GET_ORDER` gives the least order, but for the missing link. -/
theorem getOrder_spec (n : UInt32) :
    ∃ order, LeastOrder sz4K n.toNat order ∧
      (¬MissingLink n.toNat → getOrder n = order) ∧
        (MissingLink n.toNat → getOrder n = 12 ∧ order = 13) := by
  by_cases single : n.toNat ≤ sz4K
  · refine ⟨0, LeastOrder.of_single single, ?_, ?_⟩
    · intro _
      exact if_pos (UInt32.le_iff_toNat_le.mpr single)
    · intro missing
      exact absurd (log2_eq_of_missing.mp missing).1 (Nat.not_lt.mpr single)
  · have large : sz4K < n.toNat := Nat.not_le.mp single
    have least := LeastOrder.of_log2 (show 0 < sz4K by decide) large
    have pages : Nat.log2 ((n.toNat - 1) / sz4K) = Nat.log2 (n.toNat - 1) - 12 :=
      log2_div_two_pow (n.toNat - 1) 12
    have bits : 12 ≤ Nat.log2 (n.toNat - 1) := by
      unfold sz4K at large
      apply (Nat.le_log2 (by omega)).mpr
      omega
    rw [pages] at least
    refine ⟨_, least, ?_, ?_⟩
    · intro present
      have other : Nat.log2 (n.toNat - 1) ≠ 24 := fun same =>
        present (log2_eq_of_missing.mpr ⟨large, same⟩)
      rw [getOrder_eq large, if_neg other]
      omega
    · intro missing
      have same := (log2_eq_of_missing.mp missing).2
      rw [getOrder_eq large, if_pos same, same]
      exact ⟨rfl, rfl⟩

/-! ### What is owed -/

/-- The order of a size is the least one whose block holds it, or a refused one where no
block of the pool holds it. -/
def OrderOwed (maxOder size : Nat) (order : Int) : Prop :=
  (∃ least : Nat, order = least ∧ LeastOrder sz4K size least) ∨
    (order > maxOder ∧ sz4K * 2 ^ maxOder < size)

theorem missingLink_rounded {size : Nat} :
    MissingLink ((size + (sz4K - 1)) / sz4K * sz4K) ↔ MissingLink size := by
  unfold MissingLink sz4K
  omega

theorem leastOrder_top {size : Nat} (large : 2 ^ 31 < size) (inWord : size ≤ 2 ^ 32) :
    LeastOrder sz4K size 20 := by
  apply LeastOrder.of_half
  · unfold sz4K
    omega
  · intro lower same
    obtain rfl : lower = 19 := by omega
    unfold sz4K
    omega

theorem leastOrder_align (kernel : KernelAlign) (size : UInt32) {order : Nat} :
    LeastOrder sz4K (kernel.align size).toNat order ↔ LeastOrder sz4K size.toNat order := by
  by_cases whole : size.toNat ≤ 0xFFFFF000
  · rw [kernel.roundsUp size whole]
    exact LeastOrder.rounded_iff (by decide)
  · have last : 0xFFFFF000 < size.toNat := Nat.not_le.mp whole
    have aligned := kernel.lastPage size last
    have own : LeastOrder sz4K size.toNat 20 :=
      leastOrder_top (by omega) (Nat.le_of_lt size.toNat_lt)
    have top : LeastOrder sz4K (kernel.align size).toNat 20 :=
      leastOrder_top (by omega) (Nat.le_of_lt (kernel.align size).toNat_lt)
    constructor
    · intro least
      rwa [least.unique top]
    · intro least
      rwa [least.unique own]

theorem missingLink_align (kernel : KernelAlign) (size : UInt32) :
    MissingLink (kernel.align size).toNat ↔ MissingLink size.toNat := by
  by_cases whole : size.toNat ≤ 0xFFFFF000
  · rw [kernel.roundsUp size whole, missingLink_rounded]
  · have last : 0xFFFFF000 < size.toNat := Nat.not_le.mp whole
    have aligned := kernel.lastPage size last
    unfold MissingLink
    omega

theorem orderOwed_iff (kernel : KernelAlign) (maxOder : Nat) (size : UInt32) :
    OrderOwed maxOder size.toNat (getOrder (kernel.align size)) ↔
      (MissingLink size.toNat → maxOder < 12) := by
  obtain ⟨least, order, right, wrong⟩ := getOrder_spec (kernel.align size)
  rw [missingLink_align] at right wrong
  have own : LeastOrder sz4K size.toNat least := (leastOrder_align kernel size).mp order
  by_cases missing : MissingLink size.toNat
  · obtain ⟨twelve, rfl⟩ := wrong missing
    rw [twelve]
    constructor
    · intro owed _
      rcases owed with ⟨other, same, otherLeast⟩ | ⟨refused, _⟩
      · have differs := own.unique otherLeast
        omega
      · omega
    · intro small
      have below := small missing
      have bound := Nat.pow_le_pow_right (show 0 < 2 by decide) (Nat.le_of_lt_succ below)
      have low := missing.1
      apply Or.inr
      refine ⟨by omega, ?_⟩
      unfold sz4K
      omega
  · rw [right missing]
    constructor
    · intro _ band
      exact absurd band missing
    · intro _
      exact Or.inl ⟨least, rfl, own⟩

/-! ### Runs of the pool -/

theorem mailboxMempoolInit_eq (zone : Bool) (allPages : Option Nat) (memory : Nat → UInt8)
    (mailboxRegister : Int) :
    mailboxMempoolInit zone allPages memory mailboxRegister =
      Mempool.mailboxMempoolInit (sz4K * 2 ^ 10) zone allPages memory mailboxRegister := by
  have order : mailboxOrderMax = 10 := by decide
  have orderToo : Mailbox.getOrder (sz4K * 2 ^ 10) = 10 := getOrder_pool (by decide)
  unfold mailboxMempoolInit Mempool.mailboxMempoolInit
  rw [order, orderToo]
  rfl

theorem blockAt_of_outcome {pool after : Mempool} {level length addr : Nat}
    (outcome : AllocOutcome pool level length (after, some addr)) :
    blockAt after addr = ⟨pool.mailboxVirtToPage addr, level⟩ := by
  cases outcome with
  | @given area pos enough first memory kept =>
      have frame := takeBlock_frame pool level area pos
      simp only [Mempool.frame, Prod.mk.injEq] at frame
      have page : Mempool.mailboxVirtToPage
          { pool.takeBlock level area pos with memory := memory } (pool.mailboxPageAddress pos) =
            pos := by
        change (pool.mailboxPageAddress pos - (pool.takeBlock level area pos).allPages) / sz4K = pos
        rw [frame.2.2.1]
        exact virtToPage_pageAddress pool pos
      rw [blockAt, page, virtToPage_pageAddress]
      change (⟨pos, ((pool.takeBlock level area pos).pages pos).order.toNat⟩ : Block) = _
      rw [takeBlock_pages_head]
      rfl

theorem mailboxAlloc_outcome32 (kernel : KernelAlign) (pool : Mempool) (size : UInt32)
    (flag : Nat) :
    AllocOutcome pool (getOrder (kernel.align size)).toNat (kernel.align size).toNat
      (mailboxAlloc kernel pool size flag) := by
  unfold mailboxAlloc
  dsimp only
  split
  · exact .refused
  split
  · exact .refused
  exact allocBlock_outcome pool _ _ flag

theorem Sound.mailboxStep {kernel : KernelAlign} {before after : PoolState} {call : MailboxCall}
    (sound : Sound mailboxOrderMax before) (ran : mailboxStep kernel before call = some after) :
    Sound mailboxOrderMax after := by
  cases call with
  | alloc size flag =>
      have outcome := mailboxAlloc_outcome32 kernel before.pool size flag
      have kept := sound.alloc (by decide) outcome
      obtain ⟨⟨pool, result⟩, given⟩ :
          ∃ ended, mailboxAlloc kernel before.pool size flag = ended := ⟨_, rfl⟩
      simp only [LiteOs.mailboxStep, given] at ran
      rw [given] at outcome kept
      rw [← Option.some.inj ran]
      cases result with
      | none => exact kept
      | some addr =>
          simp only [Option.map_some, Option.toList_some, blockAt_of_outcome outcome]
          exact kept
  | free block =>
      simp only [LiteOs.mailboxStep] at ran
      split at ran
      · next held =>
          rw [← Option.some.inj ran]
          exact sound.free (by decide) held
      · cases ran

theorem sound_of_mailboxMachine {kernel : KernelAlign} {state : PoolState}
    (reached : (mailboxMachine kernel).Reachable state) : Sound mailboxOrderMax state := by
  apply reached.invariant
  · intro initial start
    obtain ⟨base, memory, nonNull, initialised, none_⟩ := start
    rw [mailboxMempoolInit_eq] at initialised
    exact Sound.initial (by decide) ⟨base, memory, nonNull, initialised, none_⟩
  · intro before call after sound ran
    exact Sound.mailboxStep sound ran

/-- A block that `mailbox_alloc` hands out: its own part of the pool, not smaller than the
size and less than twice as large as needed. -/
structure BlockOwed (state : PoolState) (size : Nat) (after : Mempool) (addr : Nat) : Prop where
  granted : Granted state size after addr (blockAt after addr)
  enough : size ≤ sz4K * 2 ^ (blockAt after addr).order
  notTwice : sz4K * 2 ^ (blockAt after addr).order < 2 * max size sz4K

theorem blockOwed_of_given {kernel : KernelAlign} {state : PoolState} {size : UInt32}
    (reached : (mailboxMachine kernel).Reachable state) {flag : Nat} {after : Mempool} {addr : Nat}
    (given : mailboxAlloc kernel state.pool size flag = (after, some addr)) :
    BlockOwed state size.toNat after addr := by
  have sound := sound_of_mailboxMachine reached
  have outcome := mailboxAlloc_outcome32 kernel state.pool size flag
  rw [given] at outcome
  have block := blockAt_of_outcome outcome
  have admitted : ¬(getOrder (kernel.align size) > (mailboxOrderMax : Int) ∨
      getOrder (kernel.align size) < 0) := by
    intro refused
    rw [mailboxAlloc, sound.oder] at given
    split at given
    · cases given
    · cases given
  have ten : mailboxOrderMax = 10 := by decide
  rw [ten] at admitted
  have owed := (orderOwed_iff kernel mailboxOrderMax size).mpr fun _ => by decide
  rcases owed with ⟨least, order, leastOrder⟩ | ⟨refused, _⟩
  · rw [order] at admitted
    have fits := leastOrder.fits
    have small := Nat.pow_le_pow_right (show 0 < 2 by decide) (show least ≤ 10 by omega)
    rw [order, Int.toNat_natCast] at outcome block
    have wide : (kernel.align size).toNat = Mailbox.align4K size.toNat := by
      rw [kernel.roundsUp size (by unfold sz4K at fits; omega), Mailbox.align4K]
      unfold sz4K at fits ⊢
      omega
    have room : Mailbox.align4K size.toNat ≤ sz4K * 2 ^ least := by
      rw [← wide]
      exact ((leastOrder_align kernel size).mpr leastOrder).fits
    rw [wide] at outcome
    have granted := sound.granted room outcome
    constructor
    · rw [block]
      exact granted
    · rw [block]
      exact fits
    · rw [block]
      exact leastOrder.block_lt (by decide)
  · rw [ten] at refused
    exact absurd (Or.inl refused) admitted

/-- `mailbox_alloc` asks for the least order or for one that it refuses, and hands out a block of
the right size in every state of the pool. -/
theorem mailbox_alloc_order (kernel : KernelAlign) (size : UInt32) :
    OrderOwed mailboxOrderMax size.toNat (getOrder (kernel.align size)) ∧
      ∀ state, (mailboxMachine kernel).Reachable state → ∀ flag after addr,
        mailboxAlloc kernel state.pool size flag = (after, some addr) →
          BlockOwed state size.toNat after addr := by
  constructor
  · exact (orderOwed_iff kernel mailboxOrderMax size).mpr fun _ => by decide
  · intro state reached flag after addr given
    exact blockOwed_of_given reached given

def newPool : Mempool :=
  { maxOder := 10
    pageMax := 1024
    allPages := sz4K
    pages := fun index => if index = 0 then { order := 10, count := 0 }
      else { order := -1, count := 0 }
    freeAreas := fun area => if area = 10 then [0] else []
    memory := fun _ => 0 }

/-- A kernel that rounds up where the sum does not wrap, and down where it does. -/
def guardedAlign : KernelAlign :=
  { align := fun size =>
      if size + (pageSize - 1) > size then (size + (pageSize - 1)) &&& ~~~(pageSize - 1)
      else size &&& ~~~(pageSize - 1)
    roundsUp := by
      intro size whole
      have mask : (~~~(pageSize - 1)).toNat = 2 ^ 32 - 2 ^ 12 := by decide
      have sum : (size + (pageSize - 1)).toNat = (size.toNat + 4095) % 2 ^ 32 := by
        rw [UInt32.toNat_add]
        rfl
      have above : size + (pageSize - 1) > size := by
        rw [gt_iff_lt, UInt32.lt_iff_toNat_lt, sum]
        omega
      rw [if_pos above, UInt32.toNat_and, sum, mask,
        and_clearLow (by decide) (Nat.mod_lt _ (by decide))]
      unfold sz4K
      omega
    lastPage := by
      intro size last
      have mask : (~~~(pageSize - 1)).toNat = 2 ^ 32 - 2 ^ 12 := by decide
      have small := size.toNat_lt
      have sum : (size + (pageSize - 1)).toNat = (size.toNat + 4095) % 2 ^ 32 := by
        rw [UInt32.toNat_add]
        rfl
      have wraps : ¬size + (pageSize - 1) > size := by
        rw [gt_iff_lt, UInt32.lt_iff_toNat_lt, sum]
        omega
      rw [if_neg wraps, UInt32.toNat_and, mask, and_clearLow (by decide) small]
      omega }

/-- Five thousand bytes get two pages, and nearly 4 GiB are refused. -/
theorem mailbox_alloc_order_two_pages :
    (∃ after addr, mailboxAlloc guardedAlign newPool 5000 0 = (after, some addr) ∧
        BlockOwed ⟨newPool, []⟩ 5000 after addr ∧ (blockAt after addr).order = 1) ∧
      getOrder (guardedAlign.align 0xFFFFFFFF) = 20 ∧
        OrderOwed mailboxOrderMax 0xFFFFFFFF (getOrder (guardedAlign.align 0xFFFFFFFF)) := by
  have start : (mailboxMachine guardedAlign).Reachable ⟨newPool, []⟩ :=
    .start ⟨sz4K, fun _ => 0, by decide, rfl, rfl⟩
  have given : mailboxAlloc guardedAlign newPool 5000 0 =
      (newPool.takeBlock 1 10 0, some sz4K) := rfl
  refine ⟨⟨_, _, given, ?_, ?_⟩, rfl, ?_⟩
  · exact (mailbox_alloc_order guardedAlign 5000).2 _ start 0 _ _ given
  · have head := takeBlock_pages_head newPool 0 1 10
    change ((newPool.takeBlock 1 10 0).pages 0).order.toNat = 1
    rw [head]
    rfl
  · exact (mailbox_alloc_order guardedAlign 0xFFFFFFFF).1

end TzDriver.LiteOs
