/-
The size of the reserved pool (`linux/core/reserved_mempool.c`, `linux/core/mem.c`).

The region that the device tree sets aside is cut down to a power of two; the zone is built
from that size, and `tc_mem_allocate` lets through what is not above a slice of it.
-/

import TzDriver.Lib.Orders
import TzDriver.Reserved.Lockstep

namespace TzDriver.Reserved

open TzDriver.Lib TzDriver.Mailbox

def sliceRate : UInt32 := 4
def maxSlice : UInt32 := 0x400000
def minResMemSize : UInt32 := 0x400000

def mailboxPoolSize : Nat := 0x400000

theorem shiftRight_one_lt {size : UInt32} (nonzero : size ≠ 0) :
    (size >>> 1).toNat < size.toNat := by
  have positive : size.toNat ≠ 0 := fun zero => nonzero (UInt32.toNat_inj.mp zero)
  rw [UInt32.toNat_shiftRight]
  change size.toNat >>> 1 < size.toNat
  rw [Nat.shiftRight_eq_div_pow]
  omega

/-- The loop of `calc_res_mem_size`. -/
def shiftLoop (size idx : UInt32) : UInt32 :=
  if nonzero : size ≠ 0 then shiftLoop (size >>> 1) (idx + 1) else idx
termination_by size.toNat
decreasing_by exact shiftRight_one_lt nonzero

/-- `calc_res_mem_size`; a shift of the int 1 by 31 gives the sign bit. -/
def calcResMemSize (rsize : UInt32) : UInt32 :=
  if rsize = 0 ∨ rsize &&& (rsize - 1) = 0 then rsize else 1 <<< (shiftLoop rsize 0 - 1)

/-- `g_start_vaddr`, `g_start_paddr` and `g_res_mem_size`. -/
structure ResMem where
  startVaddr : Nat
  startPaddr : Nat
  resMemSize : UInt32

namespace ResMem

variable (mem : ResMem)

def getResPageSize : UInt32 := mem.resMemSize >>> 12

def getResMemSliceSize : UInt32 :=
  let size := mem.resMemSize >>> sliceRate
  if size > maxSlice then maxSlice else size

def existResMem : Bool := mem.startVaddr != 0 && mem.resMemSize != 0

/-- The zone of `reserved_mempool_init`. -/
def zone : Zone := Zone.zoneInit mem.resMemSize.toNat mem.startVaddr

end ResMem

def noResMem : ResMem := { startVaddr := 0, startPaddr := 0, resMemSize := 0 }

/-- `load_reserved_mem`.  The arguments are what it obtains from elsewhere: the node of the
device tree, the first and the last address of its region, and the result of `ioremap`. -/
def loadReservedMem (node : Bool) (resource : Option (Nat × Nat)) (mapped : Option Nat) :
    Except Int ResMem :=
  if node = false then .ok noResMem
  else
    match resource with
    | none => .error (-eNoDev)
    | some (start, last) =>
        let resSize := UInt32.ofNat (last - start + 1)
        if resSize < minResMemSize then .error (-eInval)
        else
          match mapped with
          | none => .error (-eNoMem)
          | some vaddr =>
              .ok { startVaddr := vaddr, startPaddr := start, resMemSize := calcResMemSize resSize }

/-! ### Requests -/

inductive MemType where
  | vmalloc
  | reserved
deriving DecidableEq

/-- `struct tc_ns_shared_mem` after `init_shared_mem`. -/
structure Allocated where
  memType : MemType
  kernelAddr : Nat
  len : UInt32

/-- The check of `tc_mem_allocate` on the aligned length. -/
def ResMem.admits (mem : ResMem) (len : Nat) : Bool :=
  decide (align4K len ≤ mem.getResMemSliceSize.toNat)

/-- `tc_mem_allocate`; `record` tells how `kmalloc` goes, and `system` what `vmalloc_user`
returns. -/
def tcMemAllocate (mem : ResMem) (zone : Zone) (len : Nat) (record : Bool) (system : Option Nat) :
    Zone × Except Int Allocated :=
  if record = false then (zone, .error (-eNoMem))
  else if mem.existResMem && !mem.admits len then (zone, .error (-eInval))
  else
    let (after, addr) :=
      if mem.existResMem then zone.reservedMemAlloc (align4K len) else (zone, none)
    match addr with
    | some kernelAddr => (after, .ok ⟨.reserved, kernelAddr, UInt32.ofNat (align4K len)⟩)
    | none =>
        if align4K len > mailboxPoolSize then (after, .error (-eInval))
        else
          match system with
          | none => (after, .error (-eNoMem))
          | some kernelAddr => (after, .ok ⟨.vmalloc, kernelAddr, UInt32.ofNat (align4K len)⟩)

/-! ### The power of two -/

theorem shiftLoop_eq (size idx : UInt32) :
    shiftLoop size idx =
      if size = 0 then idx else idx + UInt32.ofNat (Nat.log2 size.toNat + 1) := by
  induction size, idx using shiftLoop.induct with
  | case1 size idx nonzero ih =>
      have some_ : size.toNat ≠ 0 := fun zero => nonzero (UInt32.toNat_inj.mp zero)
      have half : (size >>> 1).toNat = size.toNat / 2 ^ 1 := by
        rw [UInt32.toNat_shiftRight, ← Nat.shiftRight_eq_div_pow]
        rfl
      rw [shiftLoop, dif_pos nonzero, ih, if_neg nonzero, half, log2_div_two_pow]
      by_cases last : size >>> 1 = 0
      · have zero : size.toNat / 2 ^ 1 = 0 := by
          rw [← half, last]
          rfl
        have one : size.toNat = 1 := by omega
        rw [if_pos last, one]
        rfl
      · have more : (size >>> 1).toNat ≠ 0 := fun zero => last (UInt32.toNat_inj.mp zero)
        have bits : 1 ≤ Nat.log2 size.toNat := by
          apply (Nat.le_log2 some_).mpr
          omega
        rw [if_neg last, Nat.sub_add_cancel bits, Nat.add_comm, UInt32.ofNat_add]
        rw [UInt32.add_assoc]
        rfl
  | case2 size idx zero =>
      have cleared : size = 0 := not_not.mp zero
      rw [shiftLoop, dif_neg zero, if_pos cleared]

theorem calcResMemSize_toNat {rsize : UInt32} (nonzero : rsize ≠ 0) :
    (calcResMemSize rsize).toNat = 2 ^ Nat.log2 rsize.toNat := by
  have some_ : rsize.toNat ≠ 0 := fun zero => nonzero (UInt32.toNat_inj.mp zero)
  have inWord : Nat.log2 rsize.toNat < 32 := (Nat.log2_lt some_).mpr rsize.toNat_lt
  have before : (rsize - 1).toNat = rsize.toNat - 1 := by
    apply UInt32.toNat_sub_of_le
    rw [UInt32.le_iff_toNat_le]
    change 1 ≤ rsize.toNat
    omega
  have mask : rsize &&& (rsize - 1) = 0 ↔ rsize.toNat.isPowerOfTwo := by
    rw [← Nat.and_sub_one_eq_zero_iff_isPowerOfTwo some_, ← before, ← UInt32.toNat_and,
      ← UInt32.toNat_inj]
    rfl
  unfold calcResMemSize
  by_cases power : rsize.toNat.isPowerOfTwo
  · rw [if_pos (Or.inr (mask.mpr power)), eq_two_pow_log2 power]
  · have other : ¬(rsize = 0 ∨ rsize &&& (rsize - 1) = 0) := by
      rintro (zero | single)
      · exact nonzero zero
      · exact power (mask.mp single)
    have shift : shiftLoop rsize 0 - 1 = UInt32.ofNat (Nat.log2 rsize.toNat) := by
      rw [shiftLoop_eq, if_neg nonzero, UInt32.zero_add, UInt32.ofNat_add]
      exact UInt32.add_sub_cancel _ 1
    have bound : 2 ^ Nat.log2 rsize.toNat < 2 ^ 32 := Nat.pow_lt_pow_right (by decide) inWord
    rw [if_neg other, shift, UInt32.toNat_shiftLeft, UInt32.toNat_ofNat_of_lt' (by
      exact Nat.lt_trans inWord (by decide)), Nat.mod_eq_of_lt inWord]
    change 1 <<< Nat.log2 rsize.toNat % 2 ^ 32 = _
    rw [Nat.one_shiftLeft, Nat.mod_eq_of_lt bound]

/-! ### The zone -/

/-- The linux `get_order` gives the least order of a size that is not zero. -/
theorem getOrder_least {size : Nat} (positive : 0 < size) (fits : size < 2 ^ 64) :
    LeastOrder sz4K size (getOrder size) := by
  have wrap : (size + (2 ^ 64 - 1)) % 2 ^ 64 = size - 1 := by omega
  unfold getOrder fls64
  rw [wrap]
  by_cases single : size ≤ sz4K
  · have none_ : (size - 1) / sz4K = 0 := by
      unfold sz4K at single ⊢
      omega
    rw [if_pos none_]
    exact LeastOrder.of_single single
  · have more : (size - 1) / sz4K ≠ 0 := by
      unfold sz4K at single ⊢
      omega
    rw [if_neg more]
    exact LeastOrder.of_log2 (by decide) (Nat.not_le.mp single)

/-- The free lists hold one block, and it is the whole zone. -/
structure OneBlock (zone : Zone) : Prop where
  listed : zone.freeAreas zone.resMaxOrder = [0]
  others : ∀ order, order ≠ zone.resMaxOrder → zone.freeAreas order = []
  head : zone.pages 0 = { order := zone.resMaxOrder, count := 0 }
  covers : 2 ^ zone.resMaxOrder = zone.resPageSize

theorem oneBlock_of_two_pow {order : Nat} (fits : sz4K * 2 ^ order < 2 ^ 64) (base : Nat) :
    OneBlock (Zone.zoneInit (sz4K * 2 ^ order) base) ∧
      (Zone.zoneInit (sz4K * 2 ^ order) base).resMaxOrder = order := by
  have top : getOrder (sz4K * 2 ^ order) = order := getOrder_pool fits
  have pages : sz4K * 2 ^ order / sz4K = 2 ^ order := Nat.mul_div_cancel_left _ (by decide)
  have heads : (List.range (sz4K * 2 ^ order / sz4K / 2 ^ order)).map (· * 2 ^ order) = [0] := by
    rw [pages, Nat.div_self (Nat.two_pow_pos order)]
    simp
  have same : (Zone.zoneInit (sz4K * 2 ^ order) base).resMaxOrder = order := top
  refine ⟨?_, same⟩
  constructor
  · rw [same]
    change (if order = getOrder (sz4K * 2 ^ order) then _ else []) = _
    rw [top, if_pos rfl, heads]
  · intro other differs
    rw [same] at differs
    change (if other = getOrder (sz4K * 2 ^ order) then _ else []) = _
    rw [top, if_neg differs]
  · rw [same]
    change (if 0 ∈ _ then MbPage.mk _ 0 else _) = _
    rw [top, heads, if_pos (List.mem_singleton.mpr rfl)]
  · rw [same]
    exact pages.symm

theorem calcResMemSize_pages {rsize : UInt32} (enough : minResMemSize ≤ rsize) :
    ∃ order, (calcResMemSize rsize).toNat = sz4K * 2 ^ order ∧ order < 20 := by
  rw [UInt32.le_iff_toNat_le] at enough
  change 4194304 ≤ rsize.toNat at enough
  have some_ : rsize.toNat ≠ 0 := by omega
  have nonzero : rsize ≠ 0 := by
    intro zero
    rw [zero] at some_
    exact some_ rfl
  have low : 22 ≤ Nat.log2 rsize.toNat := (Nat.le_log2 some_).mpr enough
  have high : Nat.log2 rsize.toNat < 32 := (Nat.log2_lt some_).mpr rsize.toNat_lt
  refine ⟨Nat.log2 rsize.toNat - 12, ?_, by omega⟩
  have split : 12 + (Nat.log2 rsize.toNat - 12) = Nat.log2 rsize.toNat := by omega
  change _ = 2 ^ 12 * _
  rw [← Nat.pow_add, split, calcResMemSize_toNat nonzero]

theorem align4K_aligned (len : Nat) : align4K (align4K len) = align4K len := by
  unfold align4K sz4K
  omega

theorem getResMemSliceSize_le (mem : ResMem) :
    mem.getResMemSliceSize.toNat ≤ mem.resMemSize.toNat := by
  have slice : (mem.resMemSize >>> sliceRate).toNat = mem.resMemSize.toNat / 2 ^ 4 := by
    rw [UInt32.toNat_shiftRight, ← Nat.shiftRight_eq_div_pow]
    rfl
  have below : mem.resMemSize.toNat / 2 ^ 4 ≤ mem.resMemSize.toNat := Nat.div_le_self _ _
  unfold ResMem.getResMemSliceSize
  dsimp only
  split
  · next above =>
      rw [gt_iff_lt, UInt32.lt_iff_toNat_lt, slice] at above
      omega
  · rw [slice]
    exact below

/-! ### Requests on a new zone -/

theorem searchAreas_skip {zone : Zone} {order : Nat} {front : List Nat}
    (empty : ∀ area ∈ front, zone.freeAreas area = []) (rest : List Nat) :
    zone.searchAreas order (front ++ rest) = zone.searchAreas order rest := by
  induction front with
  | nil => rfl
  | cons area front ih =>
      have none_ := empty area List.mem_cons_self
      rw [List.cons_append, Zone.searchAreas, none_]
      apply ih
      intro other member
      exact empty other (List.mem_cons_of_mem area member)

/-- `valid_param` refuses an empty request whatever its order. -/
theorem reservedMemAlloc_zero (zone : Zone) : zone.reservedMemAlloc 0 = (zone, none) := by
  obtain ⟨order, asked⟩ : ∃ order, getOrder (align4K 0) = order := ⟨_, rfl⟩
  rw [reservedMemAlloc_eq asked]
  apply if_neg
  intro valid
  exact Nat.lt_irrefl 0 valid.1

theorem reservedMemAlloc_new {zone : Zone} (one : OneBlock zone) {size order : Nat}
    (positive : 0 < size) (asked : getOrder (align4K size) = order)
    (small : order ≤ zone.resMaxOrder) :
    zone.reservedMemAlloc size =
      (zone.takeBlock order zone.resMaxOrder 0, some zone.startVaddr) := by
  have count : zone.resMaxOrder + 1 - order = zone.resMaxOrder - order + 1 := by omega
  have last : order + (zone.resMaxOrder - order) = zone.resMaxOrder := by omega
  have search : zone.searchAreas order (List.range' order (zone.resMaxOrder + 1 - order)) =
      (zone.takeBlock order zone.resMaxOrder 0, some 0) := by
    rw [count, List.range'_1_concat, last, searchAreas_skip, Zone.searchAreas, one.listed]
    intro area member
    apply one.others
    have below := (List.mem_range'_1.mp member).2
    omega
  have frame : (zone.takeBlock order zone.resMaxOrder 0).frame = zone.frame :=
    splitLoop_zone_frame _ _ _
  have base : (zone.takeBlock order zone.resMaxOrder 0).startVaddr = zone.startVaddr :=
    congrArg (fun constants => constants.2.2) frame
  rw [reservedMemAlloc_eq asked, if_pos ⟨positive, small⟩, search]
  change (_, some (_ + sz4K * 0)) = _
  rw [Nat.mul_zero, Nat.add_zero, base]

section Sized

variable {rsize : UInt32} (enough : minResMemSize ≤ rsize) {mem : ResMem}
  (sized : mem.resMemSize = calcResMemSize rsize)

include enough sized

theorem resMemSize_isGreatest :
    IsGreatest {power | power.isPowerOfTwo ∧ power ≤ rsize.toNat} mem.resMemSize.toNat := by
  have positive : 0 < rsize.toNat := by
    rw [UInt32.le_iff_toNat_le] at enough
    exact Nat.lt_of_lt_of_le (by decide) enough
  have nonzero : rsize ≠ 0 := by
    intro zero
    rw [zero] at positive
    exact absurd positive (by decide)
  rw [sized, calcResMemSize_toNat nonzero]
  exact isGreatest_two_pow_log2 positive

theorem zone_oneBlock :
    OneBlock mem.zone ∧ mem.resMemSize.toNat = sz4K * 2 ^ mem.zone.resMaxOrder := by
  obtain ⟨order, pages, small⟩ := calcResMemSize_pages enough
  have bound := Nat.pow_lt_pow_right (by decide : 1 < 2) small
  have fits : sz4K * 2 ^ order < 2 ^ 64 := by
    unfold sz4K
    omega
  have size : mem.resMemSize.toNat = sz4K * 2 ^ order := by rw [sized, pages]
  have zone : mem.zone = Zone.zoneInit (sz4K * 2 ^ order) mem.startVaddr := by
    rw [ResMem.zone, size]
  obtain ⟨one, top⟩ := oneBlock_of_two_pow fits mem.startVaddr
  rw [zone, top]
  exact ⟨one, size⟩

theorem admitted_order_le {len : Nat} (request : 0 < align4K len)
    (admitted : mem.admits len = true) :
    getOrder (align4K (align4K len)) ≤ mem.zone.resMaxOrder := by
  have slice := getResMemSliceSize_le mem
  have block := (zone_oneBlock enough sized).2
  have below : align4K len ≤ sz4K * 2 ^ mem.zone.resMaxOrder := by
    rw [← block]
    exact Nat.le_trans (of_decide_eq_true admitted) slice
  rw [align4K_aligned]
  exact (getOrder_least request (align4K_lt len)).2 below

/-- On the new zone `tc_mem_allocate` serves what it admits from the start of the region. -/
theorem tcMemAllocate_new (mapped : mem.startVaddr ≠ 0) {len : Nat} (request : 0 < align4K len)
    (admitted : mem.admits len = true) (system : Option Nat) :
    (tcMemAllocate mem mem.zone len true system).2 =
      .ok ⟨.reserved, mem.startVaddr, UInt32.ofNat (align4K len)⟩ := by
  obtain ⟨one, size⟩ := zone_oneBlock enough sized
  obtain ⟨order, asked⟩ : ∃ order, getOrder (align4K (align4K len)) = order := ⟨_, rfl⟩
  have small : order ≤ mem.zone.resMaxOrder := by
    rw [← asked]
    exact admitted_order_le enough sized request admitted
  have exists_ : mem.existResMem = true := by
    have some_ : mem.resMemSize ≠ 0 := by
      intro zero
      rw [zero] at size
      have positive := Nat.two_pow_pos mem.zone.resMaxOrder
      unfold sz4K at size
      change 0 = _ at size
      omega
    rw [ResMem.existResMem, Bool.and_eq_true, bne_iff_ne, bne_iff_ne]
    exact ⟨mapped, some_⟩
  unfold tcMemAllocate
  rw [exists_, admitted, reservedMemAlloc_new one request asked small]
  rfl

/-- Every region of at least 4 MiB is cut to the greatest power of two in it; the zone of that
size is one free block of the maximal order over all its pages; and no request that
`tc_mem_allocate` admits has a larger order, a length that aligns to 0 being none: it is
refused before its order is looked at. -/
theorem reserved_pool_sized :
    IsGreatest {power | power.isPowerOfTwo ∧ power ≤ rsize.toNat} mem.resMemSize.toNat ∧
      OneBlock mem.zone ∧ mem.zone.resPageSize = mem.getResPageSize.toNat ∧
        ∀ len, mem.admits len = true →
          (align4K len = 0 → ∀ zone : Zone, zone.reservedMemAlloc (align4K len) = (zone, none)) ∧
            (0 < align4K len → getOrder (align4K (align4K len)) ≤ mem.zone.resMaxOrder) := by
  refine ⟨resMemSize_isGreatest enough sized, (zone_oneBlock enough sized).1, ?_, ?_⟩
  · change mem.resMemSize.toNat / sz4K = _
    rw [ResMem.getResPageSize, UInt32.toNat_shiftRight, Nat.shiftRight_eq_div_pow]
    rfl
  · intro len admitted
    constructor
    · intro zero zone
      rw [zero]
      exact reservedMemAlloc_zero zone
    · intro request
      exact admitted_order_le enough sized request admitted

end Sized

/-- The region of the device tree that `load_reserved_mem` keeps has at least 4 MiB. -/
theorem loadReservedMem_sized {resource : Option (Nat × Nat)} {mapped : Option Nat} {mem : ResMem}
    (loaded : loadReservedMem true resource mapped = .ok mem) :
    ∃ rsize, minResMemSize ≤ rsize ∧ mem.resMemSize = calcResMemSize rsize := by
  cases resource with
  | none => cases loaded
  | some region =>
      obtain ⟨start, last⟩ := region
      simp only [loadReservedMem] at loaded
      split at loaded
      · next other => cases other
      · split at loaded
        · cases loaded
        · next large =>
            cases mapped with
            | none => cases loaded
            | some vaddr =>
                cases loaded
                exact ⟨_, UInt32.not_lt.mp large, rfl⟩

/-- Five MiB are cut to four, and a slice of them to 256 KiB. -/
def fiveMiB : ResMem :=
  { startVaddr := 0x80000000, startPaddr := 0x40000000, resMemSize := calcResMemSize 0x500000 }

theorem reserved_pool_sized_five_mib :
    OneBlock fiveMiB.zone ∧ getOrder (align4K (align4K 0x40000)) ≤ fiveMiB.zone.resMaxOrder := by
  have size : fiveMiB.resMemSize = 0x400000 := by
    apply UInt32.toNat_inj.mp
    change (calcResMemSize 0x500000).toNat = _
    rw [calcResMemSize_toNat (by decide)]
    decide
  have admitted : fiveMiB.admits 0x40000 = true := by
    unfold ResMem.admits ResMem.getResMemSliceSize
    rw [size]
    decide
  have pool := @reserved_pool_sized 0x500000 (by decide) fiveMiB rfl
  exact ⟨pool.2.1, (pool.2.2.2 0x40000 admitted).2 (by decide)⟩

end TzDriver.Reserved
