/-
Shared memory that is not copied (`transfer_shared_mem` in `linux/core/gp_ops.c`,
CONFIG_NOCOPY_SHAREDMEM).

The TEE gets a list of the pages that hold the client's buffer.  Its addresses have 64 bits
and its lengths 32.  The list is written here with every word checked against the buffer
allocated for it: `none` is a write outside of it.
-/

import TzDriver.Lib.Aligned
import TzDriver.Platform
import TzDriver.Types

namespace TzDriver.Client

open TzDriver.Lib

/-- `PAGE_SHIFT`, which is 12, 14 or 16. -/
structure PageShift where
  shift : Nat
  small : shift ≤ 16

namespace PageShift

variable (page : PageShift)

def size : UInt64 := UInt64.ofNat (2 ^ page.shift)

def mask : UInt64 := ~~~(page.size - 1)

def align (value : UInt32) : UInt32 :=
  (value + (page.size.toUInt32 - 1)) &&& ~~~(page.size.toUInt32 - 1)

end PageShift

def sz256M : UInt32 := 0x10000000

def sizeofPagelistInfo : UInt64 := 32

def sizeofUint64 : UInt64 := 8

/-- `read` is the size found at `size_addr`, `none` where it cannot be read. -/
def checkBufferForSharedmem (read : Option UInt32) (param : ClientParam) : Int :=
  match read with
  | none => -eFault
  | some bufferSize =>
      if bufferSize = 0 ∨ bufferSize > sz256M then -eNoMem
      else if param.offset ≥ sz256M ∨
          0xFFFFFFFFFFFFFFFF - param.bufferAddress ≤ param.offset.toUInt64 then -eFault
      else 0

/-! ### The page list -/

/-- What `fill_shared_mem_info` meets: whether `vmalloc` gives an array, the result of
`get_user_pages`, and the physical address of each page it gives, `none` for `NULL`. -/
structure Pinning where
  vmalloc : Bool
  getUserPages : Int
  page : Nat → Option UInt64

/-- The value returned, the words of the buffer, and how many pages were given to
`release_pages`. -/
structure Filled where
  ret : Int
  words : Nat → UInt64
  released : Option UInt32

/-- `words[index] = value` in a buffer of `buffLen` bytes. -/
def storeWord (buffLen : Nat) (words : Nat → UInt64) (index : Nat) (value : UInt64) :
    Option (Nat → UInt64) :=
  if 8 * index + 8 ≤ buffLen then some fun other => if other = index then value else words other
  else none

section Fill

variable (page : PageShift) (pinning : Pinning) (buffLen : Nat)

/-- The loop of `fill_shared_mem_info` with `left` pages to go. -/
def fillLoop (pageNum : UInt32) : Nat → Nat → (Nat → UInt64) → Option Filled
  | 0, _, words => some ⟨0, words, none⟩
  | left + 1, index, words =>
      match pinning.page index with
      | none => some ⟨-eFault, words, some pageNum⟩
      | some addr =>
          (storeWord buffLen words (4 + index) addr).bind (fillLoop pageNum left (index + 1))

def storeHeader (pagesNo offset bufferSize : UInt32) (words : Nat → UInt64) :
    Option (Nat → UInt64) :=
  (storeWord buffLen words 0 pagesNo.toUInt64).bind fun words =>
    (storeWord buffLen words 1 page.size).bind fun words =>
      (storeWord buffLen words 2 offset.toUInt64).bind fun words =>
        storeWord buffLen words 3 bufferSize.toUInt64

def fillSharedMemInfo (pagesNo offset bufferSize : UInt32) (words : Nat → UInt64) :
    Option Filled :=
  if pagesNo = 0 then some ⟨-eFault, words, none⟩
  else if pinning.vmalloc = false then some ⟨-eFault, words, none⟩
  else
    let pageNum := UInt32.ofInt pinning.getUserPages
    if pageNum ≠ pagesNo then
      some ⟨-eFault, words, if pageNum > 0 then some pageNum else none⟩
    else
      (storeHeader page buffLen pagesNo offset bufferSize words).bind
        (fillLoop pinning buffLen pageNum pagesNo.toNat 0)

end Fill

/-! ### The transfer -/

/-- The variables of `transfer_shared_mem`. -/
structure SharedPages where
  buff : UInt64
  startVaddr : UInt64
  offset : UInt32
  pagesNo : UInt32
  buffLen : UInt32

def sharedPages (page : PageShift) (param : ClientParam) (bufferSize : UInt32) : SharedPages :=
  let buff := param.bufferAddress + param.offset.toUInt64
  let offset := (buff.toUInt32.toUInt64 &&& ~~~page.mask).toUInt32
  let pagesNo := ((page.align (offset + bufferSize)).toUInt64 / page.size).toUInt32
  { buff := buff
    startVaddr := buff &&& page.mask
    offset := offset
    pagesNo := pagesNo
    buffLen := (sizeofPagelistInfo + sizeofUint64 * pagesNo.toUInt64).toUInt32 }

/-- The size at `size_addr`, the result of `mailbox_alloc`, and `mailbox_virt_to_phys`. -/
structure TransferWorld where
  read : Option UInt32
  mailboxAlloc : Option UInt64
  virtToPhys : UInt64 → UInt64
  pinning : Pinning

/-- What a transfer stores in `op_params` for its parameter, and the buffer it fills. -/
structure TransferredMem where
  tempBuffer : UInt64
  tempSize : UInt32
  memrefBuffer : UInt32
  bufferHAddr : UInt32
  memrefSize : UInt32
  transParamtype : UInt32
  words : Nat → UInt64

/-- What is stored for a filled list. -/
def storedMem (world : TransferWorld) (paramType : UInt32) (pages : SharedPages) (buff : UInt64)
    (words : Nat → UInt64) : TransferredMem :=
  { tempBuffer := buff
    tempSize := pages.buffLen
    memrefBuffer := (world.virtToPhys buff).toUInt32
    bufferHAddr := (world.virtToPhys buff >>> 32).toUInt32
    memrefSize := pages.buffLen
    transParamtype := paramType
    words := words }

/-- The buffer comes zeroed. -/
def transferSharedMem (page : PageShift) (world : TransferWorld) (params : Fin 4 → ClientParam)
    (paramType : UInt32) (index : Nat) : Option (Except Int TransferredMem) :=
  if inside : index < 4 then
    let param := params ⟨index, inside⟩
    if checkBufferForSharedmem world.read param ≠ 0 then some (.error (-eInval))
    else
      let bufferSize := world.read.getD 0
      let pages := sharedPages page param bufferSize
      match world.mailboxAlloc with
      | none => some (.error (-eFault))
      | some buff =>
          (fillSharedMemInfo page world.pinning pages.buffLen.toNat pages.pagesNo pages.offset
            bufferSize fun _ => 0).map fun filled =>
              if filled.ret ≠ 0 then .error (-eFault)
              else .ok (storedMem world paramType pages buff filled.words)
  else some (.error (-eInval))

/-! ### Page sizes and masks -/

namespace PageShift

variable (page : PageShift)

def unit : Nat := 2 ^ page.shift

theorem unit_pos : 0 < page.unit :=
  Nat.two_pow_pos page.shift

theorem unit_le : page.unit ≤ 65536 :=
  Nat.pow_le_pow_right (by decide) page.small

theorem size_toNat : page.size.toNat = page.unit := by
  have small := page.unit_le
  unfold size
  rw [UInt64.toNat_ofNat']
  change page.unit % 18446744073709551616 = page.unit
  omega

theorem size_toUInt32_toNat : page.size.toUInt32.toNat = page.unit := by
  have small := page.unit_le
  rw [UInt64.toNat_toUInt32, size_toNat]
  omega

theorem low_toNat : (page.size - 1).toNat = page.unit - 1 := by
  have one : (1 : UInt64).toNat = 1 := rfl
  have ordered : (1 : UInt64) ≤ page.size := by
    rw [UInt64.le_iff_toNat_le, size_toNat]
    exact page.unit_pos
  rw [UInt64.toNat_sub_of_le _ _ ordered, size_toNat, one]

theorem low32_toNat : (page.size.toUInt32 - 1).toNat = page.unit - 1 := by
  have one : (1 : UInt32).toNat = 1 := rfl
  have ordered : (1 : UInt32) ≤ page.size.toUInt32 := by
    rw [UInt32.le_iff_toNat_le, size_toUInt32_toNat]
    exact page.unit_pos
  rw [UInt32.toNat_sub_of_le _ _ ordered, size_toUInt32_toNat, one]

/-- `addr & PAGE_MASK` is the first address of the page. -/
theorem and_mask_toNat (addr : UInt64) :
    (addr &&& page.mask).toNat = addr.toNat / page.unit * page.unit := by
  have small := page.unit_le
  have positive := page.unit_pos
  have mask : page.mask.toNat = 2 ^ 64 - 2 ^ page.shift := by
    unfold PageShift.mask
    rw [UInt64.toNat_not, low_toNat]
    unfold unit at *
    have size : UInt64.size = 18446744073709551616 := rfl
    omega
  rw [UInt64.toNat_and, mask]
  exact and_clearLow (Nat.le_trans page.small (by decide)) addr.toNat_lt

theorem and_not_mask_toNat (addr : UInt64) :
    (addr &&& ~~~page.mask).toNat = addr.toNat % page.unit := by
  unfold PageShift.mask
  rw [UInt64.not_not, UInt64.toNat_and, low_toNat]
  exact Nat.and_two_pow_sub_one_eq_mod _ _

/-- `PAGE_ALIGN` rounds up where its sum has room. -/
theorem align_toNat {value : UInt32} (room : value.toNat + (page.unit - 1) < 4294967296) :
    (page.align value).toNat = (value.toNat + (page.unit - 1)) / page.unit * page.unit := by
  have small := page.unit_le
  have positive := page.unit_pos
  have sum : (value + (page.size.toUInt32 - 1)).toNat = value.toNat + (page.unit - 1) := by
    rw [UInt32.toNat_add, low32_toNat]
    exact Nat.mod_eq_of_lt room
  have mask : (~~~(page.size.toUInt32 - 1)).toNat = 2 ^ 32 - 2 ^ page.shift := by
    rw [UInt32.toNat_not, low32_toNat]
    unfold unit at *
    have size : UInt32.size = 4294967296 := rfl
    omega
  unfold align
  rw [UInt32.toNat_and, mask, sum]
  exact and_clearLow (Nat.le_trans page.small (by decide)) room

end PageShift

/-! ### The arithmetic of an admitted buffer -/

/-- No sum of the transfer wraps and no value is cut. -/
structure NoWrap (page : PageShift) (param : ClientParam) (bufferSize : UInt32) : Prop where
  buff : (sharedPages page param bufferSize).buff.toNat =
    param.bufferAddress.toNat + param.offset.toNat
  offset : (sharedPages page param bufferSize).offset.toNat =
    (param.bufferAddress.toNat + param.offset.toNat) % page.unit
  span : ((sharedPages page param bufferSize).offset + bufferSize).toNat =
    (sharedPages page param bufferSize).offset.toNat + bufferSize.toNat
  rounded : ((sharedPages page param bufferSize).offset + bufferSize +
      (page.size.toUInt32 - 1)).toNat =
    (sharedPages page param bufferSize).offset.toNat + bufferSize.toNat + (page.unit - 1)
  pagesNo : (sharedPages page param bufferSize).pagesNo.toNat * page.unit =
    (page.align ((sharedPages page param bufferSize).offset + bufferSize)).toNat
  listLen : (sizeofUint64 * (sharedPages page param bufferSize).pagesNo.toUInt64).toNat =
    8 * (sharedPages page param bufferSize).pagesNo.toNat
  buffLen : (sharedPages page param bufferSize).buffLen.toNat =
    32 + 8 * (sharedPages page param bufferSize).pagesNo.toNat

section Admitted

variable {page : PageShift} {param : ClientParam} {bufferSize : UInt32}

theorem checkBufferForSharedmem_bounds
    (admitted : checkBufferForSharedmem (some bufferSize) param = 0) :
    0 < bufferSize.toNat ∧ bufferSize.toNat ≤ 268435456 ∧
      param.bufferAddress.toNat + param.offset.toNat < 18446744073709551615 := by
  have limit : sz256M.toNat = 268435456 := rfl
  have highest : (0xFFFFFFFFFFFFFFFF : UInt64).toNat = 18446744073709551615 := rfl
  unfold checkBufferForSharedmem at admitted
  simp only at admitted
  split at admitted
  · exact absurd admitted (by decide)
  · next sized =>
    split at admitted
    · exact absurd admitted (by decide)
    · next room =>
      obtain ⟨nonzero, small⟩ := not_or.mp sized
      obtain ⟨-, apart⟩ := not_or.mp room
      have below : param.bufferAddress ≤ 0xFFFFFFFFFFFFFFFF := by
        rw [UInt64.le_iff_toNat_le, highest]
        have bound := param.bufferAddress.toNat_lt
        omega
      rw [UInt64.not_le, UInt64.lt_iff_toNat_lt, UInt64.toNat_sub_of_le _ _ below, highest,
        UInt32.toNat_toUInt64] at apart
      rw [UInt32.not_lt, UInt32.le_iff_toNat_le, limit] at small
      have positive : bufferSize.toNat ≠ 0 := by
        intro zero
        exact nonzero (UInt32.toNat_inj.mp zero)
      omega

theorem buff_toNat
    (inside : param.bufferAddress.toNat + param.offset.toNat < 18446744073709551615) :
    (sharedPages page param bufferSize).buff.toNat =
      param.bufferAddress.toNat + param.offset.toNat := by
  unfold sharedPages
  simp only
  rw [UInt64.toNat_add, UInt32.toNat_toUInt64]
  omega

theorem offset_toNat (page : PageShift) (param : ClientParam) (bufferSize : UInt32) :
    (sharedPages page param bufferSize).offset.toNat =
      (sharedPages page param bufferSize).buff.toNat % page.unit := by
  have unitLe := page.unit_le
  have inPage := Nat.mod_lt (sharedPages page param bufferSize).buff.toNat page.unit_pos
  have inWord : page.unit ∣ 4294967296 :=
    Nat.pow_dvd_pow 2 (Nat.le_trans page.small (by decide) : page.shift ≤ 32)
  have masked : (sharedPages page param bufferSize).offset.toNat =
      ((sharedPages page param bufferSize).buff.toUInt32.toUInt64 &&& ~~~page.mask).toNat %
        4294967296 := UInt64.toNat_toUInt32 _
  rw [masked, page.and_not_mask_toNat, UInt32.toNat_toUInt64, UInt64.toNat_toUInt32]
  change _ % 4294967296 % page.unit % 4294967296 = _
  rw [Nat.mod_mod_of_dvd _ inWord]
  omega

/-- The number of pages, for a span that leaves room to round it up. -/
theorem pagesNo_toNat
    (room : ((sharedPages page param bufferSize).offset + bufferSize).toNat + (page.unit - 1) <
      4294967296) :
    (sharedPages page param bufferSize).pagesNo.toNat =
      (((sharedPages page param bufferSize).offset + bufferSize).toNat + (page.unit - 1)) /
        page.unit := by
  have few := Nat.div_le_self
    (((sharedPages page param bufferSize).offset + bufferSize).toNat + (page.unit - 1)) page.unit
  have divided : (sharedPages page param bufferSize).pagesNo.toNat =
      ((page.align ((sharedPages page param bufferSize).offset + bufferSize)).toUInt64 /
        page.size).toNat % 4294967296 := UInt64.toNat_toUInt32 _
  rw [divided, UInt64.toNat_div, UInt32.toNat_toUInt64, page.size_toNat, page.align_toNat room,
    Nat.mul_div_cancel _ page.unit_pos]
  exact Nat.mod_eq_of_lt (Nat.lt_of_le_of_lt few room)

theorem noWrap_of_admitted (admitted : checkBufferForSharedmem (some bufferSize) param = 0) :
    NoWrap page param bufferSize := by
  obtain ⟨-, small, inside⟩ := checkBufferForSharedmem_bounds admitted
  have unitLe := page.unit_le
  have buff := @buff_toNat page param bufferSize inside
  have offset := offset_toNat page param bufferSize
  have inPage := Nat.mod_lt (sharedPages page param bufferSize).buff.toNat page.unit_pos
  have span : ((sharedPages page param bufferSize).offset + bufferSize).toNat =
      (sharedPages page param bufferSize).offset.toNat + bufferSize.toNat := by
    rw [UInt32.toNat_add]
    omega
  have room : ((sharedPages page param bufferSize).offset + bufferSize).toNat + (page.unit - 1) <
      4294967296 := by omega
  have pages := pagesNo_toNat room
  have few := Nat.div_le_self
    (((sharedPages page param bufferSize).offset + bufferSize).toNat + (page.unit - 1)) page.unit
  rw [← pages] at few
  have listLen : (sizeofUint64 * (sharedPages page param bufferSize).pagesNo.toUInt64).toNat =
      8 * (sharedPages page param bufferSize).pagesNo.toNat := by
    have eight : sizeofUint64.toNat = 8 := rfl
    rw [UInt64.toNat_mul, eight, UInt32.toNat_toUInt64]
    omega
  constructor
  · exact buff
  · rw [offset, buff]
  · exact span
  · rw [UInt32.toNat_add, page.low32_toNat, span]
    omega
  · rw [pages, page.align_toNat room]
  · exact listLen
  · have header : sizeofPagelistInfo.toNat = 32 := rfl
    have cut : (sharedPages page param bufferSize).buffLen.toNat =
        (sizeofPagelistInfo +
          sizeofUint64 * (sharedPages page param bufferSize).pagesNo.toUInt64).toNat %
          4294967296 := UInt64.toNat_toUInt32 _
    rw [cut, UInt64.toNat_add, listLen, header]
    omega

/-- The pages are the least cover of the client's range. -/
theorem sharedPages_cover (noWrap : NoWrap page param bufferSize) :
    AlignedCover page.unit (param.bufferAddress.toNat + param.offset.toNat)
      (param.bufferAddress.toNat + param.offset.toNat + bufferSize.toNat)
      (sharedPages page param bufferSize).startVaddr.toNat
      (sharedPages page param bufferSize).pagesNo.toNat := by
  have room : ((sharedPages page param bufferSize).offset + bufferSize).toNat + (page.unit - 1) <
      4294967296 := by
    rw [noWrap.span, ← noWrap.rounded]
    exact UInt32.toNat_lt _
  have start : (sharedPages page param bufferSize).startVaddr.toNat =
      (sharedPages page param bufferSize).buff.toNat / page.unit * page.unit :=
    page.and_mask_toNat _
  rw [start, pagesNo_toNat room, noWrap.span, noWrap.offset, noWrap.buff]
  exact alignedCover_of page.unit_pos

theorem sharedPages_located (noWrap : NoWrap page param bufferSize) :
    (sharedPages page param bufferSize).startVaddr.toNat +
        (sharedPages page param bufferSize).offset.toNat =
      param.bufferAddress.toNat + param.offset.toNat := by
  have start : (sharedPages page param bufferSize).startVaddr.toNat =
      (sharedPages page param bufferSize).buff.toNat / page.unit * page.unit :=
    page.and_mask_toNat _
  rw [start, noWrap.offset, noWrap.buff, Nat.mul_comm]
  exact Nat.div_add_mod _ _

end Admitted

/-! ### Every word of the list is in its buffer -/

section List

variable {page : PageShift} {pinning : Pinning} {buffLen : Nat}

theorem storeWord_inside {index : Nat} (words : Nat → UInt64) (value : UInt64)
    (inside : 8 * index + 8 ≤ buffLen) :
    storeWord buffLen words index value =
      some fun other => if other = index then value else words other :=
  if_pos inside

theorem fillLoop_inside {pageNum : UInt32} (left : Nat) :
    ∀ (index : Nat) (words : Nat → UInt64), 8 * (4 + index + left) ≤ buffLen →
      ∃ filled, fillLoop pinning buffLen pageNum left index words = some filled ∧
        (∀ other, other < 4 + index → filled.words other = words other) ∧
        (filled.ret = 0 → ∀ other, index ≤ other → other < index + left →
          pinning.page other = some (filled.words (4 + other))) := by
  induction left with
  | zero =>
      intro index words inside
      refine ⟨_, rfl, fun _ _ => rfl, ?_⟩
      intro success other above below
      omega
  | succ left ih =>
      intro index words inside
      unfold fillLoop
      cases given : pinning.page index with
      | none =>
          refine ⟨_, rfl, fun _ _ => rfl, ?_⟩
          intro impossible
          exact absurd impossible (show ¬-eFault = 0 by decide)
      | some addr =>
          simp only
          rw [storeWord_inside words addr (by omega), Option.bind_some]
          obtain ⟨filled, runs, kept, stored⟩ := ih (index + 1) _ (by omega)
          refine ⟨filled, runs, ?_, ?_⟩
          · intro other below
            rw [kept other (by omega), if_neg (by omega)]
          · intro success other above below
            by_cases here : other = index
            · subst here
              rw [kept (4 + other) (by omega), if_pos rfl]
              exact given
            · exact stored success other (by omega) (by omega)

theorem storeHeader_inside (pagesNo offset bufferSize : UInt32) (words : Nat → UInt64)
    (inside : 32 ≤ buffLen) :
    ∃ header, storeHeader page buffLen pagesNo offset bufferSize words = some header ∧
      header 0 = pagesNo.toUInt64 ∧ header 1 = page.size ∧
      header 2 = offset.toUInt64 ∧ header 3 = bufferSize.toUInt64 := by
  unfold storeHeader
  rw [storeWord_inside _ _ (by omega), Option.bind_some, storeWord_inside _ _ (by omega),
    Option.bind_some, storeWord_inside _ _ (by omega), Option.bind_some,
    storeWord_inside _ _ (by omega)]
  exact ⟨_, rfl, rfl, rfl, rfl, rfl⟩

/-- What the TEE finds in a list that was filled. -/
structure PageList (page : PageShift) (pinning : Pinning) (pagesNo offset bufferSize : UInt32)
    (words : Nat → UInt64) : Prop where
  pageNum : words 0 = pagesNo.toUInt64
  pageSize : words 1 = page.size
  sharedmemOffset : words 2 = offset.toUInt64
  sharedmemSize : words 3 = bufferSize.toUInt64
  physAddr : ∀ index, index < pagesNo.toNat → pinning.page index = some (words (4 + index))

/-- No word is written outside of a buffer for the header and the pages. -/
theorem fillSharedMemInfo_inside (pinning : Pinning) (pagesNo offset bufferSize : UInt32)
    (words : Nat → UInt64) (room : 32 + 8 * pagesNo.toNat ≤ buffLen) :
    ∃ filled,
      fillSharedMemInfo page pinning buffLen pagesNo offset bufferSize words = some filled ∧
        (filled.ret = 0 → PageList page pinning pagesNo offset bufferSize filled.words) := by
  have failed : ¬-eFault = 0 := by decide
  unfold fillSharedMemInfo
  by_cases noPages : pagesNo = 0
  · rw [if_pos noPages]
    exact ⟨_, rfl, fun success => absurd success failed⟩
  · rw [if_neg noPages]
    by_cases noArray : pinning.vmalloc = false
    · rw [if_pos noArray]
      exact ⟨_, rfl, fun success => absurd success failed⟩
    · rw [if_neg noArray]
      simp only
      by_cases fewer : UInt32.ofInt pinning.getUserPages ≠ pagesNo
      · rw [if_pos fewer]
        exact ⟨_, rfl, fun success => absurd success failed⟩
      · rw [if_neg fewer]
        obtain ⟨header, stores, pageNum, pageSize, sharedmemOffset, sharedmemSize⟩ :=
          @storeHeader_inside page buffLen pagesNo offset bufferSize words (by omega)
        rw [stores, Option.bind_some]
        obtain ⟨filled, runs, kept, stored⟩ :=
          @fillLoop_inside pinning buffLen (UInt32.ofInt pinning.getUserPages) pagesNo.toNat 0 header
            (by omega)
        refine ⟨filled, runs, ?_⟩
        intro success
        constructor
        · rw [kept 0 (by decide), pageNum]
        · rw [kept 1 (by decide), pageSize]
        · rw [kept 2 (by decide), sharedmemOffset]
        · rw [kept 3 (by decide), sharedmemSize]
        · intro index below
          exact stored success index (Nat.zero_le _) (by omega)

end List

/-- What the transfer of a range has to give: exact arithmetic, the least cover, the place of the
range in it, and a list that fits in its buffer. -/
structure SharedExactly (page : PageShift) (param : ClientParam) (bufferSize : UInt32)
    (pinning : Pinning) (outcome : Option (Except Int TransferredMem)) : Prop where
  noWrap : NoWrap page param bufferSize
  cover : AlignedCover page.unit (param.bufferAddress.toNat + param.offset.toNat)
    (param.bufferAddress.toNat + param.offset.toNat + bufferSize.toNat)
    (sharedPages page param bufferSize).startVaddr.toNat
    (sharedPages page param bufferSize).pagesNo.toNat
  located : (sharedPages page param bufferSize).startVaddr.toNat +
      (sharedPages page param bufferSize).offset.toNat =
    param.bufferAddress.toNat + param.offset.toNat
  fits : ∃ result, outcome = some result
  list : ∀ sharedMem, outcome = some (.ok sharedMem) →
    sharedMem.memrefSize.toNat = 32 + 8 * (sharedPages page param bufferSize).pagesNo.toNat ∧
      PageList page pinning (sharedPages page param bufferSize).pagesNo
        (sharedPages page param bufferSize).offset bufferSize sharedMem.words

section Transfer

variable {page : PageShift} {world : TransferWorld} {params : Fin 4 → ClientParam}
  {paramType bufferSize : UInt32} {index : Fin 4}

theorem transferSharedMem_admitted {filled : Filled} (read : world.read = some bufferSize)
    (admitted : checkBufferForSharedmem (some bufferSize) (params index) = 0)
    (fills : fillSharedMemInfo page world.pinning
      (sharedPages page (params index) bufferSize).buffLen.toNat
      (sharedPages page (params index) bufferSize).pagesNo
      (sharedPages page (params index) bufferSize).offset bufferSize (fun _ => 0) = some filled) :
    transferSharedMem page world params paramType index.val =
      match world.mailboxAlloc with
      | none => some (.error (-eFault))
      | some buff =>
          some (if filled.ret ≠ 0 then .error (-eFault)
            else .ok (storedMem world paramType (sharedPages page (params index) bufferSize) buff
              filled.words)) := by
  unfold transferSharedMem
  rw [dif_pos index.isLt, read]
  simp only
  rw [if_neg (not_not_intro admitted), Option.getD_some, fills]
  rfl

end Transfer

/-- The page arithmetic of every admitted buffer. -/
theorem transferSharedMem_exact (page : PageShift) (world : TransferWorld)
    (params : Fin 4 → ClientParam) (paramType : UInt32) (index : Fin 4) (bufferSize : UInt32)
    (read : world.read = some bufferSize)
    (admitted : checkBufferForSharedmem (some bufferSize) (params index) = 0) :
    SharedExactly page (params index) bufferSize world.pinning
      (transferSharedMem page world params paramType index.val) := by
  have noWrap := @noWrap_of_admitted page (params index) bufferSize admitted
  obtain ⟨filled, fills, lists⟩ := @fillSharedMemInfo_inside page
    (sharedPages page (params index) bufferSize).buffLen.toNat world.pinning
    (sharedPages page (params index) bufferSize).pagesNo
    (sharedPages page (params index) bufferSize).offset bufferSize (fun _ => 0)
    (Nat.le_of_eq noWrap.buffLen.symm)
  have runs := @transferSharedMem_admitted page world params paramType bufferSize index filled
    read admitted fills
  constructor
  · exact noWrap
  · exact sharedPages_cover noWrap
  · exact sharedPages_located noWrap
  · rw [runs]
    cases world.mailboxAlloc with
    | none => exact ⟨_, rfl⟩
    | some buff => exact ⟨_, rfl⟩
  · intro sharedMem success
    rw [runs] at success
    cases given : world.mailboxAlloc with
    | none =>
        rw [given] at success
        cases success
    | some buff =>
        rw [given] at success
        by_cases failed : filled.ret ≠ 0
        · simp only [if_pos failed] at success
          cases success
        · simp only [if_neg failed] at success
          cases success
          exact ⟨noWrap.buffLen, lists (not_not.mp failed)⟩

/-- The highest buffer that is admitted, with pages of 4 KiB: the range leaves the address
space, but no sum of the transfer does. -/
def highestParam : ClientParam :=
  { buffer := 0xF0000001, bufferHAddr := 0xFFFFFFFF, offset := 0x0FFFFFFD, hOffset := 0
    sizeAddr := 0x1000, sizeHAddr := 0 }

def calmWorld : TransferWorld :=
  { read := some 0x10000000
    mailboxAlloc := some 0xffff000000000000
    virtToPhys := fun addr => addr - 0xffff000000000000
    pinning := ⟨true, 65537, fun number => some (UInt64.ofNat (4096 * number))⟩ }

theorem transferSharedMem_exact_highest :
    (calmWorld.read = some 0x10000000 ∧
      checkBufferForSharedmem (some 0x10000000) highestParam = 0) ∧
      SharedExactly ⟨12, by decide⟩ highestParam 0x10000000 calmWorld.pinning
        (transferSharedMem ⟨12, by decide⟩ calmWorld (fun _ => highestParam) 0x0F 0) :=
  ⟨⟨rfl, by decide⟩,
    transferSharedMem_exact ⟨12, by decide⟩ calmWorld (fun _ => highestParam) 0x0F 0 0x10000000 rfl
      (by decide)⟩

end TzDriver.Client
