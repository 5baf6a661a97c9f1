/-
The log pool that user space appends to (`linux/tlogger/tlogger.c`, CONFIG_LOG_POOL).

`log_pool_append` moves on by the size its caller names, while a scan moves on by the
item's own length and looks at 64-byte steps from there.
-/

import TzDriver.Lib.Runs
import TzDriver.Tlogger.Layout

namespace TzDriver.Tlogger

open TzDriver.Lib

def logPoolSize : Nat := 0x80000

def logPoolItemMaxLen : Nat := 384

/-- `sizeof(struct log_buffer)`: the flag, without `buffer_start`. -/
def sizeofLogBuffer : Nat := 220

def uint64Max : Nat := 2 ^ 64 - 1

/-- The pool's flag and content, and `g_log_pool_va`, `g_log_pool_size` and
`g_logserialno`. -/
structure LogPool where
  va : Nat
  size : Nat
  serialNo : Nat
  mem : Memory
  lastPos : Nat
  writeLoops : Nat
  maxLen : Nat
  reserved0 : Nat
  reserved1 : Nat

/-- A call of `log_pool_append`: `argp` and its copy, the struct copied, and what
`copy_from_user` leaves at the item's place with whether it copied everything. -/
structure PoolCall where
  argp : Bool
  itemRead : Bool
  addr : Nat
  size : Nat
  bytes : Memory
  complete : Bool

def logPoolCheck (pool : LogPool) : LogPool × Bool :=
  if pool.size ≠ logPoolSize then ({ pool with size := 0 }, false)
  else if pool.va = 0 ∨ uint64Max - pool.va < pool.size then ({ pool with va := 0 }, false)
  else (pool, true)

def logPoolItemCheck (item : LogItem) (size : Nat) : Bool :=
  !(item.magic != logItemMagic || item.bufferLen == 0 || item.realLen == 0 ||
    item.bufferLen % logItemLenAlign != 0 || decide (item.realLen > item.bufferLen) ||
    decide (item.bufferLen - item.realLen ≥ logItemLenAlign) ||
    decide (item.bufferLen + sizeofLogItem > size))

/-- `serial_no` and `new_line` of the item at `pos`. -/
def stamp (mem : Memory) (pos serialNo : Nat) : Memory := fun place =>
  if place = pos + 36 then UInt8.ofNat serialNo
  else if place = pos + 37 then UInt8.ofNat (serialNo / 256)
  else if place = pos + 38 then UInt8.ofNat (serialNo / 65536)
  else if place = pos + 39 then UInt8.ofNat (serialNo / 16777216)
  else if place = pos + 63 then 10
  else mem place

/-- `++g_logserialno`, once more when it came out 0. -/
def nextSerialNo (serialNo : Nat) : Nat :=
  let next := (serialNo + 1) % 2 ^ 32
  if next = 0 then (next + 1) % 2 ^ 32 else next

def restartFromHead (pool : LogPool) (size : Nat) : LogPool :=
  if sizeofLogBuffer + pool.lastPos + size > pool.size then
    { pool with writeLoops := (pool.writeLoops + 1) % 2 ^ 32, lastPos := 0 }
  else pool

/-- `log_pool_append` from the copy of the item on. -/
def appendItem (pool : LogPool) (call : PoolCall) : LogPool × Int :=
  let copied := { pool with mem := store pool.mem pool.lastPos call.size call.bytes }
  if call.complete = false then (copied, -1)
  else if logPoolItemCheck (itemAt copied.mem copied.lastPos) call.size = false then (copied, -1)
  else
    let serialNo := nextSerialNo copied.serialNo
    ({ copied with
        mem := stamp copied.mem copied.lastPos serialNo
        serialNo := serialNo
        reserved1 := serialNo
        lastPos := copied.lastPos + call.size }, 0)

def logPoolAppend (pool : LogPool) (call : PoolCall) : LogPool × Int :=
  if call.argp = false then (pool, -1)
  else
    match logPoolCheck pool with
    | (pool, false) => (pool, -1)
    | (pool, true) =>
        if call.itemRead = false then (pool, -1)
        else if logPoolItemMaxLen < call.size ∨ call.size < sizeofLogItem ∨ call.addr = 0 ∨
            uint64Max - call.addr < call.size then (pool, -1)
        else if pool.lastPos > pool.size ∨ sizeofLogBuffer + pool.lastPos > pool.size then (pool, -1)
        else appendItem (restartFromHead pool call.size) call

/-- `init_log_pool` on what the memory held before, where `ioremap_cache` returns `va`. -/
def initLogPool (paddr logMemSize va : Nat) (found : LogPool) : LogPool × Int :=
  if uint64Max - paddr < logMemSize then ({ found with size := logMemSize }, -1)
  else
    match logPoolCheck { found with size := logMemSize / 2, va := va } with
    | (pool, false) => (pool, -1)
    | (pool, true) =>
        if pool.reserved0 ≠ logItemMagic then
          ({ pool with
              mem := fun _ => 0
              lastPos := 0
              writeLoops := 0
              reserved0 := logItemMagic
              reserved1 := 0
              maxLen := pool.size - sizeofLogBuffer }, 0)
        else ({ pool with serialNo := pool.reserved1 }, 0)

/-! ### Runs of appends -/

/-- The item that an accepted call asked for, as it is numbered. -/
def acceptedItem (call : PoolCall) (serialNo : Nat) : List UInt8 :=
  itemBytes (stamp call.bytes 0 serialNo) 0

/-- The pool and the items that were accepted. -/
structure PoolRun where
  pool : LogPool
  accepted : List (List UInt8)

def PoolRun.append (run : PoolRun) (call : PoolCall) : PoolRun :=
  let result := logPoolAppend run.pool call
  { pool := result.1
    accepted :=
      if result.2 = 0 then run.accepted ++ [acceptedItem call result.1.serialNo] else run.accepted }

/-- Appends to a pool that was just cleared, until one would start again from its head. -/
def poolMachine : Machine PoolRun PoolCall :=
  { init := fun run => run.accepted = [] ∧ ∃ paddr logMemSize va found,
      found.serialNo = 0 ∧ found.reserved0 ≠ logItemMagic ∧
        initLogPool paddr logMemSize va found = (run.pool, 0)
    step := fun before call after =>
      after = before.append call ∧ after.pool.writeLoops = before.pool.writeLoops }

/-- The caller passes its item and whole 64-byte units after it that hold no item. -/
structure Tidy (call : PoolCall) : Prop where
  whole : call.size % 64 = 0
  clean : ∀ unit, itemLen call.bytes 0 ≤ 64 * unit → 64 * unit < call.size →
    checkLogItemValidite (itemAt call.bytes (64 * unit)) logItemMaxLen = false

/-- Calls whose item passes the pool's check are tidy. -/
def TidyItems (_ : PoolRun) (call : PoolCall) : Prop :=
  logPoolItemCheck (itemAt call.bytes 0) call.size = true → Tidy call

/-! ### One append -/

theorem logPoolItemCheck_eq (item : LogItem) (size : Nat) :
    logPoolItemCheck item size = checkLogItemValidite item size := by
  unfold logPoolItemCheck checkLogItemValidite
  rw [Bool.eq_iff_iff]
  simp only [Bool.not_eq_true', Bool.or_eq_false_iff, bne_eq_false_iff_eq, beq_eq_false_iff_ne,
    decide_eq_false_iff_not, Bool.and_eq_true, beq_iff_eq, decide_eq_true_eq]
  omega

theorem stamp_outside {mem : Memory} {pos serialNo place : Nat}
    (outside : place < pos + 36 ∨ pos + 40 ≤ place) (notNewLine : place ≠ pos + 63) :
    stamp mem pos serialNo place = mem place := by
  unfold stamp
  rw [if_neg (by omega), if_neg (by omega), if_neg (by omega), if_neg (by omega), if_neg notNewLine]

theorem u32At_stamp (mem : Memory) (pos serialNo : Nat) (small : serialNo < 2 ^ 32) :
    u32At (stamp mem pos serialNo) (pos + 36) = serialNo := by
  unfold u32At u16At
  rw [Nat.add_assoc pos 36 1, Nat.add_assoc pos 36 2, Nat.add_assoc pos 38 1]
  have zero : stamp mem pos serialNo (pos + 36) = UInt8.ofNat serialNo := by simp [stamp]
  have one : stamp mem pos serialNo (pos + 37) = UInt8.ofNat (serialNo / 256) := by simp [stamp]
  have two : stamp mem pos serialNo (pos + 38) = UInt8.ofNat (serialNo / 65536) := by simp [stamp]
  have three : stamp mem pos serialNo (pos + 39) = UInt8.ofNat (serialNo / 16777216) := by
    simp [stamp]
  rw [zero, one, two, three]
  simp only [UInt8.toNat_ofNat']
  omega

theorem appendItem_writeLoops (pool : LogPool) (call : PoolCall) :
    (appendItem pool call).1.writeLoops = pool.writeLoops := by
  unfold appendItem
  simp only
  split_ifs
  · rfl
  · rfl
  · rfl

/-- Every way through `log_pool_append` that does not start again from the head. -/
theorem logPoolAppend_cases {pool : LogPool} (call : PoolCall) (ready : logPoolCheck pool = (pool, true))
    (sameLap : (logPoolAppend pool call).1.writeLoops = pool.writeLoops) :
    logPoolAppend pool call = (pool, -1) ∨
    (sizeofLogBuffer + pool.lastPos + call.size ≤ pool.size ∧
      (logPoolAppend pool call = ({ pool with
          mem := store pool.mem pool.lastPos call.size call.bytes }, -1) ∨
        call.size ≤ logPoolItemMaxLen ∧ sizeofLogItem ≤ call.size ∧
        logPoolItemCheck (itemAt (store pool.mem pool.lastPos call.size call.bytes) pool.lastPos)
            call.size = true ∧
          logPoolAppend pool call = ({ pool with
            mem := stamp (store pool.mem pool.lastPos call.size call.bytes) pool.lastPos
              (nextSerialNo pool.serialNo)
            serialNo := nextSerialNo pool.serialNo
            reserved1 := nextSerialNo pool.serialNo
            lastPos := pool.lastPos + call.size }, 0))) := by
  unfold logPoolAppend at sameLap ⊢
  rw [ready] at sameLap ⊢
  simp only at sameLap ⊢
  split_ifs at sameLap ⊢ with noArg unread badSize badPos
  · exact Or.inl rfl
  · exact Or.inl rfl
  · exact Or.inl rfl
  · exact Or.inl rfl
  · have size : call.size ≤ logPoolItemMaxLen ∧ sizeofLogItem ≤ call.size := by omega
    have fits : sizeofLogBuffer + pool.lastPos + call.size ≤ pool.size := by
      by_contra beyond
      rw [appendItem_writeLoops, restartFromHead, if_pos (Nat.lt_of_not_le beyond)] at sameLap
      simp only at sameLap
      omega
    refine Or.inr ⟨fits, ?_⟩
    rw [restartFromHead, if_neg (Nat.not_lt_of_le fits)]
    unfold appendItem
    simp only
    split_ifs with incomplete fails
    · exact Or.inl rfl
    · exact Or.inl rfl
    · exact Or.inr ⟨size.1, size.2, Bool.eq_true_of_not_eq_false fails, rfl⟩

/-! ### What an accepted append leaves -/

section Accepted

variable {mem bytes : Memory} {pos size serialNo : Nat}

theorem itemAt_stamp (mem : Memory) (pos : Nat) (small : serialNo < 2 ^ 32) :
    itemAt (stamp mem pos serialNo) pos = { itemAt mem pos with serialNo := serialNo } := by
  have word (offset : Nat) (outside : 40 ≤ offset ∨ offset + 1 < 36) (below : offset + 1 < 63) :
      u16At (stamp mem pos serialNo) (pos + offset) = u16At mem (pos + offset) := by
    unfold u16At
    rw [stamp_outside (by omega) (by omega), stamp_outside (by omega) (by omega)]
  unfold itemAt
  rw [word 32 (by omega) (by omega), word 40 (by omega) (by omega), word 42 (by omega) (by omega),
    u32At_stamp mem pos serialNo small]

theorem stamp_store {offset : Nat} (below : offset < size) :
    stamp (store mem pos size bytes) pos serialNo (pos + offset) = stamp bytes 0 serialNo offset := by
  have stored : store mem pos size bytes (pos + offset) = bytes offset := by
    rw [store_inside (Nat.le_add_right _ _) (by omega), Nat.add_sub_cancel_left]
  unfold stamp
  rw [stored]
  simp only [Nat.add_left_cancel_iff, Nat.zero_add]

/-- The memory after an accepted append: the item at the old end and a gap after it. -/
theorem append_layout {limit : Nat} {items : List Placed}
    (layout : Layout mem limit 0 items pos) (inside : pos + size ≤ limit)
    (small : serialNo < 2 ^ 32) (short : size ≤ 384)
    (checked : checkLogItemValidite (itemAt bytes 0) size = true)
    (whole : size % 64 = 0)
    (clean : ∀ unit, itemLen bytes 0 ≤ 64 * unit → 64 * unit < size →
      checkLogItemValidite (itemAt bytes (64 * unit)) logItemMaxLen = false) :
    Layout (stamp (store mem pos size bytes) pos serialNo) limit 0
      (items ++ [⟨pos, itemBytes (stamp bytes 0 serialNo) 0⟩]) (pos + size) := by
  obtain ⟨sound, fits⟩ := (check_iff _ _).mp checked
  have long := sound.long
  have aligned := sound.aligned
  have head : itemAt (stamp (store mem pos size bytes) pos serialNo) pos =
      { itemAt bytes 0 with serialNo := serialNo } := by
    rw [itemAt_stamp _ _ small, itemAt_store (by omega)]
  have length : itemLen (stamp (store mem pos size bytes) pos serialNo) pos = itemLen bytes 0 := by
    rw [itemLen, head, itemLen]
  have lengthBytes : itemLen bytes 0 = (itemAt bytes 0).bufferLen + 64 := rfl
  have item : IsItem (stamp (store mem pos size bytes) pos serialNo) limit pos := by
    refine ⟨?_, ?_, ?_⟩
    · rw [head]
      exact ⟨sound.magic, sound.real, sound.aligned, sound.fits, sound.close⟩
    · rw [length]
      omega
    · rw [length]
      omega
  have earlier : Layout (stamp (store mem pos size bytes) pos serialNo) limit 0 items pos := by
    refine layout.congr fun place _ below => ?_
    rw [stamp_outside (by omega) (by omega), store_outside (Or.inl below)]
  have added := earlier.snoc item
  have content : itemBytes (stamp (store mem pos size bytes) pos serialNo) pos =
      itemBytes (stamp bytes 0 serialNo) 0 := by
    have stamped : itemLen (stamp bytes 0 serialNo) 0 = itemLen bytes 0 := by
      rw [itemLen, itemAt_stamp _ _ small, itemLen]
    refine itemBytes_congr fun offset below => ?_
    rw [stamp_store (by omega), Nat.zero_add]
  rw [placedAt, content, length] at added
  have padded := added.pad ((size - itemLen bytes 0) / 64) fun step below onGrid => ?_
  · have stop : pos + itemLen bytes 0 + 64 * ((size - itemLen bytes 0) / 64) = pos + size := by omega
    rw [stop] at padded
    exact padded
  · have unit : itemLen bytes 0 + 64 * step = 64 * (itemLen bytes 0 / 64 + step) := by omega
    have same : itemAt (stamp (store mem pos size bytes) pos serialNo)
        (pos + itemLen bytes 0 + 64 * step) = itemAt bytes (64 * (itemLen bytes 0 / 64 + step)) := by
      refine itemAt_congr fun offset under => ?_
      rw [← unit, Nat.add_assoc, Nat.add_assoc, stamp_store (by omega),
        stamp_outside (by omega) (by omega)]
      congr 1
      omega
    have refused := clean (itemLen bytes 0 / 64 + step) (by omega) (by omega)
    rw [← same] at refused
    have accepted : checkLogItemValidite (itemAt (stamp (store mem pos size bytes) pos serialNo)
        (pos + itemLen bytes 0 + 64 * step)) logItemMaxLen = true :=
      (check_iff _ _).mpr ⟨onGrid.sound, onGrid.short⟩
    rw [refused] at accepted
    cases accepted

end Accepted

/-! ### Whole runs -/

def serialOf (bytes : List UInt8) : Nat :=
  u32At (fun index => bytes.getD index 0) 36

theorem serialOf_itemBytes (mem : Memory) (pos : Nat) :
    serialOf (itemBytes mem pos) = (itemAt mem pos).serialNo := by
  have whole : 64 ≤ itemLen mem pos := Nat.le_add_left 64 _
  have byte (offset : Nat) (below : offset < 64) :
      (itemBytes mem pos).getD offset 0 = mem (pos + offset) := by
    have inRange : offset < itemLen mem pos := by omega
    simp [itemBytes, List.getD_eq_getElem?_getD, inRange]
  unfold serialOf itemAt u32At u16At
  simp only [Nat.reduceAdd, Nat.add_assoc]
  rw [byte 36 (by omega), byte 37 (by omega), byte 38 (by omega), byte 39 (by omega)]

structure PoolGood (run : PoolRun) : Prop where
  size : run.pool.size = logPoolSize
  mapped : ¬(run.pool.va = 0 ∨ uint64Max - run.pool.va < run.pool.size)
  maxLen : run.pool.maxLen = run.pool.size - sizeofLogBuffer
  inside : run.pool.lastPos ≤ run.pool.maxLen
  layout : ∃ items, Layout run.pool.mem run.pool.maxLen 0 items run.pool.lastPos ∧
    items.map Placed.bytes = run.accepted
  serialNo : run.pool.serialNo = run.accepted.length
  serials : run.accepted.map serialOf = List.range' 1 run.accepted.length
  few : 128 * run.accepted.length ≤ run.pool.lastPos
  loops : run.pool.writeLoops < 2 ^ 32

theorem logPoolCheck_of {pool : LogPool} (size : pool.size = logPoolSize)
    (mapped : ¬(pool.va = 0 ∨ uint64Max - pool.va < pool.size)) :
    logPoolCheck pool = (pool, true) := by
  unfold logPoolCheck
  rw [if_neg (not_not_intro size), if_neg mapped]

theorem PoolGood.ready {run : PoolRun} (good : PoolGood run) :
    logPoolCheck run.pool = (run.pool, true) :=
  logPoolCheck_of good.size good.mapped

theorem logPoolCheck_passed {pool after : LogPool} (passed : logPoolCheck pool = (after, true)) :
    after = pool ∧ pool.size = logPoolSize ∧
      ¬(pool.va = 0 ∨ uint64Max - pool.va < pool.size) := by
  unfold logPoolCheck at passed
  split_ifs at passed with wrong bad
  · cases passed
  · cases passed
  · exact ⟨(Prod.ext_iff.mp passed).1.symm, not_not.mp wrong, bad⟩

theorem PoolGood.of_init {run : PoolRun} (initial : poolMachine.init run) : PoolGood run := by
  obtain ⟨none, paddr, logMemSize, va, found, serialNo, notMagic, made⟩ := initial
  unfold initLogPool at made
  split at made
  · exact absurd (Prod.ext_iff.mp made).2 (show ¬(-1 : Int) = 0 by decide)
  · split at made
    · exact absurd (Prod.ext_iff.mp made).2 (show ¬(-1 : Int) = 0 by decide)
    · next pool passed =>
        obtain ⟨rfl, size, mapped⟩ := logPoolCheck_passed passed
        rw [if_pos notMagic] at made
        have pool := (Prod.ext_iff.mp made).1.symm
        simp only at pool
        refine ⟨?_, ?_, ?_, ?_, ?_, ?_, ?_, ?_, ?_⟩
        · rw [pool]
          exact size
        · rw [pool]
          exact mapped
        · rw [pool]
        · rw [pool]
          exact Nat.zero_le _
        · rw [pool, none]
          exact ⟨[], Layout.empty _ _ 0, rfl⟩
        · rw [pool, none]
          exact serialNo
        · rw [none]
          rfl
        · rw [none]
          exact Nat.zero_le _
        · rw [pool]
          exact Nat.two_pow_pos 32

theorem nextSerialNo_small {count : Nat} (small : count < 2 ^ 32 - 1) :
    nextSerialNo count = count + 1 := by
  unfold nextSerialNo
  rw [Nat.mod_eq_of_lt (by omega)]
  simp

theorem PoolGood.append {run : PoolRun} (good : PoolGood run) (call : PoolCall)
    (tidy : TidyItems run call)
    (sameLap : (run.append call).pool.writeLoops = run.pool.writeLoops) :
    PoolGood (run.append call) := by
  have size := good.size
  have maxLen := good.maxLen
  have few := good.few
  have inside := good.inside
  unfold PoolRun.append at sameLap ⊢
  dsimp only at sameLap ⊢
  rcases logPoolAppend_cases call good.ready sameLap with
    same | ⟨fits, copied | ⟨notLong, notShort, checked, result⟩⟩
  · rw [same]
    exact good
  · rw [copied]
    refine ⟨good.size, good.mapped, good.maxLen, good.inside, ?_, good.serialNo, good.serials,
      good.few, good.loops⟩
    obtain ⟨items, layout, accepted⟩ := good.layout
    exact ⟨items, layout.congr fun place _ below => store_outside (Or.inl below), accepted⟩
  · unfold logPoolItemMaxLen at notLong
    unfold sizeofLogItem at notShort
    unfold sizeofLogBuffer at fits maxLen
    unfold logPoolSize at size
    rw [itemAt_store notShort] at checked
    have ordered := tidy checked
    rw [logPoolItemCheck_eq] at checked
    obtain ⟨sound, room⟩ := (check_iff _ _).mp checked
    have long := sound.long
    have serialNo : nextSerialNo run.pool.serialNo = run.accepted.length + 1 := by
      rw [good.serialNo]
      exact nextSerialNo_small (by omega)
    have small : run.accepted.length + 1 < 2 ^ 32 := by omega
    have reach : run.pool.lastPos + call.size ≤ run.pool.maxLen := by omega
    have length : (run.accepted ++ [acceptedItem call (run.accepted.length + 1)]).length =
        run.accepted.length + 1 := List.length_append
    rw [result, serialNo]
    dsimp only
    rw [if_pos rfl]
    refine ⟨good.size, good.mapped, good.maxLen, reach, ?_, length.symm, ?_, ?_, good.loops⟩
    · obtain ⟨items, layout, accepted⟩ := good.layout
      refine ⟨_, append_layout layout reach small notLong checked ordered.whole ordered.clean, ?_⟩
      rw [List.map_append, accepted]
      rfl
    · have number : serialOf (acceptedItem call (run.accepted.length + 1)) =
          run.accepted.length + 1 := by
        rw [acceptedItem, serialOf_itemBytes, itemAt_stamp _ _ small]
      rw [length, List.map_append, good.serials, List.map_singleton, number, List.range'_1_concat,
        Nat.add_comm 1]
    · rw [length]
      dsimp only
      omega

theorem poolGood_of_reachable {run : PoolRun}
    (reached : (poolMachine.restrict TidyItems).Reachable run) : PoolGood run := by
  induction reached with
  | start initial => exact PoolGood.of_init initial
  | next _ taken ih =>
      obtain ⟨tidy, rfl, sameLap⟩ := taken
      exact ih.append _ tidy sameLap

/-- After any tidy appends within one lap, a scan from the start of the pool to
`last_pos` with room for everything yields the accepted items, in order and with
strictly increasing serial numbers. -/
theorem pool_scan_yields_accepted {run : PoolRun}
    (reached : (poolMachine.restrict TidyItems).Reachable run) {count : Nat}
    (unlimited : run.pool.lastPos ≤ count) :
    let found := (parseLogItem run.pool.mem count run.pool.maxLen 0 run.pool.lastPos).items
    found.map (itemBytes run.pool.mem) = run.accepted ∧
      (found.map fun pos => (itemAt run.pool.mem pos).serialNo).Pairwise (· < ·) := by
  have good := poolGood_of_reachable reached
  have end_ : ∀ step, ¬ItemOnGrid run.pool.mem run.pool.lastPos run.pool.lastPos step := by
    intro step item
    have long := item.long
    have inside := item.inside
    omega
  obtain ⟨items, layout, accepted⟩ := good.layout
  obtain ⟨taken, rest, split, parsed⟩ := parseLoop_layout layout (Nat.le_refl _) good.inside
    good.inside end_ run.pool.lastPos count (by omega)
  have nothingLeft : rest = [] := by
    cases rest with
    | nil => rfl
    | cons item more =>
        have full := parsed.full item more rfl
        have total := layout.total
        rw [split, totalLen_append, totalLen_cons] at total
        omega
  rw [nothingLeft, List.append_nil] at split
  have copied : (parseLogItem run.pool.mem count run.pool.maxLen 0 run.pool.lastPos).items.map
      (itemBytes run.pool.mem) = run.accepted := by
    rw [← accepted, split, ← parsed.copied, List.map_map]
    rfl
  refine ⟨copied, ?_⟩
  have serials : (fun pos => (itemAt run.pool.mem pos).serialNo) =
      serialOf ∘ itemBytes run.pool.mem := by
    funext pos
    exact (serialOf_itemBytes run.pool.mem pos).symm
  rw [serials, ← List.map_map, copied, good.serials]
  exact List.pairwise_lt_range'

/-- A pool that was never used, and what `init_log_pool` makes of it. -/
def unusedPool : LogPool := ⟨0, 0, 0, fun _ => 0, 0, 0, 0, 0, 0⟩

def freshRun : PoolRun := ⟨(initLogPool 0 (2 * logPoolSize) 4096 unusedPool).1, []⟩

theorem freshRun_init : poolMachine.init freshRun :=
  ⟨rfl, 0, 2 * logPoolSize, 4096, unusedPool, rfl, by decide, by rfl⟩

def fullCall (size : Nat) : PoolCall :=
  { argp := true
    itemRead := true
    addr := 4096
    size := size
    bytes := fun place =>
      if place = 32 ∨ place = 33 then 0x5A else if place = 40 ∨ place = 42 then 64 else 0
    complete := true }

theorem fullCall_tidy : Tidy (fullCall 128) := by
  refine ⟨by decide, fun unit above below => ?_⟩
  have length : itemLen (fullCall 128).bytes 0 = 128 := by decide
  have size : (fullCall 128).size = 128 := rfl
  omega

/-- Two appends that name their items' length. -/
theorem pool_scan_yields_accepted_two :
    (freshRun.append (fullCall 128)).pool.lastPos = 128 ∧
      (let run := (freshRun.append (fullCall 128)).append (fullCall 128)
      let found := (parseLogItem run.pool.mem 1024 run.pool.maxLen 0 run.pool.lastPos).items
      found.map (itemBytes run.pool.mem) = run.accepted ∧
        (found.map fun pos => (itemAt run.pool.mem pos).serialNo).Pairwise (· < ·)) := by
  have initial : (poolMachine.restrict TidyItems).Reachable freshRun := .start freshRun_init
  have first := initial.next ⟨fun _ => fullCall_tidy, rfl, by decide +kernel⟩
  have second := first.next ⟨fun _ => fullCall_tidy, rfl, by decide +kernel⟩
  exact ⟨by decide +kernel, pool_scan_yields_accepted second (by decide +kernel)⟩

/-- After an append that names one byte more than its item, the next item is off the
grid of the scan: both are accepted, one is found. -/
theorem odd_size_hides_next_item :
    ∃ run, poolMachine.Reachable run ∧ run.accepted.length = 2 ∧
      (parseLogItem run.pool.mem 1024 run.pool.maxLen 0 run.pool.lastPos).items = [0] := by
  have initial : poolMachine.Reachable freshRun := .start freshRun_init
  have first := initial.next ⟨rfl, show (freshRun.append (fullCall 129)).pool.writeLoops = _ by
    decide +kernel⟩
  have second := first.next ⟨rfl, show ((freshRun.append (fullCall 129)).append
    (fullCall 128)).pool.writeLoops = _ by decide +kernel⟩
  exact ⟨_, second, by decide +kernel, by decide +kernel⟩

end TzDriver.Tlogger
