/-
What a failed append leaves of the log pool.

`log_pool_append` starts again from the head before it copies the item and before it
checks it.
-/

import TzDriver.Tlogger.LogPool

namespace TzDriver.Tlogger

open TzDriver.Lib

/-- The call gets as far as the copy of its item. -/
def reachesCopy (pool : LogPool) (call : PoolCall) : Bool :=
  call.argp && (logPoolCheck pool).2 && call.itemRead &&
    decide (¬(logPoolItemMaxLen < call.size ∨ call.size < sizeofLogItem ∨ call.addr = 0 ∨
      uint64Max - call.addr < call.size)) &&
    decide (sizeofLogBuffer + pool.lastPos ≤ pool.size)

/-- There is no room for the call's item behind the last one. -/
def startsAgain (pool : LogPool) (call : PoolCall) : Bool :=
  decide (sizeofLogBuffer + pool.lastPos + call.size > pool.size)

/-- The copy is not complete, or what was copied is no item. -/
def refusesItem (call : PoolCall) : Bool :=
  !call.complete || !logPoolItemCheck (itemAt call.bytes 0) call.size

/-! ### Every way through an append -/

section Ways

variable {pool : LogPool} {call : PoolCall}

theorem reachesCopy_sizes (reaches : reachesCopy pool call = true) :
    64 ≤ call.size ∧ call.size ≤ 384 ∧ sizeofLogBuffer + pool.lastPos ≤ pool.size := by
  unfold reachesCopy logPoolItemMaxLen sizeofLogItem at reaches
  simp only [Bool.and_eq_true, decide_eq_true_eq] at reaches
  omega

theorem logPoolAppend_eq (ready : logPoolCheck pool = (pool, true)) :
    logPoolAppend pool call =
      if reachesCopy pool call then appendItem (restartFromHead pool call.size) call
      else (pool, -1) := by
  unfold logPoolAppend reachesCopy
  rw [ready]
  simp only
  by_cases noArg : call.argp = false
  · simp [noArg]
  · by_cases unread : call.itemRead = false
    · simp [noArg, unread]
    · by_cases badSize : logPoolItemMaxLen < call.size ∨ call.size < sizeofLogItem ∨
          call.addr = 0 ∨ uint64Max - call.addr < call.size
      · simp [noArg, unread, badSize]
      · have place : (pool.lastPos > pool.size ∨ sizeofLogBuffer + pool.lastPos > pool.size) ↔
            ¬sizeofLogBuffer + pool.lastPos ≤ pool.size := by omega
        by_cases inside : sizeofLogBuffer + pool.lastPos ≤ pool.size
        · simp only [noArg, unread, badSize, place, inside]
          simp
        · simp only [noArg, unread, badSize, place, inside]
          simp

theorem appendItem_eq (long : 64 ≤ call.size) :
    appendItem pool call =
      if refusesItem call then
        ({ pool with mem := store pool.mem pool.lastPos call.size call.bytes }, -1)
      else
        ({ pool with
            mem := stamp (store pool.mem pool.lastPos call.size call.bytes) pool.lastPos
              (nextSerialNo pool.serialNo)
            serialNo := nextSerialNo pool.serialNo
            reserved1 := nextSerialNo pool.serialNo
            lastPos := pool.lastPos + call.size }, 0) := by
  unfold appendItem refusesItem
  simp only
  rw [itemAt_store long]
  cases call.complete with
  | false => rfl
  | true =>
      cases logPoolItemCheck (itemAt call.bytes 0) call.size with
      | false => rfl
      | true => rfl

theorem restartFromHead_again (again : startsAgain pool call = true) :
    restartFromHead pool call.size =
      { pool with writeLoops := (pool.writeLoops + 1) % 2 ^ 32, lastPos := 0 } :=
  if_pos (of_decide_eq_true again)

theorem restartFromHead_behind (behind : startsAgain pool call = false) :
    restartFromHead pool call.size = pool :=
  if_neg (of_decide_eq_false behind)

end Ways

/-! ### The pool with the items stored in it -/

theorem nextSerialNo_ne_zero (serialNo : Nat) : nextSerialNo serialNo ≠ 0 := by
  unfold nextSerialNo
  simp only
  split
  · omega
  · assumption

theorem nextSerialNo_lt (serialNo : Nat) : nextSerialNo serialNo < 2 ^ 32 := by
  unfold nextSerialNo
  simp only
  split
  · omega
  · omega

/-- A pool that was set up, and where the items are that were appended and that no later copy
reached. -/
structure StoredPool where
  pool : LogPool
  stored : List Nat
  ready : logPoolCheck pool = (pool, true)
  loops : pool.writeLoops < 2 ^ 32
  numbered : ∀ pos ∈ stored, (itemAt pool.mem pos).serialNo ≠ 0

/-- The items that a copy of `size` bytes to `start` leaves alone. -/
def survivors (mem : Memory) (start size : Nat) (stored : List Nat) : List Nat :=
  stored.filter fun pos => decide (pos + itemLen mem pos ≤ start ∨ start + size ≤ pos)

theorem survivors_same {mem after : Memory} {start size pos : Nat} {stored : List Nat}
    (member : pos ∈ survivors mem start size stored)
    (frame : ∀ place, place < start ∨ start + size ≤ place → after place = mem place) :
    pos ∈ stored ∧ itemAt after pos = itemAt mem pos := by
  obtain ⟨old, apart⟩ := List.mem_filter.mp member
  have away := of_decide_eq_true apart
  have whole : 64 ≤ itemLen mem pos := Nat.le_add_left 64 _
  refine ⟨old, itemAt_congr ?_⟩
  intro offset below
  apply frame
  omega

/-- The items after a call. -/
def storedAfter (state : StoredPool) (call : PoolCall) : List Nat :=
  if reachesCopy state.pool call then
    let start := (restartFromHead state.pool call.size).lastPos
    let left := survivors state.pool.mem start call.size state.stored
    if refusesItem call then left else left ++ [start]
  else state.stored

section Append

variable {state : StoredPool} {call : PoolCall}

theorem restartFromHead_mem (pool : LogPool) (size : Nat) :
    (restartFromHead pool size).mem = pool.mem := by
  unfold restartFromHead
  split
  · rfl
  · rfl

theorem restartFromHead_check {pool : LogPool} (size : Nat) (ready : logPoolCheck pool = (pool, true)) :
    logPoolCheck (restartFromHead pool size) = (restartFromHead pool size, true) := by
  obtain ⟨-, right, mapped⟩ := logPoolCheck_passed ready
  unfold restartFromHead
  split
  · exact logPoolCheck_of right mapped
  · exact ready

theorem appendItem_check {pool : LogPool} (long : 64 ≤ call.size)
    (ready : logPoolCheck pool = (pool, true)) :
    logPoolCheck (appendItem pool call).1 = ((appendItem pool call).1, true) := by
  obtain ⟨-, right, mapped⟩ := logPoolCheck_passed ready
  rw [appendItem_eq long]
  split
  · exact logPoolCheck_of right mapped
  · exact logPoolCheck_of right mapped

theorem appendItem_frame {pool : LogPool} (long : 64 ≤ call.size) {place : Nat}
    (outside : place < pool.lastPos ∨ pool.lastPos + call.size ≤ place) :
    (appendItem pool call).1.mem place = pool.mem place := by
  rw [appendItem_eq long]
  split
  · exact store_outside outside
  · change stamp _ _ _ place = _
    rw [stamp_outside (by omega) (by omega), store_outside outside]

theorem appendItem_serial {pool : LogPool} (long : 64 ≤ call.size)
    (accepted : refusesItem call = false) :
    (itemAt (appendItem pool call).1.mem pool.lastPos).serialNo = nextSerialNo pool.serialNo := by
  rw [appendItem_eq long, if_neg (Bool.eq_false_iff.mp accepted)]
  change (itemAt (stamp _ _ _) _).serialNo = _
  rw [itemAt_stamp _ _ (nextSerialNo_lt _)]

theorem logPoolAppend_ready (state : StoredPool) (call : PoolCall) :
    logPoolCheck (logPoolAppend state.pool call).1 = ((logPoolAppend state.pool call).1, true) := by
  rw [logPoolAppend_eq state.ready]
  by_cases reaches : reachesCopy state.pool call = true
  · rw [if_pos reaches]
    exact appendItem_check (reachesCopy_sizes reaches).1
      (restartFromHead_check call.size state.ready)
  · rw [if_neg reaches]
    exact state.ready

theorem logPoolAppend_loops (state : StoredPool) (call : PoolCall) :
    (logPoolAppend state.pool call).1.writeLoops < 2 ^ 32 := by
  have bound := state.loops
  rw [logPoolAppend_eq state.ready]
  split
  · rw [appendItem_writeLoops]
    unfold restartFromHead
    split
    · exact Nat.mod_lt _ (Nat.two_pow_pos 32)
    · exact bound
  · exact bound

theorem logPoolAppend_numbered (state : StoredPool) (call : PoolCall) :
    ∀ pos ∈ storedAfter state call,
      (itemAt (logPoolAppend state.pool call).1.mem pos).serialNo ≠ 0 := by
  intro pos member
  rw [logPoolAppend_eq state.ready]
  unfold storedAfter at member
  by_cases reaches : reachesCopy state.pool call = true
  · rw [if_pos reaches] at member ⊢
    have long := (reachesCopy_sizes reaches).1
    have old (kept : pos ∈ survivors state.pool.mem
        (restartFromHead state.pool call.size).lastPos call.size state.stored) :
        (itemAt (appendItem (restartFromHead state.pool call.size) call).1.mem pos).serialNo ≠ 0 := by
      obtain ⟨before, same⟩ := survivors_same kept fun place outside =>
        (appendItem_frame long outside).trans (congrFun (restartFromHead_mem _ _) place)
      rw [same]
      exact state.numbered pos before
    cases refuses : refusesItem call with
    | true =>
        rw [refuses] at member
        exact old member
    | false =>
        rw [refuses] at member
        rcases List.mem_append.mp member with kept | added
        · exact old kept
        · rw [List.mem_singleton.mp added, appendItem_serial long refuses]
          exact nextSerialNo_ne_zero _
  · rw [if_neg reaches] at member ⊢
    exact state.numbered pos member

end Append

def StoredPool.append (state : StoredPool) (call : PoolCall) : StoredPool :=
  { pool := (logPoolAppend state.pool call).1
    stored := storedAfter state call
    ready := logPoolAppend_ready state call
    loops := logPoolAppend_loops state call
    numbered := logPoolAppend_numbered state call }

/-- What `init_log_pool` sets up, with a cleared or with a retained log. -/
theorem initLogPool_ready {paddr logMemSize va : Nat} {found pool : LogPool}
    (made : initLogPool paddr logMemSize va found = (pool, 0)) :
    logPoolCheck pool = (pool, true) := by
  unfold initLogPool at made
  split at made
  · exact absurd (Prod.ext_iff.mp made).2 (show ¬(-1 : Int) = 0 by decide)
  · split at made
    · exact absurd (Prod.ext_iff.mp made).2 (show ¬(-1 : Int) = 0 by decide)
    · next checked passed =>
        obtain ⟨rfl, size, mapped⟩ := logPoolCheck_passed passed
        obtain rfl := (Prod.ext_iff.mp made).1
        split
        · exact logPoolCheck_of size mapped
        · exact logPoolCheck_of size mapped

def StoredPool.ofInit {paddr logMemSize va : Nat} {found pool : LogPool}
    (made : initLogPool paddr logMemSize va found = (pool, 0)) (loops : pool.writeLoops < 2 ^ 32) :
    StoredPool :=
  { pool := pool
    stored := []
    ready := initLogPool_ready made
    loops := loops
    numbered := by intro pos impossible; cases impossible }

/-! ### What an append has to keep -/

/-- A failed append leaves the flag, the serial number and everything below `last_pos`, and
after any append the pool is not overrun and its items are numbered. -/
structure AppendKeeps (state : StoredPool) (call : PoolCall) : Prop where
  failed : (logPoolAppend state.pool call).2 ≠ 0 →
    (state.append call).pool.lastPos = state.pool.lastPos ∧
      (state.append call).pool.writeLoops = state.pool.writeLoops ∧
      (state.append call).pool.serialNo = state.pool.serialNo ∧
      ∀ place < state.pool.lastPos, (state.append call).pool.mem place = state.pool.mem place
  inside : sizeofLogBuffer + (state.append call).pool.lastPos ≤ (state.append call).pool.size
  numbered : ∀ pos ∈ (state.append call).stored,
    (itemAt (state.append call).pool.mem pos).serialNo ≠ 0

/-- The call starts again from the head and then fails. -/
def failsFromHead (pool : LogPool) (call : PoolCall) : Bool :=
  reachesCopy pool call && startsAgain pool call && refusesItem call

section Keeps

variable {state : StoredPool} {call : PoolCall}

theorem append_pool_stays (stays : reachesCopy state.pool call = false) :
    logPoolAppend state.pool call = (state.pool, -1) := by
  rw [logPoolAppend_eq state.ready, if_neg (Bool.eq_false_iff.mp stays)]

theorem append_refused_behind (reaches : reachesCopy state.pool call = true)
    (behind : startsAgain state.pool call = false) (refuses : refusesItem call = true) :
    logPoolAppend state.pool call =
      ({ state.pool with
          mem := store state.pool.mem state.pool.lastPos call.size call.bytes }, -1) := by
  rw [logPoolAppend_eq state.ready, if_pos reaches, restartFromHead_behind behind,
    appendItem_eq (reachesCopy_sizes reaches).1, if_pos refuses]

theorem append_accepted_inside (reaches : reachesCopy state.pool call = true)
    (accepted : refusesItem call = false) :
    (logPoolAppend state.pool call).2 = 0 ∧
      sizeofLogBuffer + (logPoolAppend state.pool call).1.lastPos ≤
        (logPoolAppend state.pool call).1.size := by
  obtain ⟨-, size, -⟩ := logPoolCheck_passed state.ready
  obtain ⟨long, short, within⟩ := reachesCopy_sizes reaches
  rw [logPoolAppend_eq state.ready, if_pos reaches, appendItem_eq long,
    if_neg (Bool.eq_false_iff.mp accepted)]
  refine ⟨rfl, ?_⟩
  unfold logPoolSize at size
  cases again : startsAgain state.pool call with
  | true =>
      rw [restartFromHead_again again]
      simp only
      unfold sizeofLogBuffer
      omega
  | false =>
      rw [restartFromHead_behind again]
      have room := of_decide_eq_false again
      simp only
      omega

theorem append_refused_again (reaches : reachesCopy state.pool call = true)
    (again : startsAgain state.pool call = true) (refuses : refusesItem call = true) :
    (logPoolAppend state.pool call).2 = -1 ∧
      (logPoolAppend state.pool call).1.writeLoops = (state.pool.writeLoops + 1) % 2 ^ 32 := by
  rw [logPoolAppend_eq state.ready, if_pos reaches, restartFromHead_again again,
    appendItem_eq (reachesCopy_sizes reaches).1, if_pos refuses]
  exact ⟨rfl, rfl⟩

theorem startsAgain_of_fine (fine : failsFromHead state.pool call = false)
    (reaches : reachesCopy state.pool call = true) (refuses : refusesItem call = true) :
    startsAgain state.pool call = false := by
  unfold failsFromHead at fine
  rw [reaches, refuses] at fine
  simpa using fine

theorem appendKeeps_of (inside : sizeofLogBuffer + state.pool.lastPos ≤ state.pool.size)
    (fine : failsFromHead state.pool call = false) : AppendKeeps state call := by
  refine ⟨?_, ?_, logPoolAppend_numbered state call⟩
  · intro failed
    change (logPoolAppend state.pool call).1.lastPos = _ ∧
      (logPoolAppend state.pool call).1.writeLoops = _ ∧
      (logPoolAppend state.pool call).1.serialNo = _ ∧
      ∀ place < state.pool.lastPos, (logPoolAppend state.pool call).1.mem place = _
    cases reaches : reachesCopy state.pool call with
    | false =>
        rw [append_pool_stays reaches]
        exact ⟨rfl, rfl, rfl, fun _ _ => rfl⟩
    | true =>
        cases refuses : refusesItem call with
        | false => exact absurd (append_accepted_inside reaches refuses).1 failed
        | true =>
            rw [append_refused_behind reaches (startsAgain_of_fine fine reaches refuses) refuses]
            refine ⟨rfl, rfl, rfl, ?_⟩
            intro place below
            exact store_outside (Or.inl below)
  · change sizeofLogBuffer + (logPoolAppend state.pool call).1.lastPos ≤
      (logPoolAppend state.pool call).1.size
    cases reaches : reachesCopy state.pool call with
    | false =>
        rw [append_pool_stays reaches]
        exact inside
    | true =>
        cases refuses : refusesItem call with
        | false => exact (append_accepted_inside reaches refuses).2
        | true =>
            rw [append_refused_behind reaches (startsAgain_of_fine fine reaches refuses) refuses]
            exact inside

theorem appendKeeps_inside (keeps : AppendKeeps state call) :
    sizeofLogBuffer + state.pool.lastPos ≤ state.pool.size := by
  have after := keeps.inside
  cases reaches : reachesCopy state.pool call with
  | true => exact (reachesCopy_sizes reaches).2.2
  | false =>
      change sizeofLogBuffer + (logPoolAppend state.pool call).1.lastPos ≤
        (logPoolAppend state.pool call).1.size at after
      rw [append_pool_stays reaches] at after
      exact after

theorem appendKeeps_not_fromHead (keeps : AppendKeeps state call) :
    failsFromHead state.pool call = false := by
  apply Bool.eq_false_iff.mpr
  intro fails
  unfold failsFromHead at fails
  simp only [Bool.and_eq_true] at fails
  obtain ⟨⟨reaches, again⟩, refuses⟩ := fails
  obtain ⟨result, loops⟩ := append_refused_again reaches again refuses
  have failed : (logPoolAppend state.pool call).2 ≠ 0 := by
    rw [result]
    decide
  have same : (logPoolAppend state.pool call).1.writeLoops = state.pool.writeLoops :=
    (keeps.failed failed).2.1
  have bound := state.loops
  rw [loops] at same
  omega

end Keeps

/-- An append keeps what it has to keep if and only if the pool was not overrun before and
the call does not fail after it started again from the head. -/
theorem logPoolAppend_keeps_iff (state : StoredPool) (call : PoolCall) :
    AppendKeeps state call ↔
      sizeofLogBuffer + state.pool.lastPos ≤ state.pool.size ∧
        failsFromHead state.pool call = false := by
  constructor
  · intro keeps
    exact ⟨appendKeeps_inside keeps, appendKeeps_not_fromHead keeps⟩
  · intro given
    exact appendKeeps_of given.1 given.2

def fullPool : LogPool :=
  ⟨4096, logPoolSize, 7, fun _ => 0, logPoolSize - sizeofLogBuffer - 64, 0,
    logPoolSize - sizeofLogBuffer, logItemMagic, 7⟩

theorem fullPool_init : initLogPool 0 (2 * logPoolSize) 4096 fullPool = (fullPool, 0) := rfl

def fullState : StoredPool := .ofInit fullPool_init (by decide)

/-- A copy of 128 bytes that fails: the pool has lost its position and counts one lap more. -/
theorem failed_append_restarts_pool :
    let call := { fullCall 128 with complete := false }
    (logPoolAppend fullState.pool call).2 = -1 ∧
      (fullState.append call).pool.lastPos = 0 ∧ fullState.pool.lastPos = 524004 ∧
      (fullState.append call).pool.writeLoops = 1 ∧ fullState.pool.writeLoops = 0 ∧
      ¬AppendKeeps fullState call := by
  have loops : (fullState.append { fullCall 128 with complete := false }).pool.writeLoops = 1 := by
    decide +kernel
  refine ⟨by decide +kernel, by decide +kernel, by decide +kernel, loops, rfl, ?_⟩
  intro keeps
  have same := (keeps.failed (by decide +kernel)).2.1
  rw [loops] at same
  cases same

end TzDriver.Tlogger
