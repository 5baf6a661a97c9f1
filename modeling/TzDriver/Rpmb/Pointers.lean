/-
The data pointers of an RPMB request (`update_dataptr` and `rpmb_agent_work` in
`linux/agent_rpmb/core/agent_rpmb.c`).

The request is copied to `m_rpmb_ctrl`, which has `agent_buff_size` bytes, and its pointers
are moved into that copy.  A pointer whose offset is above `buf_len` stays as it came from the
TEE, and nothing looks at `buf_bytes`.
-/

import TzDriver.Lib.Words
import TzDriver.Rpmb.Driver
import TzDriver.Rpmb.Lock

namespace TzDriver.Rpmb

open TzDriver.Lib

/-- `struct storage_blk_ioc_data` with the address in `buf`. -/
structure BlkIocData where
  buf : UInt64
  bufBytes : UInt64
  blocks : UInt32
deriving DecidableEq, Repr

/-- `struct rpmb_ctrl_t` with `send_ioccmd` as its arguments, without the bytes from
`buf_start` on.  There are `STORAGE_IOC_MAX_RPMB_CMD` commands. -/
structure RpmbCtrl where
  magic : UInt32
  lockFlag : UInt8
  opType : RpmbOpType
  data : Fin 3 → BlkIocData
  bufOffset : Fin 3 → UInt32
  cmd : RpmbCmd
  bufLen : UInt32
  ret : Int

/-- `offsetof(struct rpmb_ctrl_t, buf_start)`: four bytes of padding follow it. -/
def offsetofBufStart : Nat := 124

def teecErrorBadFormat : Int := 0xFFFF0005
def teecErrorOutOfMemory : Int := 0xFFFF000C
def teecErrorSecurity : Int := 0xFFFF000F

structure PrivateCopy (size : Nat) where
  addr : Nat
  nonNull : 0 < addr
  addressable : addr + size < 18446744073709551616

/-- What one call of `rpmb_agent_work` meets: whether there is an agent with a buffer, its size,
`m_rpmb_ctrl` as it was or as it is allocated, and the result of `rpmb_ioctl_cmd`. -/
structure AgentCall where
  agentBuff : Bool
  agentBuffSize : UInt32
  copy : Option (PrivateCopy agentBuffSize.toNat)
  ioctl : Int

inductive RpmbEvent where
  | counterLock
  | ioctlCmd (operation : RpmbOpType) (storageData : Fin 3 → BlkIocData)
  | counterUnlock

/-- What a call returns, what it stores in `trans_ctrl->ret`, and what it does with the
device. -/
structure AgentWork where
  ret : Int
  transRet : Option Int
  events : List RpmbEvent

/-- One round of `update_dataptr` on a structure at `addr`. -/
def updatePtr (addr : Nat) (bufLen offset : UInt32) (data : BlkIocData) : BlkIocData :=
  if offset > bufLen then data
  else if data.buf ≠ 0 then
    { data with buf := UInt64.ofNat (addr + offsetofBufStart + offset.toNat) }
  else data

namespace RpmbCtrl

variable (ctrl : RpmbCtrl)

/-- Each round of `update_dataptr` has an entry of its own. -/
def updateDataptr (addr : Nat) : RpmbCtrl :=
  { ctrl with
    data := fun index => updatePtr addr ctrl.bufLen (ctrl.bufOffset index) (ctrl.data index) }

def rpmbCheckData : Int :=
  if ctrl.magic ≠ rpmbCtrlMagic then -1 else 0

/-- `send_ioccmd` on `m_rpmb_ctrl`: what it does and `m_rpmb_ctrl->ret` after it. -/
def sendIoccmd (ioctl : Int) : List RpmbEvent × Int :=
  ((if ctrl.lockFlag &&& getRpmbLockMask ≠ 0 then [.counterLock] else []) ++
    .ioctlCmd ctrl.opType ctrl.data ::
      (if ctrl.lockFlag &&& freeRpmbLockMask ≠ 0 then [.counterUnlock] else []),
    ioctl)

def rpmbHandleCmd (ioctl : Int) : List RpmbEvent × Int :=
  match ctrl.cmd with
  | .sendIocmd => ctrl.sendIoccmd ioctl
  | .rpmbLock => ([.counterLock], 0)
  | .rpmbUnlock => ([.counterUnlock], 0)
  | _ => ([], ctrl.ret)

end RpmbCtrl

def rpmbAgentWork (call : AgentCall) (transCtrl : RpmbCtrl) : AgentWork :=
  if call.agentBuff = false then ⟨-1, none, []⟩
  else if transCtrl.rpmbCheckData ≠ 0 then ⟨-1, some teecErrorBadFormat, []⟩
  else
    match call.copy with
    | none => ⟨-1, some teecErrorOutOfMemory, []⟩
    | some copy =>
        if memcpyS call.agentBuffSize.toNat (sizeofRpmbCtrl + transCtrl.bufLen.toNat) false ≠ 0 then
          ⟨-1, some teecErrorSecurity, []⟩
        else
          let handled := (transCtrl.updateDataptr copy.addr).rpmbHandleCmd call.ioctl
          let copyLen := sub32 call.agentBuffSize.toNat offsetofBufStart
          if memcpyS copyLen copyLen false ≠ 0 then ⟨-1, some teecErrorSecurity, handled.1⟩
          else ⟨0, some handled.2, handled.1⟩

/-! ### The pointers of a request -/

/-- A pointer that is set lies in the copy with all its bytes. -/
def PrivateCopy.Holds {size : Nat} (copy : PrivateCopy size) (data : BlkIocData) : Prop :=
  data.buf ≠ 0 →
    copy.addr ≤ data.buf.toNat ∧ data.buf.toNat + data.bufBytes.toNat ≤ copy.addr + size

/-- Wherever the copy is, `rpmb_ioctl_cmd` gets no other pointers than those into it. -/
def PointersInside (agentBuffSize : UInt32) (transCtrl : RpmbCtrl) : Prop :=
  ∀ (copy : PrivateCopy agentBuffSize.toNat) (ioctl : Int) (operation : RpmbOpType)
    (storageData : Fin 3 → BlkIocData),
    RpmbEvent.ioctlCmd operation storageData ∈
        (rpmbAgentWork ⟨true, agentBuffSize, some copy, ioctl⟩ transCtrl).events →
      ∀ index, copy.Holds (storageData index)

/-- The request fits in the copy and is one for `rpmb_ioctl_cmd`. -/
structure RpmbCtrl.Sent (transCtrl : RpmbCtrl) (agentBuffSize : UInt32) : Prop where
  command : transCtrl.cmd = .sendIocmd
  fits : memcpyS agentBuffSize.toNat (sizeofRpmbCtrl + transCtrl.bufLen.toNat) false = 0

/-- The offset is one of the message and the bytes from it on end in the copy. -/
structure Bounded (agentBuffSize bufLen offset : UInt32) (data : BlkIocData) : Prop where
  inMessage : offset ≤ bufLen
  inCopy : offsetofBufStart + offset.toNat + data.bufBytes.toNat ≤ agentBuffSize.toNat

section Requests

variable {agentBuffSize : UInt32} {transCtrl : RpmbCtrl}

theorem ioctlCmd_mem_handled {ctrl : RpmbCtrl} {ioctl : Int} {operation : RpmbOpType}
    {storageData : Fin 3 → BlkIocData} :
    RpmbEvent.ioctlCmd operation storageData ∈ (ctrl.rpmbHandleCmd ioctl).1 ↔
      ctrl.cmd = .sendIocmd ∧ operation = ctrl.opType ∧ storageData = ctrl.data := by
  have sends : RpmbEvent.ioctlCmd operation storageData ∈ (ctrl.sendIoccmd ioctl).1 ↔
      operation = ctrl.opType ∧ storageData = ctrl.data := by
    unfold RpmbCtrl.sendIoccmd
    by_cases takes : ctrl.lockFlag &&& getRpmbLockMask = 0
    · by_cases frees : ctrl.lockFlag &&& freeRpmbLockMask = 0
      · simp [takes, frees]
      · simp [takes, frees]
    · by_cases frees : ctrl.lockFlag &&& freeRpmbLockMask = 0
      · simp [takes, frees]
      · simp [takes, frees]
  unfold RpmbCtrl.rpmbHandleCmd
  cases ctrl.cmd with
  | sendIocmd =>
      rw [and_iff_right rfl]
      exact sends
  | getDevinfo => simp
  | rpmbLock => simp
  | rpmbUnlock => simp
  | rpmbAbnormal => simp
  | other value => simp

theorem ioctlCmd_mem_events (checked : transCtrl.rpmbCheckData = 0)
    {copy : PrivateCopy agentBuffSize.toNat} {ioctl : Int} {operation : RpmbOpType}
    {storageData : Fin 3 → BlkIocData} :
    RpmbEvent.ioctlCmd operation storageData ∈
        (rpmbAgentWork ⟨true, agentBuffSize, some copy, ioctl⟩ transCtrl).events ↔
      transCtrl.Sent agentBuffSize ∧ operation = transCtrl.opType ∧
        storageData = (transCtrl.updateDataptr copy.addr).data := by
  unfold rpmbAgentWork
  simp only [Bool.true_eq_false, if_false, checked, ne_eq, not_true_eq_false]
  by_cases fits :
      memcpyS agentBuffSize.toNat (sizeofRpmbCtrl + transCtrl.bufLen.toNat) false = 0
  · have handled : RpmbEvent.ioctlCmd operation storageData ∈
        ((transCtrl.updateDataptr copy.addr).rpmbHandleCmd ioctl).1 ↔
          transCtrl.Sent agentBuffSize ∧ operation = transCtrl.opType ∧
            storageData = (transCtrl.updateDataptr copy.addr).data := by
      rw [ioctlCmd_mem_handled]
      constructor
      · intro ⟨command, same⟩
        exact ⟨⟨command, fits⟩, same⟩
      · intro ⟨sent, same⟩
        exact ⟨sent.command, same⟩
    rw [if_neg (not_not_intro fits)]
    split
    · exact handled
    · exact handled
  · rw [if_pos fits]
    apply iff_of_false
    · intro impossible
      cases impossible
    · intro ⟨sent, _⟩
      exact fits sent.fits

/-- Two places for the copy that have no address in common. -/
def lowCopy (agentBuffSize : UInt32) : PrivateCopy agentBuffSize.toNat :=
  ⟨1, Nat.one_pos, by have := agentBuffSize.toNat_lt; omega⟩

def highCopy (agentBuffSize : UInt32) : PrivateCopy agentBuffSize.toNat :=
  ⟨9223372036854775808, by decide, by have := agentBuffSize.toNat_lt; omega⟩

theorem not_held_everywhere {data : BlkIocData} (set : data.buf ≠ 0) :
    ¬∀ copy : PrivateCopy agentBuffSize.toNat, copy.Holds data := by
  intro everywhere
  have size := agentBuffSize.toNat_lt
  obtain ⟨-, belowLow⟩ := everywhere (lowCopy agentBuffSize) set
  obtain ⟨aboveHigh, -⟩ := everywhere (highCopy agentBuffSize) set
  unfold lowCopy at belowLow
  unfold highCopy at aboveHigh
  simp only at belowLow aboveHigh
  omega

section Moved

variable {bufLen offset : UInt32} {data : BlkIocData}

theorem updatePtr_moved (room : sizeofRpmbCtrl + bufLen.toNat ≤ agentBuffSize.toNat)
    (within : offset ≤ bufLen) (set : data.buf ≠ 0) (copy : PrivateCopy agentBuffSize.toNat) :
    (updatePtr copy.addr bufLen offset data).buf.toNat =
        copy.addr + offsetofBufStart + offset.toNat ∧
      (updatePtr copy.addr bufLen offset data).bufBytes = data.bufBytes := by
  have addressable := copy.addressable
  have offsetBound := UInt32.le_iff_toNat_le.mp within
  unfold sizeofRpmbCtrl at room
  unfold updatePtr
  rw [if_neg (UInt32.not_lt.mpr within), if_pos set]
  unfold offsetofBufStart
  simp only [UInt64.toNat_ofNat', and_true]
  omega

theorem updatePtr_holds_iff_bounded (room : sizeofRpmbCtrl + bufLen.toNat ≤ agentBuffSize.toNat)
    (within : offset ≤ bufLen) (set : data.buf ≠ 0) (copy : PrivateCopy agentBuffSize.toNat) :
    copy.Holds (updatePtr copy.addr bufLen offset data) ↔
      offsetofBufStart + offset.toNat + data.bufBytes.toNat ≤ agentBuffSize.toNat := by
  have positive := copy.nonNull
  obtain ⟨buf, bufBytes⟩ := updatePtr_moved room within set copy
  have still : (updatePtr copy.addr bufLen offset data).buf ≠ 0 := by
    intro zero
    have none : (0 : UInt64).toNat = 0 := rfl
    rw [zero, none] at buf
    omega
  unfold PrivateCopy.Holds
  rw [forall_prop_of_true still, buf, bufBytes]
  constructor
  · intro inside
    omega
  · intro bound
    omega

/-- A round leaves a pointer into the copy wherever that is if and only if the pointer is
`NULL` or bounded. -/
theorem updatePtr_holds_iff (room : sizeofRpmbCtrl + bufLen.toNat ≤ agentBuffSize.toNat) :
    (∀ copy : PrivateCopy agentBuffSize.toNat, copy.Holds (updatePtr copy.addr bufLen offset data)) ↔
      (data.buf ≠ 0 → Bounded agentBuffSize bufLen offset data) := by
  by_cases null : data.buf = 0
  · apply iff_of_true
    · intro copy set
      unfold updatePtr at set
      rw [if_neg (not_not_intro null), ite_self] at set
      exact absurd null set
    · intro set
      exact absurd null set
  · rw [forall_prop_of_true null]
    by_cases above : offset > bufLen
    · apply iff_of_false
      · unfold updatePtr
        simp only [if_pos above]
        exact not_held_everywhere null
      · intro bounded
        exact UInt32.not_lt.mpr bounded.inMessage above
    · have within := UInt32.not_lt.mp above
      constructor
      · intro everywhere
        have low := everywhere (lowCopy agentBuffSize)
        exact ⟨within, (updatePtr_holds_iff_bounded room within null _).mp low⟩
      · intro bounded copy
        exact (updatePtr_holds_iff_bounded room within null copy).mpr bounded.inCopy

end Moved

/-- The pointers lie in the private copy if and only if every one that is set is bounded. -/
theorem pointersInside_iff (agentBuffSize : UInt32) (transCtrl : RpmbCtrl)
    (checked : transCtrl.rpmbCheckData = 0) :
    PointersInside agentBuffSize transCtrl ↔
      (transCtrl.Sent agentBuffSize → ∀ index, (transCtrl.data index).buf ≠ 0 →
        Bounded agentBuffSize transCtrl.bufLen (transCtrl.bufOffset index)
          (transCtrl.data index)) := by
  constructor
  · intro inside sent index
    obtain ⟨-, -, room, -⟩ := memcpyS_eq_zero.mp sent.fits
    apply (updatePtr_holds_iff room).mp
    intro copy
    exact inside copy 0 _ _ ((ioctlCmd_mem_events checked).mpr ⟨sent, rfl, rfl⟩) index
  · intro bounded copy ioctl operation storageData member index
    obtain ⟨sent, -, rfl⟩ := (ioctlCmd_mem_events checked).mp member
    obtain ⟨-, -, room, -⟩ := memcpyS_eq_zero.mp sent.fits
    exact (updatePtr_holds_iff room).mpr (bounded sent index) copy

def RpmbCtrl.request (transCtrl : RpmbCtrl) (call : AgentCall) (dev : UInt32) (found : Bool) :
    Request :=
  { dev := dev
    agentBuff := call.agentBuff
    magic := transCtrl.magic
    ctrlAlloc := call.copy.isSome
    buffSize := call.agentBuffSize.toNat
    bufLen := transCtrl.bufLen
    cmd := transCtrl.cmd
    lockFlag := transCtrl.lockFlag
    found := found }

/-- A request reaches `rpmb_ioctl_cmd` if and only if the lock's model accepts it as one for that
call. -/
theorem reaches_ioctl_iff_accepts {state : LockState} (call : AgentCall) (dev : UInt32)
    (found : Bool) (kept : state.ctrl = true → call.copy.isSome = true) :
    (∃ operation storageData, RpmbEvent.ioctlCmd operation storageData ∈
        (rpmbAgentWork call transCtrl).events) ↔
      state.accepts (transCtrl.request call dev found) = true ∧ transCtrl.cmd = .sendIocmd := by
  have accepts : state.accepts (transCtrl.request call dev found) = true ↔
      call.agentBuff = true ∧ transCtrl.magic = rpmbCtrlMagic ∧ call.copy.isSome = true ∧
        memcpyS call.agentBuffSize.toNat (sizeofRpmbCtrl + transCtrl.bufLen.toNat) false = 0 := by
    have copied : (state.ctrl || call.copy.isSome) = call.copy.isSome := by
      cases given : state.ctrl with
      | false => rfl
      | true => rw [kept given]; rfl
    unfold LockState.accepts RpmbCtrl.request
    rw [copied]
    simp only [Bool.and_eq_true, beq_iff_eq, decide_eq_true_eq, and_assoc]
  obtain ⟨agentBuff, agentBuffSize, copy, ioctl⟩ := call
  rw [accepts]
  cases agentBuff with
  | false => exact iff_of_false (fun ⟨_, _, event⟩ => nomatch event) (fun given => nomatch given.1.1)
  | true =>
      by_cases magic : transCtrl.magic = rpmbCtrlMagic
      · cases copy with
        | none =>
            apply iff_of_false
            · intro ⟨_, _, event⟩
              unfold rpmbAgentWork RpmbCtrl.rpmbCheckData at event
              simp [magic] at event
            · intro given
              cases given.1.2.2.1
        | some copy =>
            have checked : transCtrl.rpmbCheckData = 0 := if_neg (not_not_intro magic)
            constructor
            · intro ⟨_, _, event⟩
              obtain ⟨sent, -, -⟩ := (ioctlCmd_mem_events checked).mp event
              exact ⟨⟨rfl, magic, rfl, sent.fits⟩, sent.command⟩
            · intro ⟨⟨_, _, _, fits⟩, command⟩
              exact ⟨_, _, (ioctlCmd_mem_events checked).mpr ⟨⟨command, fits⟩, rfl, rfl⟩⟩
      · apply iff_of_false
        · intro ⟨_, _, event⟩
          unfold rpmbAgentWork RpmbCtrl.rpmbCheckData at event
          simp [magic] at event
        · intro given
          exact magic given.1.2.1

end Requests

def oneCommand (offset : UInt32) (bufBytes : UInt64) : RpmbCtrl :=
  { magic := rpmbCtrlMagic
    lockFlag := 0
    opType := .rd
    data := fun index => if index = 0 then ⟨0x1000, bufBytes, 1⟩ else ⟨0, 0, 0⟩
    bufOffset := fun index => if index = 0 then offset else 0
    cmd := .sendIocmd
    bufLen := 4
    ret := 0 }

theorem pointersInside_one :
    (oneCommand 0 4).rpmbCheckData = 0 ∧
      (PointersInside 32768 (oneCommand 0 4) ↔
        ((oneCommand 0 4).Sent 32768 → ∀ index, ((oneCommand 0 4).data index).buf ≠ 0 →
          Bounded 32768 (oneCommand 0 4).bufLen ((oneCommand 0 4).bufOffset index)
            ((oneCommand 0 4).data index))) :=
  ⟨by decide, pointersInside_iff 32768 (oneCommand 0 4) (by decide)⟩

/-- The copy of the agent's eight pages at an address of the kernel. -/
def kernelCopy : PrivateCopy (32768 : UInt32).toNat :=
  ⟨0xffff000000100000, by decide, by decide⟩

/-- An offset above `buf_len` leaves the address of the TEE in the request, and a length is taken
as it is. -/
theorem tee_address_reaches_ioctl :
    (oneCommand 5 4).rpmbCheckData = 0 ∧ (oneCommand 0 0x10000).rpmbCheckData = 0 ∧
      (∃ storageData, RpmbEvent.ioctlCmd .rd storageData ∈
          (rpmbAgentWork ⟨true, 32768, some kernelCopy, 0⟩ (oneCommand 5 4)).events ∧
        (storageData 0).buf = 0x1000) ∧
      (∃ storageData, RpmbEvent.ioctlCmd .rd storageData ∈
          (rpmbAgentWork ⟨true, 32768, some kernelCopy, 0⟩ (oneCommand 0 0x10000)).events ∧
        (storageData 0).buf = 0xffff00000010007c ∧ (storageData 0).bufBytes = 0x10000) ∧
      ¬PointersInside 32768 (oneCommand 5 4) ∧ ¬PointersInside 32768 (oneCommand 0 0x10000) := by
  have foreign : RpmbEvent.ioctlCmd .rd ((oneCommand 5 4).updateDataptr kernelCopy.addr).data ∈
      (rpmbAgentWork ⟨true, 32768, some kernelCopy, 0⟩ (oneCommand 5 4)).events :=
    (ioctlCmd_mem_events (by decide)).mpr ⟨⟨rfl, by decide⟩, rfl, rfl⟩
  have long : RpmbEvent.ioctlCmd .rd ((oneCommand 0 0x10000).updateDataptr kernelCopy.addr).data ∈
      (rpmbAgentWork ⟨true, 32768, some kernelCopy, 0⟩ (oneCommand 0 0x10000)).events :=
    (ioctlCmd_mem_events (by decide)).mpr ⟨⟨rfl, by decide⟩, rfl, rfl⟩
  refine ⟨by decide, by decide, ⟨_, foreign, by decide⟩, ⟨_, long, by decide, by decide⟩, ?_, ?_⟩
  · intro inside
    have held := inside kernelCopy 0 _ _ foreign 0 (by decide)
    exact absurd held.1 (by decide)
  · intro inside
    have held := inside kernelCopy 0 _ _ long 0 (by decide)
    exact absurd held.2 (by decide)

end TzDriver.Rpmb
