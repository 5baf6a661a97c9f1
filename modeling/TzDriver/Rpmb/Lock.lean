/-
The RPMB counter lock and its recorded owner (`linux/agent_rpmb/core/agent_rpmb.c`), on a
platform where the lock is a mutex.

One thread serves the requests of all clients.  It may be stopped in `mutex_lock` and
while it is in `rpmb_ioctl_cmd`, and clients may crash at any of these points.  Taking the
lock and recording its owner is one step.
-/

import TzDriver.Lib.Runs
import TzDriver.Platform

namespace TzDriver.Rpmb

open TzDriver.Lib

inductive RpmbCmd where
  | getDevinfo
  | sendIocmd
  | rpmbLock
  | rpmbUnlock
  | rpmbAbnormal
  | other (value : UInt32)
deriving DecidableEq, Repr

structure LockInfo where
  devId : UInt32
  lockNeedFree : Bool
deriving DecidableEq, Repr

/-- The part of the agent's node that a lock reads: `cmd.dev_file_id`. -/
structure EventData where
  cmdDevFileId : UInt32
deriving DecidableEq, Repr

/-- A request of the TEE for a client, as the agent finds it in its buffer: `found` and
`ctrlAlloc` are the results of `find_event_control` and of the allocation, `buffSize` is the
size of the agent's buffer. -/
structure Request where
  dev : UInt32
  agentBuff : Bool
  magic : UInt32
  ctrlAlloc : Bool
  buffSize : Nat
  bufLen : UInt32
  cmd : RpmbCmd
  lockFlag : UInt8
  found : Bool
deriving DecidableEq, Repr

inductive Place where
  | idle
  | locking (request : Request)
  | working (request : Request)
deriving DecidableEq, Repr

/-- `owner` is the client on whose behalf the lock is held, and `stray` tells whether it was
ever released while nobody held it. -/
structure LockState where
  event : EventData
  ctrl : Bool
  info : LockInfo
  owner : Option UInt32
  place : Place
  stray : Bool
deriving DecidableEq, Repr

def rpmbCtrlMagic : UInt32 := 0x5A5A5A5A

def sizeofRpmbCtrl : Nat := 128

def getRpmbLockMask : UInt8 := 0x01

def freeRpmbLockMask : UInt8 := 0x02

namespace LockState

variable (state : LockState)

/-- `init_agent_context` stores nothing in the node of an agent. -/
def initAgentContext (_dev : UInt32) : LockState :=
  state

def processRpmbLock (request : Request) : LockState :=
  { state with
    owner := some request.dev
    info := if request.found then ⟨state.event.cmdDevFileId, true⟩ else state.info }

def processRpmbUnlock : LockState :=
  { state with
    info := ⟨0, false⟩
    owner := none
    stray := state.stray || state.owner.isNone }

/-- `rpmb_handle_cmd` up to the first lock, or to `rpmb_ioctl_cmd`. -/
def rpmbHandleCmd (request : Request) : LockState :=
  match request.cmd with
  | .sendIocmd =>
      if request.lockFlag &&& getRpmbLockMask ≠ 0 then { state with place := .locking request }
      else { state with place := .working request }
  | .rpmbLock => { state with place := .locking request }
  | .rpmbUnlock => { state.processRpmbUnlock with place := .idle }
  | _ => { state with place := .idle }

/-- `rpmb_agent_work` up to `rpmb_handle_cmd`. -/
def rpmbAgentWork (request : Request) : LockState :=
  if request.agentBuff = false then state
  else if request.magic ≠ rpmbCtrlMagic then state
  else if state.ctrl = false ∧ request.ctrlAlloc = false then state
  else if memcpyS request.buffSize (sizeofRpmbCtrl + request.bufLen.toNat) false ≠ 0 then
    { state with ctrl := false }
  else rpmbHandleCmd { state with ctrl := true } request

/-- What is left of a request after its lock. -/
def locked (request : Request) : LockState :=
  { state.processRpmbLock request with
    place := if request.cmd = .sendIocmd then .working request else .idle }

/-- The end of `send_ioccmd`. -/
def worked (request : Request) : LockState :=
  if request.lockFlag &&& freeRpmbLockMask ≠ 0 then { state.processRpmbUnlock with place := .idle }
  else { state with place := .idle }

/-- The test of `rpmb_agent_crash_work`. -/
def crashFrees (dev : UInt32) : Bool :=
  state.info.lockNeedFree && state.info.devId == dev

def rpmbAgentCrashWork (dev : UInt32) : LockState :=
  if state.crashFrees dev then state.processRpmbUnlock else state

end LockState

inductive LockLabel where
  | request (request : Request)
  | lock
  | finish
  | crash (dev : UInt32)
  | exit
deriving DecidableEq, Repr

/-- One step; `none` where it cannot be taken, above all a lock that somebody holds. -/
def LockState.exec (state : LockState) : LockLabel → Option LockState
  | .request request =>
      match state.place with
      | .idle => some ((state.initAgentContext request.dev).rpmbAgentWork request)
      | _ => none
  | .lock =>
      match state.place, state.owner with
      | .locking request, none => some (state.locked request)
      | _, _ => none
  | .finish =>
      match state.place with
      | .working request => some (state.worked request)
      | _ => none
  | .crash dev => some (state.rpmbAgentCrashWork dev)
  | .exit =>
      match state.place with
      | .idle => some { state with ctrl := false }
      | _ => none

/-- The node is zeroed when the agent registers. -/
def LockState.initial : LockState :=
  { event := ⟨0⟩, ctrl := false, info := ⟨0, false⟩, owner := none, place := .idle, stray := false }

def lockMachine : Machine LockState LockLabel :=
  { init := fun state => state = .initial
    step := fun before label after => before.exec label = some after }

/-! ### The owner -/

/-- The recorded owner is the client that took the lock, its crash and no other releases the
lock, and the lock was never released without being held. -/
structure Attributed (state : LockState) : Prop where
  recorded : ∀ dev, state.owner = some dev → state.info = ⟨dev, true⟩
  crashes : ∀ dev, state.crashFrees dev = true ↔ state.owner = some dev
  held : state.stray = false

/-- The request comes as far as `rpmb_handle_cmd`. -/
def LockState.accepts (state : LockState) (request : Request) : Bool :=
  request.agentBuff && request.magic == rpmbCtrlMagic && (state.ctrl || request.ctrlAlloc) &&
    decide (memcpyS request.buffSize (sizeofRpmbCtrl + request.bufLen.toNat) false = 0)

/-- The lock is taken for the client whose id the agent's node happens to hold, and given
back only while it is held. -/
def LockState.Proper (state : LockState) : LockLabel → Prop
  | .request request =>
      state.accepts request = true → request.cmd = .rpmbUnlock → state.owner.isSome = true
  | .lock =>
      ∀ request, state.place = .locking request →
        request.found = true ∧ request.dev = state.event.cmdDevFileId
  | .finish =>
      ∀ request, state.place = .working request → request.lockFlag &&& freeRpmbLockMask ≠ 0 →
        state.owner.isSome = true
  | .crash _ => True
  | .exit => True

section Attribution

variable {state after : LockState} {label : LockLabel} {request : Request}

theorem attributed_at_iff (state : LockState) (ctrl : Bool) (place : Place) :
    Attributed { state with ctrl := ctrl, place := place } ↔ Attributed state := by
  constructor
  · rintro ⟨recorded, crashes, held⟩
    exact ⟨recorded, crashes, held⟩
  · rintro ⟨recorded, crashes, held⟩
    exact ⟨recorded, crashes, held⟩

theorem processRpmbUnlock_attributed_iff (attributed : Attributed state) :
    Attributed state.processRpmbUnlock ↔ state.owner.isSome = true := by
  have stray : state.processRpmbUnlock.stray = state.owner.isNone := by
    change (state.stray || state.owner.isNone) = _
    rw [attributed.held, Bool.false_or]
  constructor
  · intro released
    have clean := released.held
    rw [stray] at clean
    cases owned : state.owner with
    | none =>
        rw [owned] at clean
        cases clean
    | some dev => rfl
  · intro owned
    refine ⟨?_, ?_, ?_⟩
    · intro dev impossible
      cases impossible
    · intro dev
      refine iff_of_false ?_ ?_
      · intro impossible
        cases impossible
      · intro impossible
        cases impossible
    · rw [stray]
      cases held : state.owner with
      | none =>
          rw [held] at owned
          cases owned
      | some dev => rfl

theorem crashFrees_iff (dev : UInt32) :
    state.crashFrees dev = true ↔ state.info = ⟨dev, true⟩ := by
  unfold LockState.crashFrees
  obtain ⟨devId, lockNeedFree⟩ := state.info
  cases lockNeedFree with
  | false => simp
  | true => simp

theorem processRpmbLock_attributed_iff (attributed : Attributed state) (free : state.owner = none) :
    Attributed (state.processRpmbLock request) ↔
      request.found = true ∧ request.dev = state.event.cmdDevFileId := by
  have info : (state.processRpmbLock request).info =
      if request.found then ⟨state.event.cmdDevFileId, true⟩ else state.info := rfl
  have unheld : state.info.lockNeedFree = false := by
    rw [Bool.eq_false_iff]
    intro needs
    have frees : state.crashFrees state.info.devId = true := by
      unfold LockState.crashFrees
      rw [needs, beq_self_eq_true]
      rfl
    have owned := (attributed.crashes _).mp frees
    rw [free] at owned
    cases owned
  constructor
  · intro locked
    have recorded := locked.recorded request.dev rfl
    rw [info] at recorded
    cases found : request.found with
    | true =>
        rw [found, if_pos rfl] at recorded
        exact ⟨rfl, (congrArg LockInfo.devId recorded).symm⟩
    | false =>
        rw [found, if_neg Bool.false_ne_true] at recorded
        rw [recorded] at unheld
        cases unheld
  · rintro ⟨found, dev⟩
    have recorded : (state.processRpmbLock request).info = ⟨request.dev, true⟩ := by
      rw [info, found, if_pos rfl, dev]
    refine ⟨?_, ?_, attributed.held⟩
    · intro other owned
      rw [recorded, Option.some.inj owned]
    · intro other
      rw [crashFrees_iff, recorded]
      constructor
      · intro same
        exact congrArg some (congrArg LockInfo.devId same)
      · intro owned
        rw [Option.some.inj owned]

theorem rpmbAgentCrashWork_attributed (attributed : Attributed state) (dev : UInt32) :
    Attributed (state.rpmbAgentCrashWork dev) := by
  unfold LockState.rpmbAgentCrashWork
  split
  · next frees =>
      refine (processRpmbUnlock_attributed_iff attributed).mpr ?_
      rw [(attributed.crashes dev).mp frees]
      rfl
  · exact attributed

theorem rpmbHandleCmd_attributed_iff (attributed : Attributed state) :
    Attributed (state.rpmbHandleCmd request) ↔
      (request.cmd = .rpmbUnlock → state.owner.isSome = true) := by
  unfold LockState.rpmbHandleCmd
  cases command : request.cmd with
  | rpmbUnlock =>
      simp only [true_imp_iff]
      exact (attributed_at_iff state.processRpmbUnlock state.ctrl .idle).trans
        (processRpmbUnlock_attributed_iff attributed)
  | sendIocmd =>
      refine iff_of_true ?_ (by intro impossible; cases impossible)
      simp only
      split
      · exact (attributed_at_iff state state.ctrl (.locking request)).mpr attributed
      · exact (attributed_at_iff state state.ctrl (.working request)).mpr attributed
  | rpmbLock =>
      refine iff_of_true ?_ (by intro impossible; cases impossible)
      exact (attributed_at_iff state state.ctrl (.locking request)).mpr attributed
  | _ =>
      refine iff_of_true ?_ (by intro impossible; cases impossible)
      exact (attributed_at_iff state state.ctrl .idle).mpr attributed

theorem rpmbAgentWork_attributed_iff (attributed : Attributed state) :
    Attributed (state.rpmbAgentWork request) ↔
      (state.accepts request = true → request.cmd = .rpmbUnlock → state.owner.isSome = true) := by
  unfold LockState.rpmbAgentWork LockState.accepts
  cases buffer : request.agentBuff with
  | false => exact iff_of_true attributed (by intro impossible; cases impossible)
  | true =>
      rw [if_neg (by decide)]
      by_cases magic : request.magic = rpmbCtrlMagic
      · rw [if_neg (not_not_intro magic)]
        by_cases room : state.ctrl = false ∧ request.ctrlAlloc = false
        · rw [if_pos room]
          refine iff_of_true attributed ?_
          simp [room.1, room.2]
        · rw [if_neg room]
          have given : (state.ctrl || request.ctrlAlloc) = true := by
            cases ctrl : state.ctrl with
            | true => rfl
            | false =>
                cases alloc : request.ctrlAlloc with
                | true => rfl
                | false => exact absurd ⟨ctrl, alloc⟩ room
          by_cases copied :
              memcpyS request.buffSize (sizeofRpmbCtrl + request.bufLen.toNat) false = 0
          · rw [if_neg (not_not_intro copied)]
            simp only [magic, beq_self_eq_true, given, copied, decide_true, Bool.and_self,
              forall_const]
            have same : Attributed { state with ctrl := true } :=
              (attributed_at_iff state true state.place).mpr attributed
            exact rpmbHandleCmd_attributed_iff same
          · rw [if_pos copied]
            refine iff_of_true ((attributed_at_iff state false state.place).mpr attributed) ?_
            simp [copied]
      · rw [if_pos magic]
        refine iff_of_true attributed ?_
        simp [magic]

/-- From an attributed state, a step keeps the attribution exactly when it is proper. -/
theorem attributed_step_iff (attributed : Attributed state)
    (stepped : lockMachine.step state label after) :
    Attributed after ↔ state.Proper label := by
  change state.exec label = some after at stepped
  unfold LockState.exec at stepped
  cases label with
  | request request =>
      simp only at stepped
      split at stepped
      · cases stepped
        exact rpmbAgentWork_attributed_iff attributed
      · cases stepped
  | lock =>
      simp only at stepped
      split at stepped
      · next request here free =>
          cases stepped
          refine (attributed_at_iff (state.processRpmbLock request) state.ctrl _).trans
            ((processRpmbLock_attributed_iff attributed free).trans ?_)
          unfold LockState.Proper
          rw [here]
          simp only [Place.locking.injEq, forall_eq']
      · cases stepped
  | finish =>
      simp only at stepped
      split at stepped
      · next request here =>
          cases stepped
          unfold LockState.worked LockState.Proper
          rw [here]
          simp only [Place.working.injEq, forall_eq']
          by_cases frees : request.lockFlag &&& freeRpmbLockMask ≠ 0
          · rw [if_pos frees]
            refine (attributed_at_iff state.processRpmbUnlock state.ctrl .idle).trans
              ((processRpmbUnlock_attributed_iff attributed).trans ?_)
            simp only [frees, not_false_eq_true, forall_const, ne_eq]
          · rw [if_neg frees]
            exact iff_of_true ((attributed_at_iff state state.ctrl .idle).mpr attributed)
              fun impossible => absurd impossible frees
      · cases stepped
  | crash dev =>
      cases stepped
      exact iff_of_true (rpmbAgentCrashWork_attributed attributed dev) trivial
  | exit =>
      simp only at stepped
      split at stepped
      · cases stepped
        exact iff_of_true ((attributed_at_iff state false state.place).mpr attributed) trivial
      · cases stepped

end Attribution

/-! ### Whole runs -/

def properMachine : Machine LockState LockLabel :=
  lockMachine.restrict LockState.Proper

theorem Attributed.initial : Attributed .initial := by
  refine ⟨?_, ?_, rfl⟩
  · intro dev impossible
    cases impossible
  · intro dev
    refine iff_of_false ?_ ?_
    · intro impossible
      cases impossible
    · intro impossible
      cases impossible

/-- In every run whose steps are proper the lock is attributed to its owner. -/
theorem counter_lock_attributed {state : LockState} (reached : properMachine.Reachable state) :
    Attributed state := by
  refine Machine.Reachable.invariant ?_ ?_ reached
  · intro _ same
    subst same
    exact .initial
  · intro before label after attributed given
    exact (attributed_step_iff attributed given.2).mpr given.1

theorem rpmbAgentWork_event (state : LockState) (request : Request) :
    (state.rpmbAgentWork request).event = state.event := by
  unfold LockState.rpmbAgentWork LockState.rpmbHandleCmd
  repeat' split
  all_goals rfl

theorem exec_event {before after : LockState} {label : LockLabel}
    (stepped : before.exec label = some after) : after.event = before.event := by
  unfold LockState.exec at stepped
  cases label with
  | request request =>
      simp only at stepped
      split at stepped
      · cases stepped
        exact rpmbAgentWork_event before request
      · cases stepped
  | lock =>
      simp only at stepped
      split at stepped
      · cases stepped
        rfl
      · cases stepped
  | finish =>
      simp only at stepped
      split at stepped
      · cases stepped
        unfold LockState.worked
        split
        · rfl
        · rfl
      · cases stepped
  | crash dev =>
      cases stepped
      unfold LockState.rpmbAgentCrashWork
      split
      · rfl
      · rfl
  | exit =>
      simp only at stepped
      split at stepped
      · cases stepped
        rfl
      · cases stepped

/-- Nothing ever stores the id of a client in the agent's node. -/
theorem event_of_reachable {state : LockState} (reached : lockMachine.Reachable state) :
    state.event.cmdDevFileId = 0 := by
  induction reached with
  | start initial =>
      subst initial
      rfl
  | next _ stepped ih =>
      rw [exec_event stepped]
      exact ih

def lockRequest (dev : UInt32) : Request :=
  { dev := dev
    agentBuff := true
    magic := rpmbCtrlMagic
    ctrlAlloc := true
    buffSize := 32768
    bufLen := 0
    cmd := .rpmbLock
    lockFlag := 0
    found := true }

def ioctlRequest (dev : UInt32) : Request :=
  { lockRequest dev with cmd := .sendIocmd, bufLen := 512 }

def LockState.properly (state : LockState) : LockLabel → Bool
  | .request request =>
      !(state.accepts request && request.cmd == .rpmbUnlock) || state.owner.isSome
  | .lock =>
      match state.place with
      | .locking request => request.found && request.dev == state.event.cmdDevFileId
      | _ => true
  | .finish =>
      match state.place with
      | .working request => request.lockFlag &&& freeRpmbLockMask == 0 || state.owner.isSome
      | _ => true
  | .crash _ | .exit => true

theorem LockState.properly_sound (state : LockState) (label : LockLabel)
    (proper : state.properly label = true) : state.Proper label := by
  cases label with
  | request request =>
      intro accepted unlocks
      simpa [properly, accepted, unlocks] using proper
  | lock =>
      intro request here
      simpa [properly, here] using proper
  | finish =>
      intro request here frees
      simpa [properly, here, frees] using proper
  | crash dev => trivial
  | exit => trivial

/-- The client with id 0 takes the lock, another client works and crashes, the first one
crashes, and the next client with its id takes the lock again. -/
def takenAgain : List LockLabel :=
  [.request (lockRequest 0), .lock, .request (ioctlRequest 3), .finish, .crash 3, .crash 0,
    .request (lockRequest 0), .lock]

theorem counter_lock_attributed_taken_again :
    ∃ state, state.owner = some 0 ∧ properMachine.Reachable state ∧ Attributed state := by
  have start : (lockMachine.restrict fun state label => state.properly label = true).Reachable
      .initial := .start rfl
  have ran : ((Machine.replay
      (Machine.guarded (fun state label => LockState.properly state label = true) LockState.exec)
      .initial takenAgain).map fun state => decide (state.owner = some 0)) = some true := by
    decide
  obtain ⟨state, reached, owner⟩ :=
    start.exists_of_replay (Machine.guarded_sound fun _ _ _ stepped => stepped) ran
  have proper : properMachine.Reachable state :=
    reached.restrict_mono LockState.properly_sound
  exact ⟨state, of_decide_eq_true owner, proper, counter_lock_attributed proper⟩

/-- The client with id 3 holds the lock; its crash leaves the lock held, and that of the
client with id 0 would release it. -/
theorem counter_lock_misattributed :
    ∃ state, lockMachine.Reachable state ∧ state.owner = some 3 ∧ state.crashFrees 3 = false ∧
      state.crashFrees 0 = true ∧ ¬Attributed state := by
  have ran : ((Machine.replay LockState.exec .initial [.request (lockRequest 3), .lock]).map
      fun state => decide (state.owner = some 3 ∧ state.crashFrees 3 = false ∧
        state.crashFrees 0 = true)) = some true := by
    decide
  have start : lockMachine.Reachable .initial := .start rfl
  obtain ⟨state, reached, shown⟩ := start.exists_of_replay (fun _ _ _ stepped => stepped) ran
  obtain ⟨owner, kept, frees⟩ := of_decide_eq_true shown
  refine ⟨state, reached, owner, kept, frees, ?_⟩
  intro attributed
  rw [(attributed.crashes 3).mpr owner] at kept
  cases kept

end TzDriver.Rpmb
