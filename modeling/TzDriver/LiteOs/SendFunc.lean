/-
`smp_smc_send_func` of the LiteOS port, with the acquires and releases of `smc_lock`
that one thread makes (`liteos/core/smc_smp.c`).

The lock is not recursive: a thread that acquires it twice spins for ever with
preemption disabled.  The TEE and the other threads change the command slots between
two functions of the thread.
-/

import TzDriver.Lib.Runs
import TzDriver.Smc.SendFunc

namespace TzDriver.LiteOs

open TzDriver.Lib TzDriver.Smc

def maxSmcCmd : Nat := 18

/-! ### The lock -/

/-- The command slots, with `held` telling that the thread has `smc_lock`, and
`reacquired` that it has asked for the lock while it had it. -/
structure LockedQueue where
  slots : Nat → Slot
  held : Bool
  reacquired : Bool

namespace LockedQueue

variable (queue : LockedQueue)

def acquireSmcBufLock : LockedQueue :=
  { queue with held := true, reacquired := queue.reacquired || queue.held }

def releaseSmcBufLock : LockedQueue := { queue with held := false }

def setSlot (index : Nat) (slot : Slot) : LockedQueue :=
  { queue with slots := Function.update queue.slots index slot }

/-- A change of one slot inside the lock. -/
def locked (index : Nat) (change : Slot → Slot) : LockedQueue :=
  ((queue.acquireSmcBufLock).setSlot index (change (queue.slots index))).releaseSmcBufLock

/-! ### Slots -/

/-- `occupy_free_smc_in_entry`, for the thread `client`. -/
def occupyFreeSmcInEntry (client : Nat) (cmd : SmcCmd) : LockedQueue × Option Nat :=
  match (List.range maxSmcCmd).find? fun index => !(queue.slots index).inBit with
  | none => (queue.acquireSmcBufLock.releaseSmcBufLock, none)
  | some index =>
      let occupied := queue.locked index fun slot => slot.occupySetbit client index cmd
      (occupied.locked index Slot.finishEntry, some index)

/-- `reuse_smc_in_entry`; the flag tells that it succeeds. -/
def reuseSmcInEntry (index : Nat) : LockedQueue × Bool :=
  let slot := queue.slots index
  if slot.inBit && slot.doingBit then
    ((queue.locked index fun slot => { slot with entry := slot.out }).locked index
      fun slot => { slot with doingBit := false, killed := false }, true)
  else (queue.acquireSmcBufLock.releaseSmcBufLock, false)

def releaseSmcEntry (index : Nat) : LockedQueue := queue.locked index Slot.releaseSmcEntry

def isCmdWorkingDone (index : Nat) : LockedQueue × Bool :=
  (queue.acquireSmcBufLock.releaseSmcBufLock, (queue.slots index).outBit)

/-! ### Bitmaps -/

/-- `show_cmd_bitmap`; `inAllocated` and `outAllocated` tell how its two `calloc` calls
go. -/
def showCmdBitmap (inAllocated outAllocated : Bool) : LockedQueue :=
  if inAllocated = false then queue
  else if outAllocated = false then queue
  else queue.acquireSmcBufLock.releaseSmcBufLock

def showCmdBitmapWithLock (inAllocated outAllocated : Bool) : LockedQueue :=
  (queue.acquireSmcBufLock.showCmdBitmap inAllocated outAllocated).releaseSmcBufLock

def copySmcOutEntry (inAllocated outAllocated : Bool) (index : Nat) :
    LockedQueue × Option (CmdReuse × SmcCmd) :=
  let slot := queue.slots index
  match slot.copySmcOutEntry with
  | none =>
      (queue.acquireSmcBufLock.releaseSmcBufLock.showCmdBitmap inAllocated outAllocated, none)
  | some (usage, after) => (queue.locked index fun _ => after, some (usage, slot.out))

end LockedQueue

/-! ### The call -/

/-- What the allocator, the SMC, the wait and signals do in a step. -/
structure SendChoice where
  allocated : Bool
  crashed : Bool
  exitNormal : Bool
  timedOut : Bool
  sigkillPending : Bool
  inAllocated : Bool
  outAllocated : Bool

/-- The locals of a call. -/
structure SendCall where
  input : SmcCmd
  cmd : SmcCmd
  cmdIndex : Nat
  lastIndex : Nat
  cmdUsage : CmdReuse
  ops : SmcOps

inductive SendPoint where
  | begins (input : SmcCmd) (reuse : Bool)
  | retry (call : SendCall)
  | sending (call : SendCall)
  | sent (call : SendCall) (exitNormal : Bool)
  | resleep (call : SendCall)
  | woken (call : SendCall)
  | done (call : SendCall)
  | cleaning (call : SendCall)
  | returned (result : UInt32)

section Sections

variable (client : Nat) (choice : SendChoice) (queue : LockedQueue)

/-- `init_for_smc_send` and the setup of a resend. -/
def initForSmcSend (input : SmcCmd) (reuse : Bool) : LockedQueue × SendPoint :=
  if choice.allocated then
    (queue, .retry
      (if reuse then
        { input := input, cmd := .zeroed, cmdIndex := input.eventNr.toNat
          lastIndex := input.eventNr.toNat, cmdUsage := .resend, ops := .normal }
      else
        { input := input, cmd := input, cmdIndex := 0, lastIndex := 0, cmdUsage := .clear
          ops := .normal }))
  else (queue, .returned teecErrorGeneric)

/-- `smc_ops_normal` at the `retry` label. -/
def smcOpsNormal (call : SendCall) : LockedQueue × SendPoint :=
  if call.ops ≠ .normal then (queue, .sending call)
  else
    match call.cmdUsage with
    | .resend =>
        let (reused, succeeds) := queue.reuseSmcInEntry call.cmdIndex
        if succeeds then
          (reused, .sending { call with cmdIndex := call.lastIndex, cmdUsage := .clear })
        else (reused.releaseSmcEntry call.cmdIndex, .returned teecErrorGeneric)
    | .clear =>
        match queue.occupyFreeSmcInEntry client call.cmd with
        | (after, none) => (after, .returned teecErrorGeneric)
        | (after, some index) => (after, .sending { call with cmdIndex := index, lastIndex := index })

def smpSmcSendProcess (call : SendCall) : LockedQueue × SendPoint :=
  if choice.crashed then
    (queue, .cleaning { call with cmd := { call.cmd with retVal := 0xFFFFFFFF } })
  else (queue, .sent call choice.exitNormal)

/-- The first `is_cmd_working_done` of a round, and the exit reason. -/
def sentSection (call : SendCall) (exitNormal : Bool) : LockedQueue × SendPoint :=
  let (looked, isDone) := queue.isCmdWorkingDone call.cmdIndex
  if isDone then (looked, .done call)
  else if exitNormal then (looked, .resleep call)
  else (looked, .cleaning { call with cmd := { call.cmd with retVal := 0xFFFFFFFF } })

/-- The wait, and `check_is_ca_killed` after a timeout. -/
def resleepSection (call : SendCall) : LockedQueue × SendPoint :=
  if choice.timedOut then
    if choice.sigkillPending then (queue, .sending { call with ops := .abortTask })
    else
      let (looked, isDone) := queue.isCmdWorkingDone call.cmdIndex
      if isDone then
        (looked.showCmdBitmapWithLock choice.inAllocated choice.outAllocated, .woken call)
      else (looked, .resleep call)
  else (queue, .woken call)

/-- The second `is_cmd_working_done` of a round. -/
def wokenSection (call : SendCall) : LockedQueue × SendPoint :=
  let (looked, isDone) := queue.isCmdWorkingDone call.cmdIndex
  if isDone then (looked, .done call) else (looked, .sending { call with ops := .schedto })

/-- `cmd_done_process`; a PENDING2 answer is handed to its agent and the command sent
again. -/
def cmdDoneProcess (call : SendCall) : LockedQueue × SendPoint :=
  match queue.copySmcOutEntry choice.inAllocated choice.outAllocated call.cmdIndex with
  | (after, none) => (after, .cleaning { call with cmd := { call.cmd with retVal := 0xFFFFFFFF } })
  | (after, some (usage, out)) =>
      if out.retVal = teecPending2 then
        (after, .retry { call with cmd := out, cmdUsage := usage, ops := .normal })
      else (after, .cleaning { call with input := out, cmd := out, cmdUsage := usage })

def cleaningSection (call : SendCall) : LockedQueue × SendPoint :=
  if call.cmdUsage ≠ .clear ∧ call.cmd.retVal ≠ teecPending then
    (queue.releaseSmcEntry call.cmdIndex, .returned call.cmd.retVal)
  else (queue, .returned call.cmd.retVal)

/-- One step of `smp_smc_send_func`; `none` when it has returned. -/
def smpSmcSendFunc : SendPoint → Option (LockedQueue × SendPoint)
  | .begins input reuse => some (initForSmcSend choice queue input reuse)
  | .retry call => some (smcOpsNormal client queue call)
  | .sending call => some (smpSmcSendProcess choice queue call)
  | .sent call exitNormal => some (sentSection queue call exitNormal)
  | .resleep call => some (resleepSection choice queue call)
  | .woken call => some (wokenSection queue call)
  | .done call => some (cmdDoneProcess choice queue call)
  | .cleaning call => some (cleaningSection queue call)
  | .returned _ => none

end Sections

/-! ### Runs -/

structure Sending where
  queue : LockedQueue
  point : SendPoint

inductive SendLabel where
  | run (choice : SendChoice)
  | others (slots : Nat → Slot)

def Sending.exec (client : Nat) (state : Sending) : SendLabel → Option Sending
  | .run choice =>
      (smpSmcSendFunc client choice state.queue state.point).map fun next => ⟨next.1, next.2⟩
  | .others slots => some { state with queue := { state.queue with slots := slots } }

/-- A thread calls `smp_smc_send_func` without the lock, for any command and on any
content of the slots. -/
def sendMachine (client : Nat) : Machine Sending SendLabel :=
  { init := fun state => ∃ slots input reuse,
      state = ⟨⟨slots, false, false⟩, .begins input reuse⟩
    step := fun before label after => before.exec client label = some after }

/-! ### The lock is free between two functions -/

/-- The thread does not have the lock, and has not asked for it twice. -/
structure LockedQueue.Free (queue : LockedQueue) : Prop where
  unheld : queue.held = false
  once : queue.reacquired = false

section Free

variable {queue : LockedQueue} {index client : Nat} {choice : SendChoice} {call : SendCall}
  {inAllocated outAllocated : Bool}

theorem LockedQueue.Free.looked (free : queue.Free) :
    queue.acquireSmcBufLock.releaseSmcBufLock.Free := by
  refine ⟨rfl, ?_⟩
  change (queue.reacquired || queue.held) = false
  rw [free.once, free.unheld]
  rfl

theorem LockedQueue.Free.locked (free : queue.Free) (change : Slot → Slot) :
    (queue.locked index change).Free :=
  ⟨rfl, free.looked.once⟩

theorem LockedQueue.Free.occupyFreeSmcInEntry (free : queue.Free) (cmd : SmcCmd) :
    (queue.occupyFreeSmcInEntry client cmd).1.Free := by
  rw [LockedQueue.occupyFreeSmcInEntry]
  split
  · exact free.looked
  · exact (free.locked _).locked _

theorem LockedQueue.Free.reuseSmcInEntry (free : queue.Free) :
    (queue.reuseSmcInEntry index).1.Free := by
  rw [LockedQueue.reuseSmcInEntry]
  split
  · dsimp only
    apply LockedQueue.Free.locked
    exact free.locked _
  · exact free.looked

theorem LockedQueue.Free.showCmdBitmap (free : queue.Free) :
    (queue.showCmdBitmap inAllocated outAllocated).Free := by
  rw [LockedQueue.showCmdBitmap]
  split
  · exact free
  · split
    · exact free
    · exact free.looked

theorem LockedQueue.Free.copySmcOutEntry (free : queue.Free) :
    (queue.copySmcOutEntry inAllocated outAllocated index).1.Free := by
  simp only [LockedQueue.copySmcOutEntry]
  split
  · exact free.looked.showCmdBitmap
  · dsimp only
    exact free.locked _

/-- `show_cmd_bitmap_with_lock` takes the lock once only when its callee has no memory
to print from. -/
theorem LockedQueue.Free.showCmdBitmapWithLock_iff (free : queue.Free) :
    (queue.showCmdBitmapWithLock inAllocated outAllocated).reacquired = false ↔
      ¬(inAllocated = true ∧ outAllocated = true) := by
  have acquired : queue.acquireSmcBufLock.reacquired = false := free.looked.once
  cases inAllocated with
  | false => exact iff_of_true acquired (fun both => by cases both.1)
  | true =>
      cases outAllocated with
      | false => exact iff_of_true acquired (fun both => by cases both.2)
      | true =>
          refine iff_of_false ?_ (fun missed => missed ⟨rfl, rfl⟩)
          change ¬(queue.acquireSmcBufLock.reacquired || true) = false
          rw [Bool.or_true]
          exact Bool.noConfusion

end Free

/-! ### Steps and runs -/

/-- A wait that times out without a kill finds its command still running, or
`show_cmd_bitmap` has no memory. -/
def WakeupNotMissed (state : Sending) : SendLabel → Prop
  | .others _ => True
  | .run choice =>
      match state.point with
      | .resleep call =>
          ¬(choice.timedOut = true ∧ choice.sigkillPending = false ∧
            (state.queue.slots call.cmdIndex).outBit = true ∧
            choice.inAllocated = true ∧ choice.outAllocated = true)
      | _ => True

section Runs

variable {client : Nat}

theorem resleepSection_free {choice : SendChoice} {queue : LockedQueue} {call : SendCall}
    (free : queue.Free)
    (seen : WakeupNotMissed ⟨queue, .resleep call⟩ (.run choice)) :
    (resleepSection choice queue call).1.Free := by
  dsimp only [resleepSection, LockedQueue.isCmdWorkingDone]
  by_cases timedOut : choice.timedOut = true
  · rw [if_pos timedOut]
    by_cases killed : choice.sigkillPending = true
    · rw [if_pos killed]
      exact free
    · rw [if_neg killed]
      by_cases isDone : (queue.slots call.cmdIndex).outBit = true
      · rw [if_pos isDone]
        refine ⟨rfl, ?_⟩
        apply free.looked.showCmdBitmapWithLock_iff.mpr
        intro both
        exact seen ⟨timedOut, Bool.eq_false_iff.mpr killed, isDone, both⟩
      · rw [if_neg isDone]
        exact free.looked
  · rw [if_neg timedOut]
    exact free

theorem smcOpsNormal_free {queue : LockedQueue} {call : SendCall} (free : queue.Free) :
    (smcOpsNormal client queue call).1.Free := by
  rw [smcOpsNormal]
  split
  · exact free
  · split
    · have kept : (queue.reuseSmcInEntry call.cmdIndex).1.Free := free.reuseSmcInEntry
      split
      next reused succeeds result =>
        rw [result] at kept
        split
        · exact kept
        · exact kept.locked _
    · have kept : (queue.occupyFreeSmcInEntry client call.cmd).1.Free :=
        free.occupyFreeSmcInEntry call.cmd
      split
      · next after result =>
          rw [result] at kept
          exact kept
      · next after index result =>
          rw [result] at kept
          exact kept

theorem cmdDoneProcess_free {choice : SendChoice} {queue : LockedQueue} {call : SendCall}
    (free : queue.Free) : (cmdDoneProcess choice queue call).1.Free := by
  have kept : (queue.copySmcOutEntry choice.inAllocated choice.outAllocated call.cmdIndex).1.Free :=
    free.copySmcOutEntry
  rw [cmdDoneProcess]
  split
  · next after result =>
      rw [result] at kept
      exact kept
  · next after usage out result =>
      rw [result] at kept
      split <;> exact kept

/-- Every function but the dump after a missed wake-up gives the lock back before it
asks for it again. -/
theorem smpSmcSendFunc_free {choice : SendChoice} {state : Sending}
    {next : LockedQueue × SendPoint} (free : state.queue.Free)
    (seen : WakeupNotMissed state (.run choice))
    (ran : smpSmcSendFunc client choice state.queue state.point = some next) :
    next.1.Free := by
  obtain ⟨queue, point⟩ := state
  have asked (yes no : SendPoint) (isDone : Bool) :
      (if isDone = true then (queue.acquireSmcBufLock.releaseSmcBufLock, yes)
        else (queue.acquireSmcBufLock.releaseSmcBufLock, no)).1.Free := by
    split <;> exact free.looked
  cases point with
  | begins input reuse =>
      cases ran
      rw [initForSmcSend]
      split <;> exact free
  | retry call =>
      cases ran
      exact smcOpsNormal_free free
  | sending call =>
      cases ran
      rw [smpSmcSendProcess]
      split <;> exact free
  | sent call exitNormal =>
      cases ran
      cases exitNormal with
      | true => exact asked _ _ _
      | false => exact asked _ _ _
  | resleep call =>
      cases ran
      exact resleepSection_free free seen
  | woken call =>
      cases ran
      exact asked _ _ _
  | done call =>
      cases ran
      exact cmdDoneProcess_free free
  | cleaning call =>
      cases ran
      rw [cleaningSection]
      split
      · exact free.locked _
      · exact free
  | returned result => cases ran

/-- In every run in which no finished command is found by a timeout, the thread never
asks for the lock while it has it. -/
theorem smc_lock_never_reacquired {state : Sending}
    (reached : ((sendMachine client).restrict WakeupNotMissed).Reachable state) :
    state.queue.reacquired = false := by
  have free : state.queue.Free := by
    induction reached with
    | start initial =>
        obtain ⟨slots, input, reuse, rfl⟩ := initial
        exact ⟨rfl, rfl⟩
    | @next before after label _ taken free =>
        cases label with
        | run choice =>
            obtain ⟨next, ran, rfl⟩ := Option.map_eq_some_iff.mp taken.2
            exact smpSmcSendFunc_free free taken.1 ran
        | others slots =>
            cases taken.2
            exact ⟨free.unheld, free.once⟩
  exact free.once

/-- A missed wake-up is the only thing that breaks the rule, and it always does. -/
theorem resleepSection_reacquires {choice : SendChoice} {queue : LockedQueue} {call : SendCall}
    (free : queue.Free) : (resleepSection choice queue call).1.reacquired = false ↔
      WakeupNotMissed ⟨queue, .resleep call⟩ (.run choice) := by
  constructor
  · intro once missed
    obtain ⟨timedOut, alive, isDone, both⟩ := missed
    dsimp only [resleepSection, LockedQueue.isCmdWorkingDone] at once
    rw [if_pos timedOut, if_neg (Bool.eq_false_iff.mp alive), if_pos isDone] at once
    exact free.looked.showCmdBitmapWithLock_iff.mp once both
  · intro seen
    exact (resleepSection_free free seen).once

end Runs

instance decidableWakeupNotMissed (state : Sending) (label : SendLabel) :
    Decidable (WakeupNotMissed state label) :=
  match label, state with
  | .others _, _ => .isTrue trivial
  | .run _, ⟨_, .resleep _⟩ => inferInstanceAs (Decidable (¬_))
  | .run _, ⟨_, .begins ..⟩ | .run _, ⟨_, .retry _⟩ | .run _, ⟨_, .sending _⟩
  | .run _, ⟨_, .sent ..⟩ | .run _, ⟨_, .woken _⟩ | .run _, ⟨_, .done _⟩
  | .run _, ⟨_, .cleaning _⟩ | .run _, ⟨_, .returned _⟩ => .isTrue trivial

def ordinary (timedOut : Bool) : SendChoice :=
  { allocated := true, crashed := false, exitNormal := true, timedOut := timedOut
    sigkillPending := false, inAllocated := true, outAllocated := true }

def sleeps : List SendLabel :=
  [.run (ordinary false), .run (ordinary false), .run (ordinary false), .run (ordinary false)]

def answered : SendLabel :=
  .others fun index =>
    if index = 0 then { Slot.empty with inBit := true, doingBit := true, outBit := true } else .empty

def newCommand : Sending := ⟨⟨fun _ => .empty, false, false⟩, .begins .zeroed false⟩

def SendPoint.hasReturned : SendPoint → Bool
  | .returned _ => true
  | _ => false

/-- A first wait times out early, a second one is woken, and the call returns. -/
theorem smc_lock_never_reacquired_woken :
    ∃ state : Sending, state.point.hasReturned = true ∧ state.queue.reacquired = false := by
  have ran : ((Machine.replay (Machine.guarded WakeupNotMissed (Sending.exec 0)) newCommand
      (sleeps ++ [.run (ordinary true), answered, .run (ordinary false), .run (ordinary false),
        .run (ordinary false), .run (ordinary false)])).map
          fun state => state.point.hasReturned) = some true := by
    decide
  have start : ((sendMachine 0).restrict WakeupNotMissed).Reachable newCommand :=
    .start ⟨_, _, _, rfl⟩
  obtain ⟨state, reached, returned⟩ :=
    start.exists_of_replay (Machine.guarded_sound fun _ _ _ stepped => stepped) ran
  exact ⟨state, returned, smc_lock_never_reacquired reached⟩

/-- The answer is there, its wake-up was missed, and the wait times out. -/
theorem smc_lock_reacquired :
    ∃ state, (sendMachine 0).Reachable state ∧ state.queue.reacquired = true := by
  have ran : ((Machine.replay (Sending.exec 0) newCommand
      (sleeps ++ [answered, .run (ordinary true)])).map
        fun state => state.queue.reacquired) = some true := by
    decide
  have start : (sendMachine 0).Reachable newCommand := .start ⟨_, _, _, rfl⟩
  exact start.exists_of_replay (fun _ _ _ stepped => stepped) ran

end TzDriver.LiteOs
