/-
The dump requests to the TEE (`wakeup_tc_siq`, `siq_thread_fn` and `siq_dump` of
`linux/core/smc_smp.c`) with the end of their thread in `free_smc_data`, for any number of
callers.

The model records the requests that found a slot and the dumps that were made; neither is
kept by the driver.
-/

import Mathlib.Logic.Function.Basic
import TzDriver.Lib.Cells
import TzDriver.Lib.Runs
import TzDriver.Session.Ioctl

namespace TzDriver.Smc

open TzDriver.Lib
open TzDriver.Session (eIntr)

def maxSiqNum : Nat := 4
def runSiqThread : Nat := 1
def stopSiqThread : Nat := 2

def siqDumpTimeout : UInt32 := 1
def siqDumpShell : UInt32 := 2

inductive DumpLog where
  | none
  | tzLogWrite
  | tloggerStoreMsg
deriving DecidableEq, Repr

/-- One call of `siq_dump`: its mode, whether the SMC answered `TSP_CRASH`, and what was done
with the log. -/
structure Dump where
  mode : UInt32
  crashed : Bool
  log : DumpLog
deriving DecidableEq, Repr

/-- `siq_dump`; `logDumpPath` stands for `CONFIG_TEE_LOG_DUMP_PATH`. -/
def siqDump (logDumpPath : Bool) (siqMode : UInt32) (crashed : Bool) : Dump :=
  { mode := siqMode
    crashed := crashed
    log :=
      if siqMode = siqDumpTimeout then .tzLogWrite
      else if siqMode = siqDumpShell then
        if logDumpPath then .tloggerStoreMsg else .tzLogWrite
      else .none }

/-- `get_free_siq_index` on the `MAX_SIQ_NUM` slots. -/
def getFreeSiqIndex (queue : List UInt32) : Nat :=
  Cells.firstVacant 0 queue

def getUndoSiqIndex (queue : List UInt32) : Nat :=
  Cells.firstFilled 0 queue

/-- Where `siq_thread_fn` is. -/
inductive SiqThread where
  | waiting (asleep : Bool)
  | awake
  | atLock
  | draining
  -- the slot is dumped but still filled
  | dumped (index : Nat)
  -- no slot is filled, and `g_siq_th_run` is still to be reset
  | drained
  | unlocking
  | returned (ret : Int)
deriving DecidableEq

/-- Where a call of `wakeup_tc_siq` is. -/
inductive SiqCaller where
  | idle
  | atLock (mode : UInt32)
  | inside (mode : UInt32)
  | full
  | filed
  | marked
  | waking
deriving DecidableEq

/-- Where `free_smc_data` is with the thread: `STOP_SIQ_THREAD` is stored, the wake-up is
sent, `kthread_stop` waits, and it has returned. -/
inductive SiqStopper where
  | idle
  | stored
  | woken
  | stopping
  | joined
deriving DecidableEq

inductive SiqOwner where
  | thread
  | caller (id : Nat)
deriving DecidableEq

structure SiqState where
  queue : List UInt32
  run : Nat
  lock : Option SiqOwner
  thread : SiqThread
  callers : Nat → SiqCaller
  stopper : SiqStopper
  sysCrash : Bool
  accepted : List UInt32
  dumps : List Dump

inductive SiqLabel where
  | call (id : Nat) (mode : UInt32)
  | caller (id : Nat)
  | thread (crashed : Bool)
  -- a signal ends the wait
  | interrupt
  | stop

def SiqThread.woken : SiqThread → SiqThread
  | .waiting _ => .waiting false
  | thread => thread

/-- The requests of filled slots that are still to be dumped. -/
def SiqThread.rest (thread : SiqThread) (filled : List UInt32) : List UInt32 :=
  match thread with
  | .dumped _ => filled.tail
  | _ => filled

namespace SiqState

variable (logDumpPath : Bool) (state : SiqState)

def initial : SiqState :=
  { queue := List.replicate maxSiqNum 0
    run := 0
    lock := none
    thread := .waiting false
    callers := fun _ => .idle
    stopper := .idle
    sysCrash := false
    accepted := []
    dumps := [] }

def goes (id : Nat) (caller : SiqCaller) : SiqState :=
  { state with callers := Function.update state.callers id caller }

/-- `wake_up_interruptible`, and the wake-up in `kthread_stop`. -/
def wake : SiqState :=
  { state with thread := state.thread.woken }

/-- `wakeup_tc_siq` behind the check of the mode. -/
def callerStep (id : Nat) : Option SiqState :=
  match state.callers id with
  | .idle => none
  | .atLock mode =>
      if state.lock = none then
        some ({ state with lock := some (.caller id) }.goes id (.inside mode))
      else none
  | .inside mode =>
      let index := getFreeSiqIndex state.queue
      if index ≥ maxSiqNum then some (state.goes id .full)
      else
        some ({ state with
          queue := state.queue.set index mode
          accepted := state.accepted ++ [mode] }.goes id .filed)
  | .full => some ({ state with lock := none }.goes id .idle)
  | .filed => some ({ state with run := runSiqThread }.goes id .marked)
  | .marked => some ({ state with lock := none }.goes id .waking)
  | .waking => some (state.wake.goes id .idle)

/-- `siq_thread_fn`. -/
def threadStep (crashed : Bool) : Option SiqState :=
  match state.thread with
  | .waiting true => none
  | .waiting false =>
      if state.run = 0 then some { state with thread := .waiting true }
      else some { state with thread := .awake }
  | .awake =>
      if state.run = stopSiqThread then some { state with thread := .returned 0 }
      else some { state with thread := .atLock }
  | .atLock =>
      if state.lock = none then some { state with lock := some .thread, thread := .draining }
      else none
  | .draining =>
      let index := getUndoSiqIndex state.queue
      if index ≥ maxSiqNum then some { state with thread := .drained }
      else
        some { state with
          dumps := state.dumps ++ [siqDump logDumpPath (state.queue.getD index 0) crashed]
          sysCrash := state.sysCrash || crashed
          thread := .dumped index }
  | .dumped index => some { state with queue := state.queue.set index 0, thread := .draining }
  | .drained => some { state with run := 0, thread := .unlocking }
  | .unlocking => some { state with lock := none, thread := .waiting false }
  | .returned _ => none

/-- The part of `free_smc_data` that ends the thread. -/
def stopStep : Option SiqState :=
  match state.stopper with
  | .idle => some { state with run := stopSiqThread, stopper := .stored }
  | .stored => some { state.wake with stopper := .woken }
  | .woken => some { state.wake with stopper := .stopping }
  | .stopping =>
      match state.thread with
      | .returned _ => some { state with stopper := .joined }
      | _ => none
  | .joined => none

def exec : SiqLabel → Option SiqState
  | .call id mode =>
      if state.callers id = .idle then
        if mode = 0 then some state else some (state.goes id (.atLock mode))
      else none
  | .caller id => state.callerStep id
  | .thread crashed => state.threadStep logDumpPath crashed
  | .interrupt =>
      if state.thread = .waiting true then some { state with thread := .returned (-eIntr) }
      else none
  | .stop => state.stopStep

/-- The requests that are filed and not dumped, in the order of their slots. -/
def outstanding : List UInt32 :=
  state.thread.rest (Cells.contents 0 state.queue)

end SiqState

def siqMachine (logDumpPath : Bool) : Machine SiqState SiqLabel :=
  { init := fun state => state = .initial
    step := fun state label after => state.exec logDumpPath label = some after }

/-! ### What a step does -/

/-- Every step, with what the state says before it. -/
inductive SiqMove (logDumpPath : Bool) (state : SiqState) : SiqLabel → SiqState → Prop where
  | ignored (id : Nat) : SiqMove logDumpPath state (.call id 0) state
  | call (id : Nat) (mode : UInt32) : state.callers id = .idle → mode ≠ 0 →
      SiqMove logDumpPath state (.call id mode) (state.goes id (.atLock mode))
  | acquire (id : Nat) (mode : UInt32) : state.callers id = .atLock mode → state.lock = none →
      SiqMove logDumpPath state (.caller id)
        ({ state with lock := some (.caller id) }.goes id (.inside mode))
  | refuse (id : Nat) (mode : UInt32) : state.callers id = .inside mode →
      maxSiqNum ≤ getFreeSiqIndex state.queue →
      SiqMove logDumpPath state (.caller id) (state.goes id .full)
  | file (id : Nat) (mode : UInt32) : state.callers id = .inside mode →
      getFreeSiqIndex state.queue < maxSiqNum →
      SiqMove logDumpPath state (.caller id)
        ({ state with
          queue := state.queue.set (getFreeSiqIndex state.queue) mode
          accepted := state.accepted ++ [mode] }.goes id .filed)
  | giveUp (id : Nat) : state.callers id = .full →
      SiqMove logDumpPath state (.caller id) ({ state with lock := none }.goes id .idle)
  | mark (id : Nat) : state.callers id = .filed →
      SiqMove logDumpPath state (.caller id) ({ state with run := runSiqThread }.goes id .marked)
  | release (id : Nat) : state.callers id = .marked →
      SiqMove logDumpPath state (.caller id) ({ state with lock := none }.goes id .waking)
  | wake (id : Nat) : state.callers id = .waking →
      SiqMove logDumpPath state (.caller id) (state.wake.goes id .idle)
  | sleep (crashed : Bool) : state.thread = .waiting false → state.run = 0 →
      SiqMove logDumpPath state (.thread crashed) { state with thread := .waiting true }
  | see (crashed : Bool) : state.thread = .waiting false → state.run ≠ 0 →
      SiqMove logDumpPath state (.thread crashed) { state with thread := .awake }
  | leave (crashed : Bool) : state.thread = .awake → state.run = stopSiqThread →
      SiqMove logDumpPath state (.thread crashed) { state with thread := .returned 0 }
  | approach (crashed : Bool) : state.thread = .awake → state.run ≠ stopSiqThread →
      SiqMove logDumpPath state (.thread crashed) { state with thread := .atLock }
  | enter (crashed : Bool) : state.thread = .atLock → state.lock = none →
      SiqMove logDumpPath state (.thread crashed)
        { state with lock := some .thread, thread := .draining }
  | dump (crashed : Bool) : state.thread = .draining → getUndoSiqIndex state.queue < maxSiqNum →
      SiqMove logDumpPath state (.thread crashed)
        { state with
          dumps := state.dumps ++
            [siqDump logDumpPath (state.queue.getD (getUndoSiqIndex state.queue) 0) crashed]
          sysCrash := state.sysCrash || crashed
          thread := .dumped (getUndoSiqIndex state.queue) }
  | finish (crashed : Bool) : state.thread = .draining →
      maxSiqNum ≤ getUndoSiqIndex state.queue →
      SiqMove logDumpPath state (.thread crashed) { state with thread := .drained }
  | clear (crashed : Bool) (index : Nat) : state.thread = .dumped index →
      SiqMove logDumpPath state (.thread crashed)
        { state with queue := state.queue.set index 0, thread := .draining }
  | reset (crashed : Bool) : state.thread = .drained →
      SiqMove logDumpPath state (.thread crashed) { state with run := 0, thread := .unlocking }
  | unlock (crashed : Bool) : state.thread = .unlocking →
      SiqMove logDumpPath state (.thread crashed)
        { state with lock := none, thread := .waiting false }
  | interrupt : state.thread = .waiting true →
      SiqMove logDumpPath state .interrupt { state with thread := .returned (-eIntr) }
  | store : state.stopper = .idle →
      SiqMove logDumpPath state .stop { state with run := stopSiqThread, stopper := .stored }
  | signal : state.stopper = .stored →
      SiqMove logDumpPath state .stop { state.wake with stopper := .woken }
  | stop : state.stopper = .woken →
      SiqMove logDumpPath state .stop { state.wake with stopper := .stopping }
  | join (ret : Int) : state.stopper = .stopping → state.thread = .returned ret →
      SiqMove logDumpPath state .stop { state with stopper := .joined }

section Moves

variable {logDumpPath : Bool} {state after : SiqState}

theorem SiqMove.of_callerStep {id : Nat} (taken : state.callerStep id = some after) :
    SiqMove logDumpPath state (.caller id) after := by
  unfold SiqState.callerStep at taken
  split at taken
  · cases taken
  · next mode place =>
      split at taken
      · next open_ =>
          cases taken
          exact .acquire id mode place open_
      · cases taken
  · next mode place =>
      dsimp only at taken
      split at taken
      · next none_ =>
          cases taken
          exact .refuse id mode place none_
      · next room =>
          cases taken
          exact .file id mode place (Nat.lt_of_not_le room)
  · next place =>
      cases taken
      exact .giveUp id place
  · next place =>
      cases taken
      exact .mark id place
  · next place =>
      cases taken
      exact .release id place
  · next place =>
      cases taken
      exact .wake id place

theorem SiqMove.of_threadStep {crashed : Bool}
    (taken : state.threadStep logDumpPath crashed = some after) :
    SiqMove logDumpPath state (.thread crashed) after := by
  unfold SiqState.threadStep at taken
  split at taken
  · cases taken
  · next place =>
      split at taken
      · next unset =>
          cases taken
          exact .sleep crashed place unset
      · next set =>
          cases taken
          exact .see crashed place set
  · next place =>
      split at taken
      · next stopped =>
          cases taken
          exact .leave crashed place stopped
      · next runs =>
          cases taken
          exact .approach crashed place runs
  · next place =>
      split at taken
      · next open_ =>
          cases taken
          exact .enter crashed place open_
      · cases taken
  · next place =>
      dsimp only at taken
      split at taken
      · next none_ =>
          cases taken
          exact .finish crashed place none_
      · next found =>
          cases taken
          exact .dump crashed place (Nat.lt_of_not_le found)
  · next index place =>
      cases taken
      exact .clear crashed index place
  · next place =>
      cases taken
      exact .reset crashed place
  · next place =>
      cases taken
      exact .unlock crashed place
  · cases taken

theorem SiqMove.of_stopStep (taken : state.stopStep = some after) :
    SiqMove logDumpPath state .stop after := by
  unfold SiqState.stopStep at taken
  split at taken
  · next place =>
      cases taken
      exact .store place
  · next place =>
      cases taken
      exact .signal place
  · next place =>
      cases taken
      exact .stop place
  · next place =>
      split at taken
      · next ret ended =>
          cases taken
          exact .join ret place ended
      · cases taken
  · cases taken

theorem SiqMove.of_step {label : SiqLabel} (taken : state.exec logDumpPath label = some after) :
    SiqMove logDumpPath state label after := by
  cases label with
  | call id mode =>
      simp only [SiqState.exec] at taken
      split at taken
      · next place =>
          split at taken
          · next zero =>
              cases taken
              subst zero
              exact .ignored id
          · next proper =>
              cases taken
              exact .call id mode place proper
      · cases taken
  | caller id => exact .of_callerStep taken
  | thread crashed => exact .of_threadStep taken
  | interrupt =>
      simp only [SiqState.exec] at taken
      split at taken
      · next place =>
          cases taken
          exact .interrupt place
      · cases taken
  | stop => exact .of_stopStep taken

end Moves

end TzDriver.Smc
