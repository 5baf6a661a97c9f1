/-
The end of the command monitor (`free_cmd_monitor` of `linux/core/cmdmonitor.c`), with no
command in flight.

The run begins with the state in which `g_cmd_monitor_lock` is obtained.  From then on only
the work of the tick takes steps of its own, until the work queue is destroyed.  A work is
waited for when its step `finish` is taken.
-/

import TzDriver.Monitor.CmdMonitor

namespace TzDriver.Monitor

open TzDriver.Lib

namespace MonitorState

/-- The loop of `free_cmd_monitor` under the lock. -/
def freeCmdMonitorList (monitor : MonitorState) : MonitorState :=
  { monitor.touch monitor.list with
    freed := fun item => monitor.freed item || monitor.list.contains item
    list := [] }

/-- The runs of the work that are queued or not finished. -/
def due (monitor : MonitorState) : Nat :=
  (if monitor.pending = true then 1 else 0) + (if monitor.tick = .idle then 0 else 1)

end MonitorState

/-- Where `free_cmd_monitor` is: before its loop, behind it, in the flush of the work with the
runs that it still waits for, at the other flushes, or at its end. -/
inductive Stage where
  | begins
  | freed
  | flushing (left : Nat)
  | flushed
  | returned
deriving DecidableEq

/-- `destroyed` tells that `g_cmd_monitor_wq` was there and is destroyed. -/
structure Shutdown where
  monitor : MonitorState
  stage : Stage
  destroyed : Bool

inductive WorkStep where
  | runWork
  | lock
  | visit (now : TimeSpec)
  | unlock
  | finish

def WorkStep.label : WorkStep → MonitorLabel
  | .runWork => .runWork
  | .lock => .lock
  | .visit now => .visit now
  | .unlock => .unlock
  | .finish => .finish

/-- The runs that a step ends. -/
def WorkStep.ends : WorkStep → Nat
  | .finish => 1
  | .runWork => 0
  | .lock => 0
  | .visit _ => 0
  | .unlock => 0

/-- A flush does not wait any more for a run that has ended. -/
def Stage.behind : Stage → WorkStep → Stage
  | .flushing left, step => .flushing (left - step.ends)
  | .begins, _ => .begins
  | .freed, _ => .freed
  | .flushed, _ => .flushed
  | .returned, _ => .returned

inductive ShutdownLabel where
  | freeList
  | flush
  | work (step : WorkStep)
  | flushRest
  | destroy

namespace Shutdown

/-- A step.  `ownQueue` tells that `g_cmd_monitor_wq` is not NULL; `flush_delayed_work` waits
for the runs that are due when it is called, and `destroy_workqueue` for a run that is not
finished, but not for a timer. -/
def exec (bigSession ownQueue : Bool) (state : Shutdown) : ShutdownLabel → Option Shutdown
  | .freeList =>
      if state.stage = .begins then
        some { state with monitor := state.monitor.freeCmdMonitorList, stage := .freed }
      else none
  | .flush =>
      if state.stage = .freed then some { state with stage := .flushing state.monitor.due }
      else none
  | .work step =>
      if state.stage ≠ .begins ∧ state.destroyed = false then
        (state.monitor.exec bigSession step.label).map fun after =>
          { state with monitor := after, stage := state.stage.behind step }
      else none
  | .flushRest =>
      if state.stage = .flushing 0 then some { state with stage := .flushed } else none
  | .destroy =>
      if state.stage = .flushed ∧ (ownQueue = true → state.monitor.tick = .idle) then
        some { state with stage := .returned, destroyed := ownQueue }
      else none

end Shutdown

def shutdownMachine (bigSession ownQueue : Bool) (before : MonitorState) :
    Machine Shutdown ShutdownLabel :=
  { init := fun state => state = ⟨before, .begins, false⟩ ∧ before.tick.locks = false
    step := fun state label after => state.exec bigSession ownQueue label = some after }

/-- Nothing is listed, counted or queued. -/
structure Quiescent (monitor : MonitorState) : Prop where
  list : monitor.list = []
  listSize : monitor.listSize = 0
  pending : monitor.pending = false

/-! ### The work on an empty list -/

/-- The list is empty, and the size is what it was. -/
structure Emptied (size : Int) (monitor : MonitorState) : Prop where
  list : monitor.list = []
  size : monitor.listSize = size
  walk : ∀ rest, monitor.tick = .walking rest → rest = []

section Work

variable {bigSession : Bool} {size : Int} {monitor after : MonitorState}

inductive WorkOutcome (size : Int) (monitor : MonitorState) : WorkStep → MonitorState → Prop where
  | runWork : monitor.pending = true → monitor.tick = .idle →
      WorkOutcome size monitor .runWork { monitor with pending := false, tick := .entered }
  | lock : monitor.tick = .entered →
      WorkOutcome size monitor .lock { monitor with tick := .walking monitor.list }
  | rearm : monitor.tick = .walking [] → size > 0 →
      WorkOutcome size monitor .unlock { monitor with pending := true, tick := .unlocked }
  | unlock : monitor.tick = .walking [] → ¬size > 0 →
      WorkOutcome size monitor .unlock { monitor with tick := .unlocked }
  | finish : monitor.tick = .unlocked →
      WorkOutcome size monitor .finish { monitor with tick := .idle }

theorem Emptied.outcome (emptied : Emptied size monitor) {step : WorkStep}
    (taken : monitor.exec bigSession step.label = some after) :
    WorkOutcome size monitor step after := by
  cases step with
  | runWork =>
      simp only [WorkStep.label, MonitorState.exec] at taken
      split at taken
      · next queued =>
          cases taken
          exact .runWork queued.1 queued.2
      · cases taken
  | lock =>
      simp only [WorkStep.label, MonitorState.exec] at taken
      split at taken
      · next entered =>
          cases taken
          exact .lock entered
      · cases taken
  | visit now =>
      simp only [WorkStep.label, MonitorState.exec] at taken
      split at taken
      · next item rest walking => cases emptied.walk _ walking
      all_goals cases taken
  | unlock =>
      simp only [WorkStep.label, MonitorState.exec] at taken
      split at taken
      · next walking =>
          cases taken
          rw [emptied.size]
          by_cases counted : size > 0
          · rw [if_pos counted]
            exact .rearm walking counted
          · rw [if_neg counted]
            exact .unlock walking counted
      · cases taken
  | finish =>
      simp only [WorkStep.label, MonitorState.exec] at taken
      split at taken
      · next unlocked =>
          cases taken
          exact .finish unlocked
      · cases taken

theorem Emptied.work (emptied : Emptied size monitor) {step : WorkStep}
    (outcome : WorkOutcome size monitor step after) : Emptied size after := by
  obtain ⟨list, same, walk⟩ := emptied
  cases outcome with
  | lock entered =>
      refine ⟨list, same, ?_⟩
      intro rest walking
      cases walking
      exact list
  | runWork queued idle => exact ⟨list, same, fun rest walking => by cases walking⟩
  | rearm walking counted => exact ⟨list, same, fun rest walking => by cases walking⟩
  | unlock walking counted => exact ⟨list, same, fun rest walking => by cases walking⟩
  | finish unlocked => exact ⟨list, same, fun rest walking => by cases walking⟩

theorem WorkOutcome.due_le {step : WorkStep} (outcome : WorkOutcome size monitor step after) :
    monitor.due ≤ after.due + step.ends := by
  cases outcome with
  | runWork queued idle => simp [MonitorState.due, WorkStep.ends, queued, idle]
  | lock entered => simp [MonitorState.due, WorkStep.ends, entered]
  | rearm walking counted =>
      simp only [MonitorState.due, WorkStep.ends, walking]
      split
      · simp
      · simp
  | unlock walking counted => simp [MonitorState.due, WorkStep.ends, walking]
  | finish unlocked => simp [MonitorState.due, WorkStep.ends, unlocked]

/-- Only a tick that finds a size makes more due. -/
theorem WorkOutcome.due_eq {step : WorkStep} (outcome : WorkOutcome size monitor step after)
    (none_ : size ≤ 0) : monitor.due = after.due + step.ends := by
  cases outcome with
  | runWork queued idle => simp [MonitorState.due, WorkStep.ends, queued, idle]
  | lock entered => simp [MonitorState.due, WorkStep.ends, entered]
  | rearm walking counted => omega
  | unlock walking counted => simp [MonitorState.due, WorkStep.ends, walking]
  | finish unlocked => simp [MonitorState.due, WorkStep.ends, unlocked]

theorem WorkOutcome.rearms {step : WorkStep} (outcome : WorkOutcome size monitor step after)
    (some_ : 0 < size) (kept : monitor.pending = true ∨ monitor.tick.rearms = true) :
    after.pending = true ∨ after.tick.rearms = true := by
  cases outcome with
  | runWork queued idle => exact Or.inr rfl
  | lock entered => exact Or.inr rfl
  | rearm walking counted => exact Or.inl rfl
  | unlock walking counted => exact absurd some_ counted
  | finish unlocked =>
      apply Or.inl
      apply kept.resolve_right
      rw [unlocked]
      exact Bool.false_ne_true

theorem Emptied.can_work (emptied : Emptied size monitor) (some_ : 0 < monitor.due) :
    ∃ step, (monitor.exec bigSession (WorkStep.label step)).isSome = true := by
  cases tick : monitor.tick with
  | idle =>
      have queued : monitor.pending = true := by
        by_contra none_
        simp [MonitorState.due, tick, none_] at some_
      exact ⟨.runWork, by simp [MonitorState.exec, WorkStep.label, queued, tick]⟩
  | entered => exact ⟨.lock, by simp [MonitorState.exec, WorkStep.label, tick]⟩
  | walking rest =>
      have end_ := emptied.walk rest tick
      subst end_
      exact ⟨.unlock, by simp [MonitorState.exec, WorkStep.label, tick]⟩
  | unlocked => exact ⟨.finish, by simp [MonitorState.exec, WorkStep.label, tick]⟩

end Work

/-! ### Runs -/

/-- What holds at a stage of a run that begins with this size. -/
def Stage.Holds (size : Int) (monitor : MonitorState) : Stage → Prop
  | .begins => monitor.listSize = size ∧ monitor.tick.locks = false
  | .freed => Emptied size monitor
  | .flushing left =>
      Emptied size monitor ∧ left ≤ monitor.due ∧ (size ≤ 0 → monitor.due = left)
  | .flushed => Emptied size monitor ∧ (size ≤ 0 → monitor.due = 0)
  | .returned => Emptied size monitor ∧ (size ≤ 0 → monitor.due = 0)

structure ShuttingDown (size : Int) (state : Shutdown) : Prop where
  holds : state.stage.Holds size state.monitor
  closed : state.destroyed = true → state.stage = .returned ∧ state.monitor.tick = .idle

theorem listSize_zero_iff {bigSession : Bool} {before : MonitorState}
    (monitored : (monitorMachine bigSession).Reachable before) :
    before.listSize = 0 ↔ before.list = [] := by
  rw [(monitored_of_reachable monitored).size, Int.natCast_eq_zero, List.length_eq_zero_iff]

/-- The loop frees each node that is left, and none twice. -/
theorem freeCmdMonitorList_frees {bigSession : Bool} {before : MonitorState}
    (monitored : (monitorMachine bigSession).Reachable before) :
    before.freeCmdMonitorList.fault = false ∧
      ∀ item, ¬before.freeCmdMonitorList.Exists item := by
  have kept := monitored_of_reachable monitored
  have read : (before.touch before.list).fault = before.fault :=
    congrArg MonitorState.fault (kept.touch_eq fun item member => member)
  constructor
  · exact read.trans kept.sound
  · rintro item ⟨created, unfreed⟩
    obtain ⟨there, unlisted⟩ := Bool.or_eq_false_iff.mp unfreed
    have member := kept.only item ⟨created, there⟩
    rw [List.contains_iff_mem.mpr member] at unlisted
    cases unlisted

section Runs

variable {bigSession ownQueue : Bool} {size : Int} {before : MonitorState} {state after : Shutdown}

theorem Stage.Holds.emptied {monitor : MonitorState} {stage : Stage}
    (holds : stage.Holds size monitor) (started : stage ≠ .begins) : Emptied size monitor := by
  cases stage with
  | begins => exact absurd rfl started
  | freed => exact holds
  | flushing left => exact holds.1
  | flushed => exact holds.1
  | returned => exact holds.1

theorem Stage.Holds.work {monitor worked : MonitorState} {stage : Stage}
    (holds : stage.Holds size monitor) (started : stage ≠ .begins) {step : WorkStep}
    (outcome : WorkOutcome size monitor step worked) : (stage.behind step).Holds size worked := by
  have emptied := (holds.emptied started).work outcome
  have fewer := outcome.due_le
  have same := outcome.due_eq
  cases stage with
  | begins => exact absurd rfl started
  | freed => exact emptied
  | flushing left =>
      obtain ⟨_, low, high⟩ := holds
      refine ⟨emptied, ?_, ?_⟩
      · omega
      · intro none_
        have waits := high none_
        have ends := same none_
        omega
  | flushed =>
      refine ⟨emptied, ?_⟩
      intro none_
      have zero := holds.2 none_
      have ends := same none_
      omega
  | returned =>
      refine ⟨emptied, ?_⟩
      intro none_
      have zero := holds.2 none_
      have ends := same none_
      omega

inductive ShutdownOutcome (bigSession ownQueue : Bool) (state : Shutdown) :
    ShutdownLabel → Shutdown → Prop where
  | freeList : state.stage = .begins →
      ShutdownOutcome bigSession ownQueue state .freeList
        { state with monitor := state.monitor.freeCmdMonitorList, stage := .freed }
  | flush : state.stage = .freed →
      ShutdownOutcome bigSession ownQueue state .flush
        { state with stage := .flushing state.monitor.due }
  | work {step : WorkStep} {worked : MonitorState} :
      state.stage ≠ .begins → state.destroyed = false →
        state.monitor.exec bigSession step.label = some worked →
          ShutdownOutcome bigSession ownQueue state (.work step)
            { state with monitor := worked, stage := state.stage.behind step }
  | flushRest : state.stage = .flushing 0 →
      ShutdownOutcome bigSession ownQueue state .flushRest { state with stage := .flushed }
  | destroy : state.stage = .flushed → (ownQueue = true → state.monitor.tick = .idle) →
      ShutdownOutcome bigSession ownQueue state .destroy
        { state with stage := .returned, destroyed := ownQueue }

theorem Shutdown.outcome {label : ShutdownLabel}
    (taken : state.exec bigSession ownQueue label = some after) :
    ShutdownOutcome bigSession ownQueue state label after := by
  cases label with
  | freeList =>
      simp only [Shutdown.exec] at taken
      split at taken
      · next begins =>
          cases taken
          exact .freeList begins
      · cases taken
  | flush =>
      simp only [Shutdown.exec] at taken
      split at taken
      · next freed =>
          cases taken
          exact .flush freed
      · cases taken
  | work step =>
      simp only [Shutdown.exec] at taken
      split at taken
      · next working =>
          obtain ⟨worked, stepped, same⟩ := Option.map_eq_some_iff.mp taken
          cases same
          exact .work working.1 working.2 stepped
      · cases taken
  | flushRest =>
      simp only [Shutdown.exec] at taken
      split at taken
      · next waited =>
          cases taken
          exact .flushRest waited
      · cases taken
  | destroy =>
      simp only [Shutdown.exec] at taken
      split at taken
      · next flushed =>
          cases taken
          exact .destroy flushed.1 flushed.2
      · cases taken

theorem ShuttingDown.step (kept : ShuttingDown size state) {label : ShutdownLabel}
    (outcome : ShutdownOutcome bigSession ownQueue state label after) :
    ShuttingDown size after := by
  obtain ⟨holds, closed⟩ := kept
  have open_ {stage : Stage} (here : state.stage = stage) (early : stage ≠ .returned) :
      ∀ {result : Prop}, state.destroyed = true → result := by
    intro _ destroyed
    exact absurd (here.symm.trans (closed destroyed).1) early
  cases outcome with
  | freeList begins =>
      rw [begins] at holds
      apply ShuttingDown.mk
      · refine ⟨rfl, holds.1, ?_⟩
        intro rest walking
        have unlocked := holds.2
        change state.monitor.tick = .walking rest at walking
        rw [walking] at unlocked
        cases unlocked
      · exact open_ begins Stage.noConfusion
  | flush freed =>
      rw [freed] at holds
      apply ShuttingDown.mk
      · exact ⟨holds, Nat.le_refl _, fun _ => rfl⟩
      · exact open_ freed Stage.noConfusion
  | work started there stepped =>
      have worked := (holds.emptied started).outcome stepped
      apply ShuttingDown.mk
      · exact holds.work started worked
      · intro destroyed
        cases there.symm.trans destroyed
  | flushRest waited =>
      rw [waited] at holds
      apply ShuttingDown.mk
      · exact ⟨holds.1, holds.2.2⟩
      · exact open_ waited Stage.noConfusion
  | destroy flushed drained =>
      rw [flushed] at holds
      apply ShuttingDown.mk
      · exact holds
      · intro destroyed
        exact ⟨rfl, drained destroyed⟩

theorem shuttingDown_of_reachable
    (reached : (shutdownMachine bigSession ownQueue before).Reachable state) :
    ShuttingDown before.listSize state := by
  apply reached.invariant
  · rintro start ⟨rfl, unlocked⟩
    exact ⟨⟨rfl, unlocked⟩, Bool.noConfusion⟩
  · intro _ _ _ kept taken
    exact kept.step (Shutdown.outcome taken)

/-- Until it returns, `free_cmd_monitor` has a step to take or waits for the work, which has. -/
theorem ShuttingDown.progress (kept : ShuttingDown size state) (stage : state.stage ≠ .returned) :
    ∃ label, (state.exec bigSession ownQueue label).isSome = true := by
  have there : state.destroyed = false := by
    rw [Bool.eq_false_iff]
    intro destroyed
    exact stage (kept.closed destroyed).1
  have works (started : state.stage ≠ .begins) (some_ : 0 < state.monitor.due) :
      ∃ label, (state.exec bigSession ownQueue label).isSome = true := by
    obtain ⟨step, can⟩ : ∃ step,
        (state.monitor.exec bigSession (WorkStep.label step)).isSome = true :=
      (kept.holds.emptied started).can_work some_
    refine ⟨.work step, ?_⟩
    rw [Shutdown.exec, if_pos ⟨started, there⟩, Option.isSome_map]
    exact can
  obtain ⟨holds, _⟩ := kept
  cases here : state.stage with
  | begins => exact ⟨.freeList, by simp [Shutdown.exec, here]⟩
  | freed => exact ⟨.flush, by simp [Shutdown.exec, here]⟩
  | flushing left =>
      rw [here] at holds
      cases left with
      | zero => exact ⟨.flushRest, by simp [Shutdown.exec, here]⟩
      | succ left =>
          apply works
          · rw [here]
            exact Stage.noConfusion
          · exact Nat.lt_of_lt_of_le (Nat.succ_pos left) holds.2.1
  | flushed =>
      by_cases idle : state.monitor.tick = .idle
      · exact ⟨.destroy, by simp [Shutdown.exec, here, idle]⟩
      · apply works
        · rw [here]
          exact Stage.noConfusion
        · unfold MonitorState.due
          rw [if_neg idle]
          exact Nat.succ_pos _
  | returned => exact absurd here stage

/-- A tick that is coming with a size that is not 0 keeps coming. -/
theorem ShuttingDown.rearms (kept : ShuttingDown size state) (some_ : 0 < size)
    (comes : state.monitor.pending = true ∨ state.monitor.tick.rearms = true)
    {label : ShutdownLabel} (outcome : ShutdownOutcome bigSession ownQueue state label after) :
    after.monitor.pending = true ∨ after.monitor.tick.rearms = true := by
  cases outcome with
  | work started there stepped =>
      have worked := (kept.holds.emptied started).outcome stepped
      exact worked.rearms some_ comes
  | freeList begins => exact comes
  | flush freed => exact comes
  | flushRest waited => exact comes
  | destroy flushed drained => exact comes

theorem rearms_of_reachable (some_ : 0 < before.listSize)
    (ticking : before.pending = true ∨ before.tick.rearms = true)
    (reached : (shutdownMachine bigSession ownQueue before).Reachable state) :
    state.monitor.pending = true ∨ state.monitor.tick.rearms = true := by
  induction reached with
  | start initial =>
      rw [initial.1]
      exact ticking
  | next earlier taken ih =>
      have kept := shuttingDown_of_reachable earlier
      exact kept.rearms some_ ih (Shutdown.outcome taken)

/-- The size of a list that is not empty leaves the work queued on the destroyed queue. -/
theorem pending_on_destroyed (monitored : (monitorMachine bigSession).Reachable before)
    (listed : before.list ≠ [])
    (reached : (shutdownMachine bigSession ownQueue before).Reachable state)
    (destroyed : state.destroyed = true) : state.monitor.pending = true := by
  have kept := monitored_of_reachable monitored
  have some_ : 0 < before.listSize := by
    rw [kept.size]
    exact Int.natCast_pos.mpr (List.length_pos_of_ne_nil listed)
  have comes := rearms_of_reachable some_ (kept.ticking listed) reached
  have idle := ((shuttingDown_of_reachable reached).closed destroyed).2
  apply comes.resolve_right
  rw [idle]
  exact Bool.false_ne_true

/-- Behind `free_cmd_monitor` nothing is listed, counted or queued exactly if the size was 0
when the lock was obtained. -/
theorem free_cmd_monitor_quiescent_iff
    (reached : (shutdownMachine bigSession ownQueue before).Reachable state)
    (returned : state.stage = .returned) :
    Quiescent state.monitor ↔ before.listSize = 0 := by
  obtain ⟨holds, _⟩ := shuttingDown_of_reachable reached
  rw [returned] at holds
  obtain ⟨emptied, drained⟩ := holds
  constructor
  · intro quiescent
    rw [← emptied.size]
    exact quiescent.listSize
  · intro zero
    have none_ := drained (Int.le_of_eq zero)
    refine ⟨emptied.list, emptied.size.trans zero, ?_⟩
    by_contra queued
    rw [Bool.not_eq_false] at queued
    simp [MonitorState.due, queued] at none_

end Runs

def lastTick : MonitorState :=
  { MonitorState.initial with pending := true }

/-- The tick runs once more in the flush. -/
def flushedOnce : List ShutdownLabel :=
  [.freeList, .flush, .work .runWork, .work .lock, .work .unlock, .work .finish, .flushRest,
    .destroy]

theorem free_cmd_monitor_quiescent_iff_last_tick :
    ∃ state, (shutdownMachine false true lastTick).Reachable state ∧ state.stage = .returned ∧
      Quiescent state.monitor := by
  have start : (shutdownMachine false true lastTick).Reachable ⟨lastTick, .begins, false⟩ :=
    .start ⟨rfl, rfl⟩
  have ran : ((Machine.replay (Shutdown.exec false true) ⟨lastTick, .begins, false⟩
      flushedOnce).map fun state => decide (state.stage = .returned)) = some true := by
    decide
  obtain ⟨state, reached, shown⟩ := start.exists_of_replay (fun _ _ _ stepped => stepped) ran
  have returned := of_decide_eq_true shown
  exact ⟨state, reached, returned, (free_cmd_monitor_quiescent_iff reached returned).mpr rfl⟩

def oneReturned : List MonitorLabel :=
  [.log ⟨1, 1⟩ 7 true ⟨0, 0⟩, .logend ⟨1, 1⟩ ⟨0, 0⟩, .markReturned ⟨1, 1⟩]

/-- The node that has returned stays counted, so that the last tick queues the work again. -/
theorem free_cmd_monitor_leaves_work :
    ¬∀ (before : MonitorState) (state : Shutdown), (monitorMachine false).Reachable before →
      (∀ task, before.calls task = .out) →
        (shutdownMachine false true before).Reachable state → state.stage = .returned →
          Quiescent state.monitor := by
  intro claimed
  have began : (monitorMachine false).Reachable .initial := .start rfl
  obtain ⟨before, ran, out, unlocked, left⟩ : ∃ before : MonitorState,
      Machine.replay (fun monitor => MonitorState.exec monitor false) .initial oneReturned =
          some before ∧
        (∀ task, before.calls task = .out) ∧ before.tick.locks = false ∧
          (Machine.replay (Shutdown.exec false true) ⟨before, .begins, false⟩ flushedOnce).map
            (fun state => decide (state.stage = .returned) && state.monitor.pending) =
              some true := by
    refine ⟨_, rfl, ?_, rfl, by decide⟩
    intro task
    by_cases same : task = ⟨1, 1⟩
    · subst same
      rfl
    · change Function.update (Function.update (Function.update _ _ _) _ _) _ _ task = _
      rw [Function.update_of_ne same, Function.update_of_ne same, Function.update_of_ne same]
      rfl
  have monitored := began.of_replay (fun _ _ _ stepped => stepped) ran
  have start : (shutdownMachine false true before).Reachable ⟨before, .begins, false⟩ :=
    .start ⟨rfl, unlocked⟩
  obtain ⟨state, reached, shown⟩ := start.exists_of_replay (fun _ _ _ stepped => stepped) left
  rw [Bool.and_eq_true, decide_eq_true_eq] at shown
  have quiescent := claimed before state monitored out reached shown.1
  cases shown.2.symm.trans quiescent.pending

end TzDriver.Monitor
