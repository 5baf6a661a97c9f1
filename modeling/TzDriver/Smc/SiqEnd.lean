/-
The end of the dump thread in `free_smc_data`.

`STOP_SIQ_THREAD` is stored without `g_siq_lock`, so that a drain that is under way, or a
caller of `wakeup_tc_siq`, can store over it.  No signal is delivered to the thread but the
one of `kthread_stop`, which ends an interruptible wait in some kernels only.
-/

import TzDriver.Lib.Progress
import TzDriver.Smc.SiqServed

namespace TzDriver.Smc

open TzDriver.Lib
open TzDriver.Lib.Cells (Block)
open TzDriver.Session (eIntr)

/-- `breaks` tells whether `kthread_stop` ends an interruptible wait. -/
def siqStopped (breaks logDumpPath : Bool) : Machine SiqState SiqLabel :=
  (siqMachine logDumpPath).restrict fun state label =>
    label = .interrupt → breaks = true ∧ state.stopper = .stopping

/-- Behind its look at the flag, and before it resets the flag. -/
def SiqThread.misses : SiqThread → Bool
  | .atLock | .draining | .dumped _ | .drained => true
  | .waiting _ | .awake | .unlocking | .returned _ => false

/-- The wake-up behind the store of `STOP_SIQ_THREAD` has been sent. -/
def SiqStopper.signalled : SiqStopper → Bool
  | .idle | .stored => false
  | .woken | .stopping | .joined => true

/-- The thread has returned, or it will next look at a flag that says `STOP_SIQ_THREAD`. -/
def SiqState.Stops (state : SiqState) : Prop :=
  (∃ ret, state.thread = .returned ret) ∨
    state.run = stopSiqThread ∧
      (state.thread = .waiting false ∨ state.thread = .awake ∨ state.thread = .unlocking)

section End

variable {logDumpPath : Bool} {state after : SiqState}

theorem SiqThread.woken_misses (thread : SiqThread) : thread.woken.misses = thread.misses := by
  cases thread <;> rfl

/-- A flag that still says `STOP_SIQ_THREAD` when the wake-up is sent has no sleeper. -/
def SiqState.Roused (state : SiqState) : Prop :=
  state.stopper.signalled = true → state.run = stopSiqThread → state.thread ≠ .waiting true

theorem SiqState.Roused.move (roused : state.Roused) {label : SiqLabel}
    (move : SiqMove logDumpPath state label after) : after.Roused := by
  intro signalled stopped
  cases move with
  | ignored id => exact roused signalled stopped
  | call id mode place nonzero => exact roused signalled stopped
  | acquire id mode place open_ => exact roused signalled stopped
  | refuse id mode place none_ => exact roused signalled stopped
  | file id mode place room => exact roused signalled stopped
  | giveUp id place => exact roused signalled stopped
  | mark id place => cases stopped
  | release id place => exact roused signalled stopped
  | wake id place => exact state.thread.woken_ne_asleep
  | sleep crashed place unset =>
      rw [show state.run = stopSiqThread from stopped] at unset
      cases unset
  | see crashed place set => simp
  | leave crashed place stopped => simp
  | approach crashed place runs => simp
  | enter crashed place open_ => simp
  | dump crashed place found => simp
  | finish crashed place none_ => simp
  | clear crashed index place => simp
  | reset crashed place => cases stopped
  | unlock crashed place => simp
  | interrupt place => simp
  | store place => cases signalled
  | signal place => exact state.thread.woken_ne_asleep
  | stop place => exact state.thread.woken_ne_asleep
  | join ret place ended =>
      apply roused _ stopped
      rw [place]
      rfl

theorem roused_of_reachable (reached : (siqMachine logDumpPath).Reachable state) :
    state.Roused := by
  apply reached.invariant
  · intro start initial
    rw [initial]
    intro signalled
    cases signalled
  · intro before label later roused taken
    exact roused.move (SiqMove.of_step taken)

/-- `kthread_stop` waits for a thread that will not see `STOP_SIQ_THREAD`. -/
structure SiqLost (state : SiqState) : Prop where
  waits : state.stopper = .stopping
  alive : ∀ ret, state.thread ≠ .returned ret
  missed : state.run = stopSiqThread → state.thread.misses = true

theorem lost_of_not_stops (roused : state.Roused) (waits : state.stopper = .stopping)
    (never : ¬state.Stops) : SiqLost state := by
  constructor
  · exact waits
  · intro ret returned
    exact never (Or.inl ⟨ret, returned⟩)
  · intro stopped
    cases place : state.thread with
    | waiting asleep =>
        cases asleep with
        | true => exact absurd place (roused (by rw [waits]; rfl) stopped)
        | false => exact absurd (Or.inr ⟨stopped, Or.inl place⟩) never
    | awake => exact absurd (Or.inr ⟨stopped, Or.inr (Or.inl place)⟩) never
    | unlocking => exact absurd (Or.inr ⟨stopped, Or.inr (Or.inr place)⟩) never
    | returned ret => exact absurd (Or.inl ⟨ret, place⟩) never
    | atLock => rfl
    | draining => rfl
    | dumped index => rfl
    | drained => rfl

theorem SiqLost.not_stored (lost : SiqLost state) (seen : state.thread.misses = false) :
    state.run ≠ stopSiqThread := by
  intro stopped
  rw [lost.missed stopped] at seen
  cases seen

theorem SiqLost.stay (lost : SiqLost state) (stopper : after.stopper = state.stopper)
    (run : after.run = state.run)
    (thread : after.thread = state.thread ∨ after.thread = state.thread.woken) :
    SiqLost after := by
  constructor
  · rw [stopper]
    exact lost.waits
  · intro ret returned
    apply lost.alive ret
    rcases thread with same | woken
    · rw [← same]
      exact returned
    · rw [woken] at returned
      cases place : state.thread with
      | returned given =>
          rw [place] at returned
          exact returned
      | _ =>
          rw [place] at returned
          cases returned
  · rw [run]
    intro stopped
    rcases thread with same | woken
    · rw [same]
      exact lost.missed stopped
    · rw [woken, SiqThread.woken_misses]
      exact lost.missed stopped

theorem SiqLost.goes (lost : SiqLost state) (stopper : after.stopper = state.stopper)
    (alive : ∀ ret, after.thread ≠ .returned ret)
    (missed : after.run = stopSiqThread → after.thread.misses = true) : SiqLost after :=
  ⟨stopper.trans lost.waits, alive, missed⟩

theorem SiqLost.move (lost : SiqLost state) {label : SiqLabel} (quiet : label ≠ .interrupt)
    (move : SiqMove logDumpPath state label after) : SiqLost after := by
  cases move with
  | ignored id => exact lost
  | call id mode place nonzero => exact lost.stay rfl rfl (Or.inl rfl)
  | acquire id mode place open_ => exact lost.stay rfl rfl (Or.inl rfl)
  | refuse id mode place none_ => exact lost.stay rfl rfl (Or.inl rfl)
  | file id mode place room => exact lost.stay rfl rfl (Or.inl rfl)
  | giveUp id place => exact lost.stay rfl rfl (Or.inl rfl)
  | mark id place =>
      apply lost.goes
      · rfl
      · exact lost.alive
      · intro impossible
        cases impossible
  | release id place => exact lost.stay rfl rfl (Or.inl rfl)
  | wake id place => exact lost.stay rfl rfl (Or.inr rfl)
  | sleep crashed place unset =>
      apply lost.goes
      · rfl
      · simp
      · intro stopped
        rw [show state.run = stopSiqThread from stopped] at unset
        cases unset
  | see crashed place set =>
      apply lost.goes
      · rfl
      · simp
      · intro stopped
        exact absurd stopped (lost.not_stored (by rw [place]; rfl))
  | leave crashed place stopped =>
      exact absurd stopped (lost.not_stored (by rw [place]; rfl))
  | approach crashed place runs => exact lost.goes rfl (by simp) fun _ => rfl
  | enter crashed place open_ => exact lost.goes rfl (by simp) fun _ => rfl
  | dump crashed place found => exact lost.goes rfl (by simp) fun _ => rfl
  | finish crashed place none_ => exact lost.goes rfl (by simp) fun _ => rfl
  | clear crashed index place => exact lost.goes rfl (by simp) fun _ => rfl
  | reset crashed place =>
      apply lost.goes
      · rfl
      · simp
      · intro impossible
        cases impossible
  | unlock crashed place =>
      apply lost.goes
      · rfl
      · simp
      · intro stopped
        exact absurd stopped (lost.not_stored (by rw [place]; rfl))
  | interrupt place => exact absurd rfl quiet
  | store place =>
      rw [lost.waits] at place
      cases place
  | signal place =>
      rw [lost.waits] at place
      cases place
  | stop place =>
      rw [lost.waits] at place
      cases place
  | join ret place ended => exact absurd ended (lost.alive ret)

abbrev SiqState.CanJoin (breaks logDumpPath : Bool) (state : SiqState) : Prop :=
  (siqStopped breaks logDumpPath).CanReach (fun later => later.stopper = .joined) state

structure SiqStopping (logDumpPath : Bool) (state : SiqState) : Prop where
  reached : (siqMachine logDumpPath).Reachable state
  waits : state.stopper = .stopping

namespace SiqStopping

variable {breaks : Bool}

theorem before (stopping : SiqStopping logDumpPath state) {label : SiqLabel}
    (allowed : label = .interrupt → breaks = true)
    (taken : state.exec logDumpPath label = some after) (stays : after.stopper = state.stopper)
    (joins : SiqStopping logDumpPath after → after.CanJoin breaks logDumpPath) :
    state.CanJoin breaks logDumpPath := by
  have still : SiqStopping logDumpPath after :=
    ⟨.next stopping.reached taken, stays.trans stopping.waits⟩
  apply Machine.CanReach.before label _ (joins still)
  exact ⟨fun signal => ⟨allowed signal, stopping.waits⟩, taken⟩

theorem before_unlock (stopping : SiqStopping logDumpPath state)
    (place : state.thread = .unlocking)
    (joins : SiqStopping logDumpPath { state with lock := none, thread := .waiting false } →
      SiqState.CanJoin breaks logDumpPath { state with lock := none, thread := .waiting false }) :
    state.CanJoin breaks logDumpPath := by
  have taken : state.exec logDumpPath (.thread false) =
      some { state with lock := none, thread := .waiting false } := by
    simp only [SiqState.exec, SiqState.threadStep, place]
  exact stopping.before (by simp) taken rfl joins

theorem of_returned (stopping : SiqStopping logDumpPath state) {ret : Int}
    (returned : state.thread = .returned ret) : state.CanJoin breaks logDumpPath := by
  have taken : state.exec logDumpPath .stop = some { state with stopper := .joined } := by
    simp only [SiqState.exec, SiqState.stopStep, stopping.waits, returned]
  have stepped : (siqStopped breaks logDumpPath).step state .stop
      { state with stopper := .joined } := ⟨by simp, taken⟩
  apply Machine.CanReach.before .stop stepped
  exact .here rfl

/-! ### A flag that says `STOP_SIQ_THREAD` -/

theorem of_awake_told (stopping : SiqStopping logDumpPath state)
    (stopped : state.run = stopSiqThread) (place : state.thread = .awake) :
    state.CanJoin breaks logDumpPath := by
  have taken : state.exec logDumpPath (.thread false) =
      some { state with thread := .returned 0 } := by
    simp only [SiqState.exec, SiqState.threadStep, place, stopped, if_true]
  apply stopping.before (by simp) taken rfl
  exact fun still => still.of_returned rfl

theorem of_waiting_told (stopping : SiqStopping logDumpPath state)
    (stopped : state.run = stopSiqThread) (place : state.thread = .waiting false) :
    state.CanJoin breaks logDumpPath := by
  have taken : state.exec logDumpPath (.thread false) = some { state with thread := .awake } := by
    simp only [SiqState.exec, SiqState.threadStep, place, stopped]
    rfl
  apply stopping.before (by simp) taken rfl
  exact fun still => still.of_awake_told stopped rfl

theorem of_stops (stopping : SiqStopping logDumpPath state) (stops : state.Stops) :
    state.CanJoin breaks logDumpPath := by
  rcases stops with ⟨ret, returned⟩ | ⟨stopped, waiting | awake | unlocking⟩
  · exact stopping.of_returned returned
  · exact stopping.of_waiting_told stopped waiting
  · exact stopping.of_awake_told stopped awake
  · apply stopping.before_unlock unlocking
    exact fun still => still.of_waiting_told stopped rfl

/-! ### A kernel whose `kthread_stop` ends the wait -/

theorem of_asleep (stopping : SiqStopping logDumpPath state)
    (place : state.thread = .waiting true) : state.CanJoin true logDumpPath := by
  have taken : state.exec logDumpPath .interrupt =
      some { state with thread := .returned (-eIntr) } := if_pos place
  apply stopping.before (fun _ => rfl) taken rfl
  exact fun still => still.of_returned rfl

theorem of_waiting_unset (stopping : SiqStopping logDumpPath state) (unset : state.run = 0)
    (place : state.thread = .waiting false) : state.CanJoin true logDumpPath := by
  have taken : state.exec logDumpPath (.thread false) =
      some { state with thread := .waiting true } := by
    simp only [SiqState.exec, SiqState.threadStep, place, unset, if_true]
  apply stopping.before (by simp) taken rfl
  exact fun still => still.of_asleep rfl

theorem of_unlocking_unset (stopping : SiqStopping logDumpPath state) (unset : state.run = 0)
    (place : state.thread = .unlocking) : state.CanJoin true logDumpPath := by
  apply stopping.before_unlock place
  exact fun still => still.of_waiting_unset unset rfl

theorem of_drained (stopping : SiqStopping logDumpPath state)
    (place : state.thread = .drained) : state.CanJoin true logDumpPath := by
  have taken : state.exec logDumpPath (.thread false) =
      some { state with run := 0, thread := .unlocking } := by
    simp only [SiqState.exec, SiqState.threadStep, place]
  apply stopping.before (by simp) taken rfl
  exact fun still => still.of_unlocking_unset rfl rfl

/-- The drain comes to its end, one filled slot after the other. -/
theorem of_block {filled : List UInt32} {front : Nat} (stopping : SiqStopping logDumpPath state)
    (block : Block 0 state.queue front filled) (place : state.thread = .draining) :
    state.CanJoin true logDumpPath := by
  induction filled generalizing state front with
  | nil =>
      have past : getUndoSiqIndex state.queue ≥ maxSiqNum := by
        rw [← (siqSound_of_reachable stopping.reached).ordered.length]
        exact Nat.le_of_eq block.firstFilled_none.symm
      have taken : state.exec logDumpPath (.thread false) =
          some { state with thread := .drained } := by
        simp only [SiqState.exec, SiqState.threadStep, place, past, if_true]
      apply stopping.before (by simp) taken rfl
      exact fun still => still.of_drained rfl
  | cons mode rest ih =>
      have index : getUndoSiqIndex state.queue = front := block.firstFilled_eq
      have found : ¬front ≥ maxSiqNum := by
        rw [← (siqSound_of_reachable stopping.reached).ordered.length]
        exact Nat.not_le.mpr block.lt_length
      have taken : state.exec logDumpPath (.thread false) =
          some { state with
            dumps := state.dumps ++ [siqDump logDumpPath (state.queue.getD front 0) false]
            sysCrash := state.sysCrash || false
            thread := .dumped front } := by
        simp only [SiqState.exec, SiqState.threadStep, place, index, found, if_false]
      apply stopping.before (by simp) taken rfl
      intro dumped
      have cleared : SiqState.exec logDumpPath { state with
            dumps := state.dumps ++ [siqDump logDumpPath (state.queue.getD front 0) false]
            sysCrash := state.sysCrash || false
            thread := .dumped front } (.thread false) =
          some { state with
            dumps := state.dumps ++ [siqDump logDumpPath (state.queue.getD front 0) false]
            sysCrash := state.sysCrash || false
            queue := state.queue.set front 0
            thread := .draining } := rfl
      apply dumped.before (by simp) cleared rfl
      exact fun still => ih still block.take rfl

theorem of_draining (stopping : SiqStopping logDumpPath state)
    (place : state.thread = .draining) : state.CanJoin true logDumpPath := by
  obtain ⟨front, filled, block, _⟩ := (siqSound_of_reachable stopping.reached).ordered.block
  exact stopping.of_block block place

theorem of_dumped (stopping : SiqStopping logDumpPath state) {index : Nat}
    (place : state.thread = .dumped index) : state.CanJoin true logDumpPath := by
  have taken : state.exec logDumpPath (.thread false) =
      some { state with queue := state.queue.set index 0, thread := .draining } := by
    simp only [SiqState.exec, SiqState.threadStep, place]
  apply stopping.before (by simp) taken rfl
  exact fun still => still.of_draining rfl

theorem of_open (stopping : SiqStopping logDumpPath state) (open_ : state.lock = none)
    (place : state.thread = .atLock) : state.CanJoin true logDumpPath := by
  have taken : state.exec logDumpPath (.thread false) =
      some { state with lock := some .thread, thread := .draining } := by
    simp only [SiqState.exec, SiqState.threadStep, place, open_, if_true]
  apply stopping.before (by simp) taken rfl
  exact fun still => still.of_draining rfl

theorem of_full (stopping : SiqStopping logDumpPath state) (place : state.thread = .atLock)
    {id : Nat} (holder : state.callers id = .full) : state.CanJoin true logDumpPath := by
  have taken : state.exec logDumpPath (.caller id) =
      some ({ state with lock := none }.goes id .idle) := by
    simp only [SiqState.exec, SiqState.callerStep, holder]
  apply stopping.before (by simp) taken rfl
  exact fun still => still.of_open rfl place

theorem of_marked (stopping : SiqStopping logDumpPath state) (place : state.thread = .atLock)
    {id : Nat} (holder : state.callers id = .marked) : state.CanJoin true logDumpPath := by
  have taken : state.exec logDumpPath (.caller id) =
      some ({ state with lock := none }.goes id .waking) := by
    simp only [SiqState.exec, SiqState.callerStep, holder]
  apply stopping.before (by simp) taken rfl
  exact fun still => still.of_open rfl place

theorem of_filed (stopping : SiqStopping logDumpPath state) (place : state.thread = .atLock)
    {id : Nat} (holder : state.callers id = .filed) : state.CanJoin true logDumpPath := by
  have taken : state.exec logDumpPath (.caller id) =
      some ({ state with run := runSiqThread }.goes id .marked) := by
    simp only [SiqState.exec, SiqState.callerStep, holder]
  apply stopping.before (by simp) taken rfl
  exact fun still => still.of_marked place (SiqState.goes_self ..)

theorem of_inside (stopping : SiqStopping logDumpPath state) (place : state.thread = .atLock)
    {id : Nat} {mode : UInt32} (holder : state.callers id = .inside mode) :
    state.CanJoin true logDumpPath := by
  by_cases none_ : getFreeSiqIndex state.queue ≥ maxSiqNum
  · have taken : state.exec logDumpPath (.caller id) = some (state.goes id .full) := by
      simp only [SiqState.exec, SiqState.callerStep, holder, none_, if_true]
    apply stopping.before (by simp) taken rfl
    exact fun still => still.of_full place (SiqState.goes_self ..)
  · have taken : state.exec logDumpPath (.caller id) =
        some ({ state with
          queue := state.queue.set (getFreeSiqIndex state.queue) mode
          accepted := state.accepted ++ [mode] }.goes id .filed) := by
      simp only [SiqState.exec, SiqState.callerStep, holder, none_, if_false]
    apply stopping.before (by simp) taken rfl
    exact fun still => still.of_filed place (SiqState.goes_self ..)

theorem of_atLock (stopping : SiqStopping logDumpPath state)
    (place : state.thread = .atLock) : state.CanJoin true logDumpPath := by
  have locked := (siqSound_of_reachable stopping.reached).locked
  cases owner : state.lock with
  | none => exact stopping.of_open owner place
  | some holder =>
      cases holder with
      | thread =>
          have inside := locked.thread.mpr owner
          rw [place] at inside
          cases inside
      | caller id =>
          have inside := (locked.caller id).mpr owner
          cases at_ : state.callers id with
          | inside mode => exact stopping.of_inside place at_
          | full => exact stopping.of_full place at_
          | filed => exact stopping.of_filed place at_
          | marked => exact stopping.of_marked place at_
          | idle | atLock mode | waking =>
              rw [at_] at inside
              cases inside

theorem of_awake (stopping : SiqStopping logDumpPath state)
    (place : state.thread = .awake) : state.CanJoin true logDumpPath := by
  by_cases stopped : state.run = stopSiqThread
  · exact stopping.of_awake_told stopped place
  · have taken : state.exec logDumpPath (.thread false) =
        some { state with thread := .atLock } := by
      simp only [SiqState.exec, SiqState.threadStep, place, stopped, if_false]
    apply stopping.before (by simp) taken rfl
    exact fun still => still.of_atLock rfl

theorem of_waiting (stopping : SiqStopping logDumpPath state)
    (place : state.thread = .waiting false) : state.CanJoin true logDumpPath := by
  by_cases unset : state.run = 0
  · exact stopping.of_waiting_unset unset place
  · have taken : state.exec logDumpPath (.thread false) =
        some { state with thread := .awake } := by
      simp only [SiqState.exec, SiqState.threadStep, place, unset, if_false]
    apply stopping.before (by simp) taken rfl
    exact fun still => still.of_awake rfl

theorem canJoin (stopping : SiqStopping logDumpPath state) :
    state.CanJoin true logDumpPath := by
  cases place : state.thread with
  | waiting asleep =>
      cases asleep with
      | true => exact stopping.of_asleep place
      | false => exact stopping.of_waiting place
  | awake => exact stopping.of_awake place
  | atLock => exact stopping.of_atLock place
  | draining => exact stopping.of_draining place
  | dumped index => exact stopping.of_dumped place
  | drained => exact stopping.of_drained place
  | unlocking =>
      apply stopping.before_unlock place
      exact fun still => still.of_waiting rfl
  | returned ret => exact stopping.of_returned place

end SiqStopping

end End

/-- `kthread_stop` in `free_smc_data` can return exactly if it ends an interruptible wait, or
the thread has returned, or `g_siq_th_run` still says `STOP_SIQ_THREAD` and the thread is not
between its look at the flag and the reset of the flag behind the drain.  Everywhere else it
waits for ever. -/
theorem kthread_stop_returns_iff (breaks logDumpPath : Bool) (state : SiqState)
    (reached : (siqMachine logDumpPath).Reachable state) (waits : state.stopper = .stopping) :
    (∃ later, ((siqStopped breaks logDumpPath).since state).Reachable later ∧
      later.stopper = .joined) ↔ breaks = true ∨ state.Stops := by
  have stopping : SiqStopping logDumpPath state := ⟨reached, waits⟩
  constructor
  · intro returns
    cases breaks with
    | true => exact Or.inl rfl
    | false =>
        right
        by_contra never
        have lost := lost_of_not_stops (roused_of_reachable reached) waits never
        apply Machine.not_canReach_of_trap _ _ lost returns
        · rintro before label after lost ⟨allowed, taken⟩
          apply lost.move _ (SiqMove.of_step taken)
          intro signal
          cases (allowed signal).1
        · intro later lost joined
          rw [lost.waits] at joined
          cases joined
  · rintro (rfl | stops)
    · exact stopping.canJoin
    · exact stopping.of_stops stops

/-- The end comes while the thread drains. -/
def stopInDrain : List SiqLabel :=
  [.call 0 siqDumpShell, .caller 0, .caller 0, .caller 0, .caller 0, .caller 0, .thread false,
    .thread false, .thread false, .stop, .stop, .stop]

theorem kthread_stop_returns_iff_drain : ∃ state, (siqMachine false).Reachable state ∧
    state.stopper = .stopping ∧ state.run = stopSiqThread ∧
    (¬∃ later, ((siqStopped false false).since state).Reachable later ∧
      later.stopper = .joined) ∧
    ∃ later, ((siqStopped true false).since state).Reachable later ∧
      later.stopper = .joined := by
  have start : (siqMachine false).Reachable .initial := .start rfl
  have ran : ((Machine.replay (SiqState.exec false) .initial stopInDrain).map fun state =>
      decide (state.stopper = .stopping ∧ state.run = stopSiqThread ∧
        state.thread = .draining)) = some true := by
    decide
  obtain ⟨state, reached, shown⟩ := start.exists_of_replay (fun _ _ _ stepped => stepped) ran
  obtain ⟨waits, stopped, place⟩ := of_decide_eq_true shown
  refine ⟨state, reached, waits, stopped, ?_, ?_⟩
  · rw [kthread_stop_returns_iff false false state reached waits]
    rintro (impossible | ⟨ret, returned⟩ | ⟨_, waiting | awake | unlocking⟩)
    · cases impossible
    · cases place.symm.trans returned
    · cases place.symm.trans waiting
    · cases place.symm.trans awake
    · cases place.symm.trans unlocking
  · exact (kthread_stop_returns_iff true false state reached waits).mpr (Or.inl rfl)

end TzDriver.Smc
