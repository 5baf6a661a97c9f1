/-
The close of a file in the LiteOS driver (`liteos/core/tc_client_driver.c`,
`liteos/core/session_manager.c`).

`tc_ns_client_close` starts a thread that closes the file's sessions and goes on
without waiting for it.
-/

import TzDriver.Lib.Runs
import TzDriver.Session.Lookups
import TzDriver.Session.Threads

namespace TzDriver.LiteOs

open TzDriver.Lib TzDriver.Session

/-! ### The two threads -/

/-- Where `tc_ns_client_close` is: before `close_unclosed_session_in_kthread`,
`send_crashed_event_response_all` and `free_dev`, or returned. -/
inductive Closer where
  | closeSessions
  | answerAgents
  | freeDev
  | returned
deriving DecidableEq

/-- Where `close_session_thread_fn` is. -/
inductive CloseThread where
  | scan (index : Nat)
  | lock (index service : Nat)
  | closing (index service : Nat) (remaining : List Nat)
  | unlinked (index service session : Nat) (remaining : List Nat)
  | put (index service : Nat)
  | finished
deriving DecidableEq

/-- `devFreed` tells that `free_dev` has run, `misused` that the thread has read the
dev_file after it. -/
structure Closing (Dev : Type) where
  tables : Tables Dev
  closer : Closer
  thread : Option CloseThread
  devFreed : Bool
  misused : Bool

inductive CloseLabel where
  -- whether `kthread_run` gets its thread
  | closer (created : Bool)
  | thread

section Steps

variable {Dev : Type} [DecidableEq Dev]

def ifExistUnclosedSession (tables : Tables Dev) (dev : Dev) : Bool :=
  (List.finRange servicesMaxCount).any fun index =>
    match (tables.devs dev).services index with
    | none => false
    | some service => !(tables.services service).sessionList.isEmpty

def closerStep (dev : Dev) (created : Bool) (state : Closing Dev) : Option (Closing Dev) :=
  match state.closer with
  | .closeSessions =>
      if ifExistUnclosedSession state.tables dev && created then
        some { state with closer := .answerAgents, thread := some (.scan 0) }
      else some { state with closer := .answerAgents }
  | .answerAgents => some { state with closer := .freeDev }
  | .freeDev => some { state with closer := .returned, devFreed := true }
  | .returned => none

/-- `close_session_thread_fn` with `close_session_in_service_list`; `none` while it has
to wait for `operation_lock`, and after its end. -/
def closeThreadStep (dev : Dev) (tables : Tables Dev) :
    CloseThread → Option (Tables Dev × CloseThread)
  | .scan index =>
      if inRange : index < servicesMaxCount then
        match (tables.devs dev).services ⟨index, inRange⟩ with
        | none => some (tables, .scan (index + 1))
        | some service =>
            let touched := tables.touchServices [service]
            if (tables.services service).sessionList = [] then some (touched, .scan (index + 1))
            else some (touched, .lock index service)
      else some (tables, .finished)
  | .lock index service =>
      if (tables.services service).operationLock then none
      else
        some (tables.lockOperation service true,
          .closing index service (tables.services service).sessionList)
  | .closing index service remaining =>
      match remaining with
      | [] => some (tables.lockOperation service false, .put index service)
      | session :: rest =>
          -- the answer of the TEE to the close request does not matter
          if (tables.sessions session).owner = some dev then
            some (tables.unlinkSession service session, .unlinked index service session rest)
          else some (tables.touchSessions [session], .closing index service rest)
  | .unlinked index service session remaining =>
      some (tables.putSessionStruct session, .closing index service remaining)
  | .put index service => some (tables.putServiceStruct service, .scan (index + 1))
  | .finished => none

/-- The points of the thread at which its next step reads the dev_file: its slots, or
its id for the close request. -/
def CloseThread.readsDev : CloseThread → Bool
  | .scan index => decide (index < servicesMaxCount)
  | .closing .. => true
  | _ => false

/-- The thread has still to read the dev_file. -/
def CloseThread.needsDev : CloseThread → Bool
  | .scan index => decide (index < servicesMaxCount)
  | .put index _ => decide (index + 1 < servicesMaxCount)
  | .finished => false
  | _ => true

def Closing.exec (dev : Dev) (state : Closing Dev) : CloseLabel → Option (Closing Dev)
  | .closer created => closerStep dev created state
  | .thread =>
      match state.thread with
      | none => none
      | some thread =>
          (closeThreadStep dev state.tables thread).map fun next =>
            { state with
              tables := next.1
              thread := some next.2
              misused := state.misused || (state.devFreed && thread.readsDev) }

/-- The runs of a close of `dev` that begins with these tables. -/
def closeMachine (dev : Dev) (tables : Tables Dev) : Machine (Closing Dev) CloseLabel :=
  { init := fun state => state = ⟨tables, .closeSessions, none, false, false⟩
    step := fun before label after => before.exec dev label = some after }

end Steps

/-! ### When the dev_file outlives the thread -/

section Order

variable {Dev : Type} [DecidableEq Dev] {dev : Dev} {tables : Tables Dev}

def OwnsNoSession (dev : Dev) (tables : Tables Dev) : Prop :=
  ∀ service, ∀ session ∈ (tables.services service).sessionList,
    (tables.sessions session).owner ≠ some dev

/-- `free_dev` has not overtaken the thread, and a close that has returned has left no
session of the file. -/
structure ClosedInOrder (dev : Dev) (state : Closing Dev) : Prop where
  order : state.devFreed = true → ∀ thread, state.thread = some thread → thread.needsDev = false
  unowned : state.closer = .returned → OwnsNoSession dev state.tables

/-- No service in a slot of the file has a session. -/
def NothingUnclosed (dev : Dev) (tables : Tables Dev) : Prop :=
  ∀ index service, (tables.devs dev).services index = some service →
    (tables.services service).sessionList = []

omit [DecidableEq Dev] in
theorem ifExistUnclosedSession_eq_false :
    ifExistUnclosedSession tables dev = false ↔ NothingUnclosed dev tables := by
  rw [ifExistUnclosedSession, List.any_eq_false]
  constructor
  · intro none index service stored
    have here := none index (List.mem_finRange index)
    rw [stored] at here
    by_contra filled
    apply here
    change (!(tables.services service).sessionList.isEmpty) = true
    rw [List.isEmpty_eq_false_iff.mpr filled]
    rfl
  · intro nothing index _
    split
    · exact Bool.false_ne_true
    · next service stored =>
        rw [nothing index service stored]
        exact Bool.false_ne_true

theorem no_thread_of_nothing_unclosed (nothing : NothingUnclosed dev tables) {state : Closing Dev}
    (reached : (closeMachine dev tables).Reachable state) :
    state.tables = tables ∧ state.thread = none := by
  induction reached with
  | start initial =>
      subst initial
      exact ⟨rfl, rfl⟩
  | @next before after label _ taken ih =>
      obtain ⟨same, none⟩ := ih
      cases label with
      | thread =>
          change before.exec dev .thread = some after at taken
          rw [Closing.exec, none] at taken
          cases taken
      | closer created =>
          change closerStep dev created before = some after at taken
          rw [closerStep] at taken
          split at taken
          · rw [same, ifExistUnclosedSession_eq_false.mpr nothing] at taken
            cases taken
            exact ⟨rfl, none⟩
          · cases taken
            exact ⟨same, none⟩
          · cases taken
            exact ⟨same, none⟩
          · cases taken

/-- The close is in order under every schedule exactly when there is nothing to close:
as soon as a thread is started, `free_dev` can run before it. -/
theorem close_in_order_iff (dev : Dev) (tables : Tables Dev) :
    (∀ state, (closeMachine dev tables).Reachable state → ClosedInOrder dev state) ↔
      NothingUnclosed dev tables ∧ OwnsNoSession dev tables := by
  have start : (closeMachine dev tables).Reachable
      ⟨tables, .closeSessions, none, false, false⟩ := .start rfl
  constructor
  · intro inOrder
    have nothing : NothingUnclosed dev tables := by
      rw [← ifExistUnclosedSession_eq_false, Bool.eq_false_iff]
      intro unclosed
      -- the closer goes on to its end before the thread has run at all
      have created : (closeMachine dev tables).step ⟨tables, .closeSessions, none, false, false⟩
          (.closer true) ⟨tables, .answerAgents, some (.scan 0), false, false⟩ := by
        simp only [closeMachine, Closing.exec, closerStep, unclosed, Bool.and_self, if_true]
      have answered : (closeMachine dev tables).step
          ⟨tables, .answerAgents, some (.scan 0), false, false⟩ (.closer true)
          ⟨tables, .freeDev, some (.scan 0), false, false⟩ := rfl
      have freed : (closeMachine dev tables).step
          ⟨tables, .freeDev, some (.scan 0), false, false⟩ (.closer true)
          ⟨tables, .returned, some (.scan 0), true, false⟩ := rfl
      have overtaken := (inOrder _ (((start.next created).next answered).next freed)).order rfl
      cases overtaken (.scan 0) rfl
    refine ⟨nothing, ?_⟩
    have skipped : (closeMachine dev tables).step ⟨tables, .closeSessions, none, false, false⟩
        (.closer true) ⟨tables, .answerAgents, none, false, false⟩ := by
      simp only [closeMachine, Closing.exec, closerStep,
        ifExistUnclosedSession_eq_false.mpr nothing, Bool.false_and, Bool.false_eq_true, if_false]
    have answered : (closeMachine dev tables).step ⟨tables, .answerAgents, none, false, false⟩
        (.closer true) ⟨tables, .freeDev, none, false, false⟩ := rfl
    have freed : (closeMachine dev tables).step ⟨tables, .freeDev, none, false, false⟩
        (.closer true) ⟨tables, .returned, none, true, false⟩ := rfl
    exact (inOrder _ (((start.next skipped).next answered).next freed)).unowned rfl
  · intro empty state reached
    obtain ⟨same, none⟩ := no_thread_of_nothing_unclosed empty.1 reached
    constructor
    · intro _ thread started
      cases none.symm.trans started
    · intro _
      rw [same]
      exact empty.2

end Order

def unclosedTables : Tables Unit :=
  let slots : DevSlots :=
    { services := fun index => if index.val = 0 then some 0 else none
      serviceRef := fun index => if index.val = 0 then 1 else 0
      serviceLock := false, phase := .opened }
  ((Tables.initial.tcNsServiceInit 7#128).1.setDev () slots).initNewSessNode () 0 5

/-- The file is freed before the thread has run at all, and then the thread reads it. -/
theorem dev_file_freed_in_use : ∃ state, (closeMachine () unclosedTables).Reachable state ∧
    state.misused = true ∧ ¬ClosedInOrder () state := by
  have ran : ((Machine.replay (Closing.exec ()) ⟨unclosedTables, .closeSessions, none, false, false⟩
      [.closer true, .closer true, .closer true, .thread]).map
        fun state => state.misused && state.devFreed &&
          decide (state.thread = some (.lock 0 0))) = some true := by
    decide
  have start : (closeMachine () unclosedTables).Reachable
      ⟨unclosedTables, .closeSessions, none, false, false⟩ := .start rfl
  obtain ⟨state, reached, shown⟩ := start.exists_of_replay (fun _ _ _ stepped => stepped) ran
  simp only [Bool.and_eq_true, decide_eq_true_eq] at shown
  refine ⟨state, reached, shown.1.1, ?_⟩
  intro inOrder
  cases inOrder.order shown.1.2 _ shown.2

end TzDriver.LiteOs
