/-
Who holds which mutex.

`locksOf` counts the threads inside the sections of `service_lock` and
`operation_lock` and the close threads of a file.  The flags of the tables agree
with these counts, so no two threads are inside one section.
-/

import TzDriver.Session.Refine
import TzDriver.Session.Threads

namespace TzDriver.Session

/-- The lock flags of the tables; `closing` tells that the file's close thread
runs. -/
@[ext] structure LockView (Dev : Type) where
  serviceLock : Dev → Bool
  operationLock : Nat → Bool
  closing : Dev → Bool
  serviceCount : Nat

def Phase.isClosing : Phase → Bool
  | .closing _ => true
  | _ => false

/-- Threads inside `service_lock`, inside `operation_lock`, and close threads. -/
abbrev Locks (Dev : Type) : Type :=
  (Dev → Nat) × (Nat → Nat) × (Dev → Nat)

namespace Tables

variable {Dev : Type}

def lockView (tables : Tables Dev) : LockView Dev :=
  { serviceLock := fun dev => (tables.devs dev).serviceLock
    operationLock := fun service => (tables.services service).operationLock
    closing := fun dev => (tables.devs dev).phase.isClosing
    serviceCount := tables.serviceCount }

section Updates

variable (tables : Tables Dev)

@[simp] theorem lockView_touchServices (touched : List Nat) :
    (tables.touchServices touched).lockView = tables.lockView := rfl

@[simp] theorem lockView_touchSessions (touched : List Nat) :
    (tables.touchSessions touched).lockView = tables.lockView := rfl

@[simp] theorem lockView_getServiceStruct (service : Nat) :
    (tables.getServiceStruct service).lockView = tables.lockView := by
  simp [lockView, getServiceStruct, setService, touchServices, field_update]

@[simp] theorem lockView_putServiceStruct (service : Nat) :
    (tables.putServiceStruct service).lockView = tables.lockView := by
  simp only [putServiceStruct]
  split
  · simp [lockView, setService, touchServices, field_update]
  · simp [lockView, setService, touchServices, field_update]

@[simp] theorem lockView_initNewSessNode (dev : Dev) (service : Nat) (sessionId : UInt32) :
    (tables.initNewSessNode dev service sessionId).lockView = tables.lockView := by
  simp [lockView, initNewSessNode, setService, setSession, touchServices, field_update]

@[simp] theorem lockView_getSessionStruct (session : Nat) :
    (tables.getSessionStruct session).lockView = tables.lockView := rfl

@[simp] theorem lockView_putSessionStruct (session : Nat) :
    (tables.putSessionStruct session).lockView = tables.lockView := rfl

@[simp] theorem lockView_unlinkSession (service session : Nat) :
    (tables.unlinkSession service session).lockView = tables.lockView := by
  simp [lockView, unlinkSession, setService, setSession, touchServices, touchSessions, field_update]

theorem lockView_lockServices [DecidableEq Dev] (dev : Dev) (held : Bool) :
    (tables.lockServices dev held).lockView =
      { tables.lockView with
        serviceLock := Function.update tables.lockView.serviceLock dev held } := by
  simp [lockView, lockServices, setDev, field_update, field_update fun slots : DevSlots =>
    slots.phase.isClosing]

theorem lockView_lockOperation (service : Nat) (held : Bool) :
    (tables.lockOperation service held).lockView =
      { tables.lockView with
        operationLock := Function.update tables.lockView.operationLock service held } := by
  simp [lockView, lockOperation, setService, touchServices, field_update]

theorem lockView_setPhase [DecidableEq Dev] (dev : Dev) (phase : Phase) :
    (tables.setPhase dev phase).lockView =
      { tables.lockView with
        closing := Function.update tables.lockView.closing dev phase.isClosing } := by
  simp [lockView, setPhase, setDev, field_update, field_update fun slots : DevSlots =>
    slots.phase.isClosing]

theorem lockView_tcNsServiceInit (uuid : Uuid) :
    (tables.tcNsServiceInit uuid).1.lockView =
      { tables.lockView with
        operationLock := Function.update tables.lockView.operationLock tables.serviceCount false
        serviceCount := tables.serviceCount + 1 } := by
  simp [lockView, tcNsServiceInit, setService, field_update]

end Updates

end Tables

/-! ### Flags and counts -/

structure LockCounts {Dev : Type} (view : LockView Dev) (locks : Locks Dev) : Prop where
  services : ∀ dev, locks.1 dev = if view.serviceLock dev then 1 else 0
  operations : ∀ service, locks.2.1 service = if view.operationLock service then 1 else 0
  closers : ∀ dev, locks.2.2 dev = if view.closing dev then 1 else 0
  fresh : ∀ service, view.serviceCount ≤ service → view.operationLock service = false

section Flags

variable {Dev : Type} [DecidableEq Dev] {view : LockView Dev} {locks : Locks Dev} {dev : Dev}
  {service : Nat}

def insideServices (dev : Dev) : Locks Dev := (Pi.single dev 1, 0, 0)

def insideOperation (service : Nat) : Locks Dev := (0, Pi.single service 1, 0)

def closerOf (dev : Dev) : Locks Dev := (0, 0, Pi.single dev 1)

private theorem flag_set {Index : Type} [DecidableEq Index] {flag : Index → Bool}
    {count : Index → Nat} {at_ : Index}
    (agree : ∀ index, count index = if flag index then 1 else 0) (clear : flag at_ = false)
    (index : Index) :
    (Pi.single at_ 1 + count : Index → Nat) index =
      if Function.update flag at_ true index then 1 else 0 := by
  by_cases same : index = at_
  · subst same
    rw [Pi.add_apply, Pi.single_eq_same, agree, clear, Function.update_self]
    rfl
  · rw [Pi.add_apply, Pi.single_eq_of_ne same, Function.update_of_ne same, agree, Nat.zero_add]

private theorem flag_clear {Index : Type} [DecidableEq Index] {flag : Index → Bool}
    {count : Index → Nat} {at_ : Index}
    (agree : ∀ index, (Pi.single at_ 1 + count : Index → Nat) index = if flag index then 1 else 0)
    (index : Index) : count index = if Function.update flag at_ false index then 1 else 0 := by
  have here := agree index
  by_cases same : index = at_
  · subst same
    rw [Pi.add_apply, Pi.single_eq_same] at here
    rw [Function.update_self]
    split at here <;> simp <;> omega
  · rw [Pi.add_apply, Pi.single_eq_of_ne same, Nat.zero_add] at here
    rw [Function.update_of_ne same]
    exact here

theorem LockCounts.lockServices (counts : LockCounts view locks)
    (clear : view.serviceLock dev = false) :
    LockCounts { view with serviceLock := Function.update view.serviceLock dev true }
      (insideServices dev + locks) := by
  refine ⟨flag_set counts.services clear, ?_, ?_, counts.fresh⟩
  · intro service
    exact (Nat.zero_add _).trans (counts.operations service)
  · intro dev
    exact (Nat.zero_add _).trans (counts.closers dev)

theorem LockCounts.unlockServices (counts : LockCounts view (insideServices dev + locks)) :
    LockCounts { view with serviceLock := Function.update view.serviceLock dev false } locks := by
  refine ⟨flag_clear counts.services, ?_, ?_, counts.fresh⟩
  · intro service
    exact (Nat.zero_add _).symm.trans (counts.operations service)
  · intro dev
    exact (Nat.zero_add _).symm.trans (counts.closers dev)

omit [DecidableEq Dev] in
theorem LockCounts.lockOperation (counts : LockCounts view locks)
    (clear : view.operationLock service = false) (created : service < view.serviceCount) :
    LockCounts { view with operationLock := Function.update view.operationLock service true }
      (insideOperation service + locks) := by
  refine ⟨?_, flag_set counts.operations clear, ?_, ?_⟩
  · intro dev
    exact (Nat.zero_add _).trans (counts.services dev)
  · intro dev
    exact (Nat.zero_add _).trans (counts.closers dev)
  · intro other above
    have different : other ≠ service := fun same => Nat.not_lt.mpr above (same ▸ created)
    exact (Function.update_of_ne different _ _).trans (counts.fresh other above)

omit [DecidableEq Dev] in
theorem LockCounts.unlockOperation (counts : LockCounts view (insideOperation service + locks)) :
    LockCounts { view with operationLock := Function.update view.operationLock service false }
      locks := by
  refine ⟨?_, flag_clear counts.operations, ?_, ?_⟩
  · intro dev
    exact (Nat.zero_add _).symm.trans (counts.services dev)
  · intro dev
    exact (Nat.zero_add _).symm.trans (counts.closers dev)
  · intro other above
    by_cases same : other = service
    · subst same
      exact Function.update_self _ _ _
    · exact (Function.update_of_ne same _ _).trans (counts.fresh other above)

theorem LockCounts.startClosing (counts : LockCounts view locks)
    (clear : view.closing dev = false) :
    LockCounts { view with closing := Function.update view.closing dev true }
      (closerOf dev + locks) := by
  refine ⟨?_, ?_, flag_set counts.closers clear, counts.fresh⟩
  · intro dev
    exact (Nat.zero_add _).trans (counts.services dev)
  · intro service
    exact (Nat.zero_add _).trans (counts.operations service)

theorem LockCounts.finishClosing (counts : LockCounts view (closerOf dev + locks)) :
    LockCounts { view with closing := Function.update view.closing dev false } locks := by
  refine ⟨?_, ?_, flag_clear counts.closers, counts.fresh⟩
  · intro dev
    exact (Nat.zero_add _).symm.trans (counts.services dev)
  · intro service
    exact (Nat.zero_add _).symm.trans (counts.operations service)

omit [DecidableEq Dev] in
theorem LockCounts.newService (counts : LockCounts view locks) :
    LockCounts
      { view with
        operationLock := Function.update view.operationLock view.serviceCount false
        serviceCount := view.serviceCount + 1 } locks := by
  have same : Function.update view.operationLock view.serviceCount false = view.operationLock := by
    rw [← counts.fresh view.serviceCount (Nat.le_refl _), Function.update_eq_self]
  refine ⟨counts.services, ?_, counts.closers, ?_⟩
  · simp only [same]
    exact counts.operations
  · intro service above
    simp only [same]
    exact counts.fresh service (Nat.le_of_succ_le above)

end Flags

/-! ### What each thread holds -/

section Threads

variable {Dev : Type} [DecidableEq Dev]

@[simp] def Thread.holds : Thread Dev → Holds Dev
  | .openAddDev _ service | .openPut _ service | .openUndoPut _ service
  | .closeHasService _ service _ | .closeLocked _ service _ | .closePut _ service
  | .findHasService _ _ service _ | .findPut _ _ service none => holdService service
  | .openReferenced dev service | .openLocked dev service | .openUndo dev service =>
      holdRef dev service
  | .closeCalling _ service session | .findPut _ _ service (some session) =>
      holdService service + holdSession session
  -- an unlinked session is held for the list too, until the second put
  | .closeUnlinked dev service session =>
      holdSession session + holdSession session + holdRef dev service + holdService service
  | .closePutOnce dev service session =>
      holdSession session + holdRef dev service + holdService service
  | .closeDel dev service => holdRef dev service + holdService service
  | .closeDelPut _ service => holdService service + holdService service
  | .findUsing _ _ session => holdSession session
  -- the numbers of the sessions that the close thread has closed are its own
  | .fdClosing dev _ service _ closed | .fdPut dev _ service closed => closed • holdRef dev service
  | .fdUnlinked dev _ service session _ closed => holdSession session + closed • holdRef dev service
  | _ => 0

@[simp] def Thread.locks : Thread Dev → Locks Dev
  | .openFindAll dev _ | .openAddDev dev _ | .openUndoPut dev _ => insideServices dev
  | .openLocked _ service | .closeLocked _ service _ | .closeCalling _ service _
  | .closeUnlinked _ service _ | .closePutOnce _ service _ | .closeDel _ service =>
      insideOperation service
  | .closeDelPut dev service => insideServices dev + insideOperation service
  | .fdScan dev _ | .fdLock dev _ _ | .fdPut dev _ _ _ => closerOf dev
  | .fdClosing dev _ service _ _ | .fdUnlinked dev _ service _ _ _ =>
      insideOperation service + closerOf dev
  | _ => 0

@[simp] def Next.holds : Next Dev → Holds Dev
  | .goes thread => thread.holds
  | .returns _ => 0

@[simp] def Next.locks : Next Dev → Locks Dev
  | .goes thread => thread.locks
  | .returns _ => 0

def holdsOf (threads : Multiset (Thread Dev)) : Holds Dev := (threads.map Thread.holds).sum

def locksOf (threads : Multiset (Thread Dev)) : Locks Dev := (threads.map Thread.locks).sum

@[simp] theorem holdsOf_cons (thread : Thread Dev) (rest : Multiset (Thread Dev)) :
    holdsOf (thread ::ₘ rest) = thread.holds + holdsOf rest := by
  simp [holdsOf]

@[simp] theorem locksOf_cons (thread : Thread Dev) (rest : Multiset (Thread Dev)) :
    locksOf (thread ::ₘ rest) = thread.locks + locksOf rest := by
  simp [locksOf]

@[simp] theorem holdsOf_next (next : Next Dev) (rest : Multiset (Thread Dev)) :
    holdsOf (next.threads + rest) = next.holds + holdsOf rest := by
  cases next with
  | goes thread => simp [holdsOf, Next.threads, Next.holds]
  | returns success => simp [holdsOf, Next.threads, Next.holds]

@[simp] theorem locksOf_next (next : Next Dev) (rest : Multiset (Thread Dev)) :
    locksOf (next.threads + rest) = next.locks + locksOf rest := by
  cases next with
  | goes thread => simp [locksOf, Next.threads, Next.locks]
  | returns success => simp [locksOf, Next.threads, Next.locks]

end Threads

end TzDriver.Session
