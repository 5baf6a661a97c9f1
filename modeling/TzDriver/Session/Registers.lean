/-
The session lists with the ids and owners of their sessions, and what one section
does to them.
-/

import TzDriver.Session.Requests

namespace TzDriver.Session

/-- The session lists with the ids and owners of the sessions. -/
structure Registers (Dev : Type) where
  list : Nat → List Nat
  ids : Nat → UInt32
  owner : Nat → Option Dev
  count : Nat

namespace Registers

variable {Dev : Type} (registers : Registers Dev)

def link (dev : Dev) (service : Nat) (sessionId : UInt32) : Registers Dev :=
  { list := Function.update registers.list service (registers.list service ++ [registers.count])
    ids := Function.update registers.ids registers.count sessionId
    owner := Function.update registers.owner registers.count (some dev)
    count := registers.count + 1 }

def unlink (service session : Nat) : Registers Dev :=
  { registers with
    list := Function.update registers.list service ((registers.list service).erase session) }

end Registers

namespace Tables

variable {Dev : Type} (tables : Tables Dev)

def registers : Registers Dev :=
  { list := tables.book.sessionList
    ids := tables.sessionIds
    owner := tables.book.owner
    count := tables.book.sessionCount }

@[simp] theorem registers_touchServices (touched : List Nat) :
    (tables.touchServices touched).registers = tables.registers := rfl

@[simp] theorem registers_touchSessions (touched : List Nat) :
    (tables.touchSessions touched).registers = tables.registers := rfl

@[simp] theorem registers_lockServices [DecidableEq Dev] (dev : Dev) (held : Bool) :
    (tables.lockServices dev held).registers = tables.registers := rfl

@[simp] theorem registers_setPhase [DecidableEq Dev] (dev : Dev) (phase : Phase) :
    (tables.setPhase dev phase).registers = tables.registers := rfl

@[simp] theorem registers_lockOperation (service : Nat) (held : Bool) :
    (tables.lockOperation service held).registers = tables.registers := by
  simp only [registers, book_lockOperation]
  rfl

@[simp] theorem registers_getServiceStruct (service : Nat) :
    (tables.getServiceStruct service).registers = tables.registers := by
  simp only [registers, book_getServiceStruct]
  rfl

@[simp] theorem registers_putServiceStruct (service : Nat) :
    (tables.putServiceStruct service).registers = tables.registers := by
  simp only [registers, book_putServiceStruct, sessionIds_putServiceStruct, Book.putService]
  split
  · rfl
  · rfl

@[simp] theorem registers_getSessionStruct (session : Nat) :
    (tables.getSessionStruct session).registers = tables.registers := by
  simp only [registers, book_getSessionStruct, sessionIds_getSessionStruct]
  rfl

@[simp] theorem registers_putSessionStruct (session : Nat) :
    (tables.putSessionStruct session).registers = tables.registers := by
  simp only [registers, book_putSessionStruct, sessionIds_putSessionStruct]
  rfl

@[simp] theorem registers_initNewSessNode (dev : Dev) (service : Nat) (sessionId : UInt32) :
    (tables.initNewSessNode dev service sessionId).registers =
      tables.registers.link dev service sessionId := by
  simp only [registers, book_initNewSessNode, sessionIds_initNewSessNode]
  rfl

@[simp] theorem registers_unlinkSession (service session : Nat) :
    (tables.unlinkSession service session).registers = tables.registers.unlink service session := by
  simp only [registers, book_unlinkSession, sessionIds_unlinkSession]
  rfl

theorem registers_tcNsServiceInit (uuid : Uuid)
    (fresh : tables.book.sessionList tables.serviceCount = []) :
    (tables.tcNsServiceInit uuid).1.registers = tables.registers := by
  have list : (tables.book.newService uuid).sessionList = tables.book.sessionList := by
    change Function.update tables.book.sessionList tables.serviceCount [] = _
    rw [← fresh, Function.update_eq_self]
  simp only [registers, book_tcNsServiceInit, list]
  rfl

@[simp] theorem registers_tcFindServiceInDev (dev : Dev) (uuid : Uuid) :
    (tables.tcFindServiceInDev dev uuid).1.registers = tables.registers := rfl

section Functions

variable [DecidableEq Dev]

@[simp] theorem registers_tcRefServiceInDev (dev : Dev) (uuid : Uuid) :
    (tables.tcRefServiceInDev dev uuid).1.registers = tables.registers := by
  simp only [tcRefServiceInDev]
  split
  · rfl
  · split
    · rfl
    · rfl

theorem registers_addServiceToDev {dev : Dev} {service : Nat} {after : Tables Dev}
    (added : tables.addServiceToDev dev service = some after) :
    after.registers = tables.registers := by
  obtain ⟨index, _, rfl⟩ := Option.map_eq_some_iff.mp added
  rfl

@[simp] theorem registers_delServiceFromDev (dev : Dev) (service : Nat) :
    (tables.delServiceFromDev dev service).1.registers = tables.registers := by
  simp only [delServiceFromDev]
  split
  · rfl
  · split
    · rfl
    · split
      · rfl
      · rfl

@[simp] theorem registers_getSession (service : Nat) (sessionId : UInt32) (dev : Dev) :
    (tables.getSession service sessionId dev).1.registers = tables.registers := by
  unfold getSession
  split
  · simp
  · simp

end Functions

end Tables

/-! ### The sections -/

section Sections

variable {Dev : Type} [DecidableEq Dev] {tables after : Tables Dev} {choice : Choice} {dev : Dev}
  {uuid : Uuid} {service index : Nat} {sessionId : UInt32} {next : Next Dev}

theorem openStartSection_registers
    (ran : openStartSection tables dev uuid = some (after, next)) :
    after.registers = tables.registers := by
  have kept := tables.registers_tcRefServiceInDev dev uuid
  rw [openStartSection] at ran
  split at ran
  · cases ran
  · split at ran
    all_goals
      next found =>
        rw [found] at kept
        cases ran
        exact kept

theorem openFindAllSection_registers (fresh : tables.book.sessionList tables.serviceCount = [])
    (ran : openFindAllSection tables choice dev uuid = some (after, next)) :
    after.registers = tables.registers := by
  simp only [openFindAllSection] at ran
  split at ran
  · cases ran
    simp
  · split at ran
    · cases ran
      exact Tables.registers_tcNsServiceInit _ uuid fresh
    · cases ran
      rfl

theorem openAddDevSection_registers
    (ran : openAddDevSection tables dev service = some (after, next)) :
    after.registers = tables.registers := by
  rw [openAddDevSection] at ran
  split at ran
  · next added =>
      cases ran
      rw [Tables.registers_lockServices]
      exact tables.registers_addServiceToDev added
  · cases ran
    rfl

omit [DecidableEq Dev] in
theorem openReferencedSection_registers
    (ran : openReferencedSection tables choice dev service = some (after, next)) :
    after.registers = tables.registers := by
  rw [openReferencedSection] at ran
  split at ran
  · split at ran
    · cases ran
    · cases ran
      simp
  · cases ran
    rfl

theorem openUndoSection_registers
    (ran : openUndoSection tables dev service = some (after, next)) :
    after.registers = tables.registers := by
  have kept := tables.registers_delServiceFromDev dev service
  rw [openUndoSection] at ran
  split at ran
  · cases ran
  · split at ran
    all_goals
      next found =>
        rw [found] at kept
        cases ran
        exact kept

omit [DecidableEq Dev] in
theorem closeStartSection_registers
    (ran : closeStartSection tables dev uuid sessionId = some (after, next)) :
    after.registers = tables.registers := by
  have kept := tables.registers_tcFindServiceInDev dev uuid
  rw [closeStartSection] at ran
  split at ran
  · cases ran
  · split at ran
    all_goals
      next found =>
        rw [found] at kept
        cases ran
        simpa using kept

omit [DecidableEq Dev] in
theorem closeHasServiceSection_registers
    (ran : closeHasServiceSection tables dev service sessionId = some (after, next)) :
    after.registers = tables.registers := by
  rw [closeHasServiceSection] at ran
  split at ran
  · cases ran
  · cases ran
    simp

theorem closeLockedSection_registers
    (ran : closeLockedSection tables dev service sessionId = some (after, next)) :
    after.registers = tables.registers := by
  have kept := tables.registers_getSession service sessionId dev
  rw [closeLockedSection] at ran
  split at ran
  all_goals
    next found =>
      rw [found] at kept
      cases ran
      simpa using kept

theorem closeDelSection_registers
    (ran : closeDelSection tables dev service = some (after, next)) :
    after.registers = tables.registers := by
  have kept := tables.registers_delServiceFromDev dev service
  rw [closeDelSection] at ran
  split at ran
  · cases ran
  · split at ran
    all_goals
      next found =>
        rw [found] at kept
        cases ran
        simpa using kept

omit [DecidableEq Dev] in
theorem findStartSection_registers {finder : Finder}
    (ran : findStartSection tables finder dev uuid sessionId = some (after, next)) :
    after.registers = tables.registers := by
  have kept := tables.registers_tcFindServiceInDev dev uuid
  rw [findStartSection] at ran
  split at ran
  · cases ran
    rfl
  · split at ran
    · cases ran
    · split at ran
      all_goals
        next found =>
          rw [found] at kept
          cases ran
          simpa using kept

theorem fdScanSection_registers (ran : fdScanSection tables dev index = some (after, next)) :
    after.registers = tables.registers := by
  simp only [fdScanSection] at ran
  split at ran
  · split at ran
    · cases ran
      rfl
    · split at ran
      · cases ran
        rfl
      · cases ran
        rfl
  · cases ran
    rfl

omit [DecidableEq Dev] in
theorem fdLockSection_registers (ran : fdLockSection tables dev index service = some (after, next)) :
    after.registers = tables.registers := by
  rw [fdLockSection] at ran
  split at ran
  · cases ran
  · cases ran
    simp

end Sections

section Effects

variable {Dev : Type} [DecidableEq Dev]

/-- Only an open that succeeds adds to a list, and only a close takes from one. -/
inductive Effect (tables : Tables Dev) (choice : Choice) (thread : Thread Dev)
    (after : Tables Dev) : Prop where
  | same (kept : after.registers = tables.registers)
  | links (dev : Dev) (service : Nat) (here : thread = .openLocked dev service)
      (works : choice.succeeds = true)
      (linked : after.registers = tables.registers.link dev service choice.sessionId)
  | unlinks (point : Point Dev) (service session : Nat)
      (closes : thread.closes tables.book.owner = some (point, session))
      (leaves : point.leaves = some (service, session))
      (unlinked : after.registers = tables.registers.unlink service session)

variable {tables after : Tables Dev} {choice : Choice} {next : Next Dev}

theorem openLocked_effect {dev : Dev} {service : Nat}
    (ran : openLockedSection tables choice dev service = some (after, next)) :
    Effect tables choice (.openLocked dev service) after := by
  rw [openLockedSection] at ran
  split at ran
  · next works =>
      cases ran
      exact .links dev service rfl works (by simp)
  · cases ran
    exact .same (by simp)

theorem fdClosing_effect {dev : Dev} {index service count : Nat} {remaining : List Nat}
    (ran : fdClosingSection tables dev index service remaining count = some (after, next)) :
    Effect tables choice (.fdClosing dev index service remaining count) after := by
  cases remaining with
  | nil =>
      cases ran
      exact .same (by simp)
  | cons session rest =>
      simp only [fdClosingSection] at ran
      split at ran
      · next own =>
          cases ran
          exact .unlinks _ service session (if_pos own) rfl (by simp)
      · cases ran
        exact .same rfl

theorem stepThread_effect {thread : Thread Dev}
    (fresh : tables.book.sessionList tables.serviceCount = [])
    (ran : stepThread tables choice thread = some (after, next)) :
    Effect tables choice thread after := by
  cases thread with
  | openStart => exact .same (openStartSection_registers ran)
  | openFindAll => exact .same (openFindAllSection_registers fresh ran)
  | openAddDev => exact .same (openAddDevSection_registers ran)
  | openReferenced => exact .same (openReferencedSection_registers ran)
  | openLocked => exact openLocked_effect ran
  | openUndo => exact .same (openUndoSection_registers ran)
  | closeStart => exact .same (closeStartSection_registers ran)
  | closeHasService => exact .same (closeHasServiceSection_registers ran)
  | closeLocked => exact .same (closeLockedSection_registers ran)
  | closeCalling dev service session =>
      cases ran
      exact .unlinks _ service session rfl rfl (by simp)
  | closeDel => exact .same (closeDelSection_registers ran)
  | findStart => exact .same (findStartSection_registers ran)
  | findHasService finder dev service sessionId =>
      cases ran
      exact .same (tables.registers_getSession service sessionId dev)
  | findPut finder dev service session =>
      cases session with
      | none =>
          cases ran
          exact .same (by simp)
      | some session =>
          cases ran
          exact .same (by simp)
  | fdScan => exact .same (fdScanSection_registers ran)
  | fdLock => exact .same (fdLockSection_registers ran)
  | fdClosing => exact fdClosing_effect ran
  | _ =>
      cases ran
      exact .same (by simp)

end Effects

end TzDriver.Session
