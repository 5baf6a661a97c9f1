/-
The tables refine the book: each function on the tables is one operation of the
book, and locks and the fault flag are no part of it.
-/

import TzDriver.Session.Moves

namespace TzDriver.Session

namespace Tables

variable {Dev : Type}

def book (tables : Tables Dev) : Book Dev :=
  { usage := fun service => (tables.services service).usage
    uuid := fun service => (tables.services service).uuid
    freed := fun service => (tables.services service).freed
    serviceCount := tables.serviceCount
    serviceList := tables.serviceList
    slot := fun dev => (tables.devs dev).services
    ref := fun dev => (tables.devs dev).serviceRef
    phase := fun dev => (tables.devs dev).phase
    sessionList := fun service => (tables.services service).sessionList
    owner := fun session => (tables.sessions session).owner
    home := fun session => (tables.sessions session).service
    sessionUsage := fun session => (tables.sessions session).usage
    sessionFreed := fun session => (tables.sessions session).freed
    unlinked := fun session => (tables.sessions session).unlinked
    sessionCount := tables.sessionCount }

theorem field_update {Index Row Field : Type} [DecidableEq Index] (field : Row → Field)
    (table : Index → Row) (at_ : Index) (row : Row) :
    (fun index => field (Function.update table at_ row index)) =
      Function.update (fun index => field (table index)) at_ (field row) := by
  funext index
  by_cases same : index = at_
  · subst same
    rw [Function.update_self, Function.update_self]
  · rw [Function.update_of_ne same, Function.update_of_ne same]

section Updates

variable (tables : Tables Dev)

@[simp] theorem book_touchServices (touched : List Nat) :
    (tables.touchServices touched).book = tables.book := rfl

@[simp] theorem book_touchSessions (touched : List Nat) :
    (tables.touchSessions touched).book = tables.book := rfl

@[simp] theorem book_lockServices [DecidableEq Dev] (dev : Dev) (held : Bool) :
    (tables.lockServices dev held).book = tables.book := by
  simp [book, lockServices, setDev, field_update]

@[simp] theorem book_lockOperation (service : Nat) (held : Bool) :
    (tables.lockOperation service held).book = tables.book := by
  simp [book, lockOperation, setService, touchServices, field_update]

@[simp] theorem book_setPhase [DecidableEq Dev] (dev : Dev) (phase : Phase) :
    (tables.setPhase dev phase).book = tables.book.setPhase dev phase := by
  simp [book, setPhase, setDev, field_update, Book.setPhase]

@[simp] theorem book_getServiceStruct (service : Nat) :
    (tables.getServiceStruct service).book = tables.book.getService service := by
  simp [book, getServiceStruct, setService, touchServices, field_update, Book.getService]

@[simp] theorem book_putServiceStruct (service : Nat) :
    (tables.putServiceStruct service).book = tables.book.putService service := by
  have same : tables.book.usage service = (tables.services service).usage := rfl
  unfold putServiceStruct Book.putService
  rw [same]
  simp only
  split
  · simp [book, setService, touchServices, field_update]
  · simp [book, setService, touchServices, field_update]

theorem book_tcNsServiceInit (uuid : Uuid) :
    (tables.tcNsServiceInit uuid).1.book = tables.book.newService uuid := by
  simp [book, tcNsServiceInit, setService, field_update, Book.newService]

@[simp] theorem book_initNewSessNode (dev : Dev) (service : Nat) (sessionId : UInt32) :
    (tables.initNewSessNode dev service sessionId).book = tables.book.publish dev service := by
  simp [book, initNewSessNode, setService, setSession, touchServices, field_update, Book.publish]

@[simp] theorem book_getSessionStruct (session : Nat) :
    (tables.getSessionStruct session).book = tables.book.getSession session := by
  simp [book, getSessionStruct, setSession, touchSessions, field_update, Book.getSession]

@[simp] theorem book_putSessionStruct (session : Nat) :
    (tables.putSessionStruct session).book = tables.book.putSession session := by
  simp [book, putSessionStruct, setSession, touchSessions, field_update, Book.putSession]

@[simp] theorem book_unlinkSession (service session : Nat) :
    (tables.unlinkSession service session).book = tables.book.unlink service session := by
  simp [book, unlinkSession, setService, setSession, touchServices, touchSessions, field_update,
    Book.unlink]

end Updates

end Tables

/-! ### The counters after a put -/

theorem Book.usage_putService {Dev : Type} (book : Book Dev) (service : Nat) :
    (book.putService service).usage =
      Function.update book.usage service (book.usage service - 1) := by
  rw [Book.putService]
  split
  · next last => rw [last]
  · rfl

theorem Book.sessionUsage_putService {Dev : Type} (book : Book Dev) (service : Nat) :
    (book.putService service).sessionUsage = book.sessionUsage := by
  rw [Book.putService]
  split <;> rfl

theorem Book.sessionList_putService {Dev : Type} (book : Book Dev) (service : Nat) :
    (book.putService service).sessionList = book.sessionList := by
  rw [Book.putService]
  split <;> rfl

end TzDriver.Session
