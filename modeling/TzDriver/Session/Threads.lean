/-
The threads that open, use and close sessions, critical section by critical
section (`linux/core/session_manager.c`, `tc_notify_timer_fn`).

A step is one critical section; a mutex that is taken in one step and given back
in a later one is a flag of the tables, and giving it back goes with the step
before it.  What the TEE answers and which allocations fail is the `Choice` of a
step.
-/

import TzDriver.Lib.Runs
import TzDriver.Session.Tables

namespace TzDriver.Session

open TzDriver.Lib

/-- A lookup made by an ioctl (`tc_ns_send_cmd`) or for a notification
(`find_notify_sess`, `tc_find_session_by_uuid`). -/
inductive Finder where
  | ioctl
  | notify
deriving DecidableEq

inductive Thread (Dev : Type) where
  -- `tc_ns_open_session` and `find_service`
  | openStart (dev : Dev) (uuid : Uuid)
  | openFindAll (dev : Dev) (uuid : Uuid)
  | openAddDev (dev : Dev) (service : Nat)
  | openPut (dev : Dev) (service : Nat)
  | openReferenced (dev : Dev) (service : Nat)
  | openLocked (dev : Dev) (service : Nat)
  | openUndo (dev : Dev) (service : Nat)
  | openUndoPut (dev : Dev) (service : Nat)
  -- `tc_ns_close_session`
  | closeStart (dev : Dev) (uuid : Uuid) (sessionId : UInt32)
  | closeHasService (dev : Dev) (service : Nat) (sessionId : UInt32)
  | closeLocked (dev : Dev) (service : Nat) (sessionId : UInt32)
  | closeCalling (dev : Dev) (service session : Nat)
  | closeUnlinked (dev : Dev) (service session : Nat)
  | closePutOnce (dev : Dev) (service session : Nat)
  | closeDel (dev : Dev) (service : Nat)
  | closeDelPut (dev : Dev) (service : Nat)
  | closePut (dev : Dev) (service : Nat)
  -- `tc_ns_send_cmd` and the notification lookups
  | findStart (finder : Finder) (dev : Dev) (uuid : Uuid) (sessionId : UInt32)
  | findHasService (finder : Finder) (dev : Dev) (service : Nat) (sessionId : UInt32)
  | findPut (finder : Finder) (dev : Dev) (service : Nat) (session : Option Nat)
  | findUsing (finder : Finder) (dev : Dev) (session : Nat)
  -- `close_session_thread_fn`
  | fdScan (dev : Dev) (index : Nat)
  | fdLock (dev : Dev) (index service : Nat)
  | fdClosing (dev : Dev) (index service : Nat) (remaining : List Nat) (closed : Nat)
  | fdUnlinked (dev : Dev) (index service session : Nat) (remaining : List Nat) (closed : Nat)
  | fdPut (dev : Dev) (index service closed : Nat)
deriving DecidableEq

/-- What a step takes from outside: whether the allocation, the hash or the TEE
call at hand succeeds, and the session id of a successful open. -/
structure Choice where
  succeeds : Bool
  sessionId : UInt32

/-- What is left of a thread after a step. -/
inductive Next (Dev : Type) where
  | goes (thread : Thread Dev)
  | returns (success : Bool)

section Steps

variable {Dev : Type} [DecidableEq Dev] (tables : Tables Dev)

/-! ### `tc_ns_open_session` and `find_service` -/

def openStartSection (dev : Dev) (uuid : Uuid) : Option (Tables Dev × Next Dev) :=
  if (tables.devs dev).serviceLock then none
  else
    match tables.tcRefServiceInDev dev uuid with
    | (after, .found service) => some (after, .goes (.openReferenced dev service))
    | (after, .full) => some (after, .returns false)
    | (after, .missing) => some (after.lockServices dev true, .goes (.openFindAll dev uuid))

/-- Under `g_service_list_lock`, with `service_lock` still held. -/
def openFindAllSection (choice : Choice) (dev : Dev) (uuid : Uuid) :
    Option (Tables Dev × Next Dev) :=
  let touched := tables.touchServices tables.serviceList
  match tables.tcFindServiceFromAll uuid with
  | some service => some (touched.getServiceStruct service, .goes (.openAddDev dev service))
  | none =>
      if choice.succeeds then
        let (after, service) := touched.tcNsServiceInit uuid
        some (after, .goes (.openAddDev dev service))
      else some (touched.lockServices dev false, .returns false)

def openAddDevSection (dev : Dev) (service : Nat) : Option (Tables Dev × Next Dev) :=
  match tables.addServiceToDev dev service with
  | some after => some (after.lockServices dev false, .goes (.openReferenced dev service))
  | none => some (tables.lockServices dev false, .goes (.openPut dev service))

/-- The session allocation and the client hash come before the operation lock. -/
def openReferencedSection (choice : Choice) (dev : Dev) (service : Nat) :
    Option (Tables Dev × Next Dev) :=
  if choice.succeeds then
    if (tables.services service).operationLock then none
    else some (tables.lockOperation service true, .goes (.openLocked dev service))
  else some (tables, .goes (.openUndo dev service))

def openLockedSection (choice : Choice) (dev : Dev) (service : Nat) :
    Option (Tables Dev × Next Dev) :=
  if choice.succeeds then
    some ((tables.initNewSessNode dev service choice.sessionId).lockOperation service false,
      .returns true)
  else some (tables.lockOperation service false, .goes (.openUndo dev service))

def openUndoSection (dev : Dev) (service : Nat) : Option (Tables Dev × Next Dev) :=
  if (tables.devs dev).serviceLock then none
  else
    match tables.delServiceFromDev dev service with
    | (after, true) => some (after.lockServices dev true, .goes (.openUndoPut dev service))
    | (after, false) => some (after, .returns false)

/-! ### `tc_ns_close_session` -/

def closeStartSection (dev : Dev) (uuid : Uuid) (sessionId : UInt32) :
    Option (Tables Dev × Next Dev) :=
  if (tables.devs dev).serviceLock then none
  else
    match tables.tcFindServiceInDev dev uuid with
    | (after, none) => some (after, .returns false)
    | (after, some service) =>
        some (after.getServiceStruct service, .goes (.closeHasService dev service sessionId))

def closeHasServiceSection (dev : Dev) (service : Nat) (sessionId : UInt32) :
    Option (Tables Dev × Next Dev) :=
  if (tables.services service).operationLock then none
  else some (tables.lockOperation service true, .goes (.closeLocked dev service sessionId))

def closeLockedSection (dev : Dev) (service : Nat) (sessionId : UInt32) :
    Option (Tables Dev × Next Dev) :=
  match tables.getSession service sessionId dev with
  | (after, none) => some (after.lockOperation service false, .goes (.closePut dev service))
  | (after, some session) => some (after, .goes (.closeCalling dev service session))

def closeDelSection (dev : Dev) (service : Nat) : Option (Tables Dev × Next Dev) :=
  if (tables.devs dev).serviceLock then none
  else
    match tables.delServiceFromDev dev service with
    | (after, true) => some (after.lockServices dev true, .goes (.closeDelPut dev service))
    | (after, false) => some (after.lockOperation service false, .goes (.closePut dev service))

/-! ### Lookups of sends and notifications -/

/-- A notification looks the file up in the dev_file list first. -/
def findStartSection (finder : Finder) (dev : Dev) (uuid : Uuid) (sessionId : UInt32) :
    Option (Tables Dev × Next Dev) :=
  if finder = .notify ∧ (tables.devs dev).phase = .freed then some (tables, .returns false)
  else if (tables.devs dev).serviceLock then none
  else
    match tables.tcFindServiceInDev dev uuid with
    | (after, none) => some (after, .returns false)
    | (after, some service) =>
        some (after.getServiceStruct service, .goes (.findHasService finder dev service sessionId))

def findHasServiceSection (finder : Finder) (dev : Dev) (service : Nat) (sessionId : UInt32) :
    Option (Tables Dev × Next Dev) :=
  let (after, session) := tables.getSession service sessionId dev
  some (after, .goes (.findPut finder dev service session))

def findPutSection (finder : Finder) (dev : Dev) (service : Nat) (session : Option Nat) :
    Option (Tables Dev × Next Dev) :=
  match session with
  | none => some (tables.putServiceStruct service, .returns false)
  | some session => some (tables.putServiceStruct service, .goes (.findUsing finder dev session))

/-! ### `close_session_thread_fn`

The session list cannot change under `operation_lock`, so the loop runs over the
list it starts with; `closed` is the number of sessions that it has closed, which
nothing reads. -/

def fdScanSection (dev : Dev) (index : Nat) : Option (Tables Dev × Next Dev) :=
  if inRange : index < servicesMaxCount then
    match (tables.devs dev).services ⟨index, inRange⟩ with
    | none => some (tables.setPhase dev (.closing (index + 1)), .goes (.fdScan dev (index + 1)))
    | some service =>
        let touched := tables.touchServices [service]
        if (tables.services service).sessionList = [] then
          some (touched.setPhase dev (.closing (index + 1)), .goes (.fdScan dev (index + 1)))
        else some (touched, .goes (.fdLock dev index service))
  else some (tables.setPhase dev .freed, .returns true)

def fdLockSection (dev : Dev) (index service : Nat) : Option (Tables Dev × Next Dev) :=
  if (tables.services service).operationLock then none
  else
    some (tables.lockOperation service true,
      .goes (.fdClosing dev index service (tables.services service).sessionList 0))

def fdClosingSection (dev : Dev) (index service : Nat) (remaining : List Nat) (closed : Nat) :
    Option (Tables Dev × Next Dev) :=
  match remaining with
  | [] => some (tables.lockOperation service false, .goes (.fdPut dev index service closed))
  | session :: rest =>
      if (tables.sessions session).owner = some dev then
        some (tables.unlinkSession service session,
          .goes (.fdUnlinked dev index service session rest (closed + 1)))
      else some (tables.touchSessions [session], .goes (.fdClosing dev index service rest closed))

/-- One section of a thread; `none` when it has to wait for a mutex. -/
def stepThread (choice : Choice) : Thread Dev → Option (Tables Dev × Next Dev)
  | .openStart dev uuid => openStartSection tables dev uuid
  | .openFindAll dev uuid => openFindAllSection tables choice dev uuid
  | .openAddDev dev service => openAddDevSection tables dev service
  | .openPut _ service => some (tables.putServiceStruct service, .returns false)
  | .openReferenced dev service => openReferencedSection tables choice dev service
  | .openLocked dev service => openLockedSection tables choice dev service
  | .openUndo dev service => openUndoSection tables dev service
  | .openUndoPut dev service =>
      some ((tables.putServiceStruct service).lockServices dev false, .returns false)
  | .closeStart dev uuid sessionId => closeStartSection tables dev uuid sessionId
  | .closeHasService dev service sessionId => closeHasServiceSection tables dev service sessionId
  | .closeLocked dev service sessionId => closeLockedSection tables dev service sessionId
  | .closeCalling dev service session =>
      -- the result of the TEE request does not matter
      some (tables.unlinkSession service session, .goes (.closeUnlinked dev service session))
  | .closeUnlinked dev service session =>
      some (tables.putSessionStruct session, .goes (.closePutOnce dev service session))
  | .closePutOnce dev service session =>
      some (tables.putSessionStruct session, .goes (.closeDel dev service))
  | .closeDel dev service => closeDelSection tables dev service
  | .closeDelPut dev service =>
      some (((tables.putServiceStruct service).lockServices dev false).lockOperation service false,
        .goes (.closePut dev service))
  | .closePut _ service => some (tables.putServiceStruct service, .returns true)
  | .findStart finder dev uuid sessionId => findStartSection tables finder dev uuid sessionId
  | .findHasService finder dev service sessionId =>
      findHasServiceSection tables finder dev service sessionId
  | .findPut finder dev service session => findPutSection tables finder dev service session
  | .findUsing _ _ session => some (tables.putSessionStruct session, .returns true)
  | .fdScan dev index => fdScanSection tables dev index
  | .fdLock dev index service => fdLockSection tables dev index service
  | .fdClosing dev index service remaining closed =>
      fdClosingSection tables dev index service remaining closed
  | .fdUnlinked dev index service session remaining closed =>
      some (tables.putSessionStruct session, .goes (.fdClosing dev index service remaining closed))
  | .fdPut dev index service _ =>
      some ((tables.putServiceStruct service).setPhase dev (.closing (index + 1)),
        .goes (.fdScan dev (index + 1)))

end Steps

/-! ### The system -/

/-- The dev_file whose ioctl the thread runs.  The kernel closes a file only after
its last ioctl has returned. -/
def Thread.ioctlDev {Dev : Type} : Thread Dev → Option Dev
  | .openStart dev _ | .openFindAll dev _ | .openAddDev dev _ | .openPut dev _
  | .openReferenced dev _ | .openLocked dev _ | .openUndo dev _ | .openUndoPut dev _
  | .closeStart dev _ _ | .closeHasService dev _ _ | .closeLocked dev _ _
  | .closeCalling dev _ _ | .closeUnlinked dev _ _ | .closePutOnce dev _ _ | .closeDel dev _
  | .closeDelPut dev _ | .closePut dev _
  | .findStart .ioctl dev _ _ | .findHasService .ioctl dev _ _ | .findPut .ioctl dev _ _
  | .findUsing .ioctl dev _ => some dev
  | _ => none

structure World (Dev : Type) where
  tables : Tables Dev
  threads : Multiset (Thread Dev)

inductive Start (Dev : Type) where
  | openSession (dev : Dev) (uuid : Uuid)
  | closeSession (dev : Dev) (uuid : Uuid) (sessionId : UInt32)
  | sendCmd (dev : Dev) (uuid : Uuid) (sessionId : UInt32)
  | notify (dev : Dev) (uuid : Uuid) (sessionId : UInt32)

def Start.dev {Dev : Type} : Start Dev → Dev
  | .openSession dev _ | .closeSession dev _ _ | .sendCmd dev _ _ | .notify dev _ _ => dev

def Start.thread {Dev : Type} : Start Dev → Thread Dev
  | .openSession dev uuid => .openStart dev uuid
  | .closeSession dev uuid sessionId => .closeStart dev uuid sessionId
  | .sendCmd dev uuid sessionId => .findStart .ioctl dev uuid sessionId
  | .notify dev uuid sessionId => .findStart .notify dev uuid sessionId

inductive Label (Dev : Type) where
  | start (call : Start Dev)
  | closeFd (dev : Dev)
  | run (thread : Thread Dev) (choice : Choice)

def Next.threads {Dev : Type} : Next Dev → Multiset (Thread Dev)
  | .goes thread => {thread}
  | .returns _ => 0

section System

variable {Dev : Type} [DecidableEq Dev]

inductive World.Step : World Dev → Label Dev → World Dev → Prop where
  | ioctl {world : World Dev} {call : Start Dev}
      (file : (world.tables.devs call.dev).phase = .opened) :
      World.Step world (.start call) ⟨world.tables, call.thread ::ₘ world.threads⟩
  | notify {world : World Dev} {dev : Dev} {uuid : Uuid} {sessionId : UInt32} :
      World.Step world (.start (.notify dev uuid sessionId))
        ⟨world.tables, .findStart .notify dev uuid sessionId ::ₘ world.threads⟩
  | closeFd {world : World Dev} {dev : Dev}
      (file : (world.tables.devs dev).phase = .opened)
      (returned : ∀ thread ∈ world.threads, thread.ioctlDev ≠ some dev) :
      World.Step world (.closeFd dev)
        ⟨world.tables.setPhase dev (.closing 0), .fdScan dev 0 ::ₘ world.threads⟩
  | run {tables after : Tables Dev} {thread : Thread Dev} {rest : Multiset (Thread Dev)}
      {choice : Choice} {next : Next Dev}
      (ran : stepThread tables choice thread = some (after, next)) :
      World.Step ⟨tables, thread ::ₘ rest⟩ (.run thread choice) ⟨after, next.threads + rest⟩

def Tables.initial : Tables Dev :=
  { services := fun _ =>
      { uuid := 0#128, usage := 0, freed := false, sessionList := [], operationLock := false }
    serviceCount := 0
    serviceList := []
    sessions := fun _ =>
      { sessionId := 0, owner := none, service := 0, usage := 0, freed := false, unlinked := 0 }
    sessionCount := 0
    devs := fun _ =>
      { services := fun _ => none, serviceRef := fun _ => 0, serviceLock := false
        phase := .opened }
    fault := false }

def sessionMachine : Machine (World Dev) (Label Dev) :=
  { init := fun world => world = ⟨Tables.initial, 0⟩
    step := World.Step }

end System

end TzDriver.Session
