/-
Services, sessions and dev_file slots (`linux/core/session_manager.c`).

Services and sessions are named by the order of their allocation.  A freed object
keeps its record with `freed` set, and `fault` is raised when a freed object is
read or changed, or when a node that is on no list is unlinked.
-/

import Mathlib.Data.List.FinRange
import TzDriver.Types

namespace TzDriver.Session

def servicesMaxCount : Nat := 32
def maxRefCount : Nat := 255

/-- `struct tc_ns_service`; `operationLock` tells whether its mutex is held. -/
structure Service where
  uuid : Uuid
  usage : Nat
  freed : Bool
  sessionList : List Nat
  operationLock : Bool

/-- `struct tc_ns_session`; `service` is the one whose list it was put on, and
`unlinked` counts the `list_del` calls on it. -/
structure TcNsSession (Dev : Type) where
  sessionId : UInt32
  owner : Option Dev
  service : Nat
  usage : Nat
  freed : Bool
  unlinked : Nat

/-- How far the close of the file has come.  `closing index` means that the close
thread has dropped the references of the slots below `index`. -/
inductive Phase where
  | opened
  | closing (index : Nat)
  | freed
deriving DecidableEq

/-- The slot at `index` still owns its reference. -/
def Phase.live (phase : Phase) (index : Nat) : Bool :=
  match phase with
  | .opened => true
  | .closing next => decide (next ≤ index)
  | .freed => false

/-- The slots of `struct tc_ns_dev_file`. -/
structure DevSlots where
  services : Fin servicesMaxCount → Option Nat
  serviceRef : Fin servicesMaxCount → Nat
  serviceLock : Bool
  phase : Phase

structure Tables (Dev : Type) where
  services : Nat → Service
  serviceCount : Nat
  serviceList : List Nat
  sessions : Nat → TcNsSession Dev
  sessionCount : Nat
  devs : Dev → DevSlots
  fault : Bool

namespace Tables

variable {Dev : Type} [DecidableEq Dev] (tables : Tables Dev)

/-! ### Field updates -/

def setService (service : Nat) (value : Service) : Tables Dev :=
  { tables with services := Function.update tables.services service value }

def setSession (session : Nat) (value : TcNsSession Dev) : Tables Dev :=
  { tables with sessions := Function.update tables.sessions session value }

def setDev (dev : Dev) (value : DevSlots) : Tables Dev :=
  { tables with devs := Function.update tables.devs dev value }

def touchServices (touched : List Nat) : Tables Dev :=
  { tables with fault := tables.fault || touched.any fun service => (tables.services service).freed }

def touchSessions (touched : List Nat) : Tables Dev :=
  { tables with fault := tables.fault || touched.any fun session => (tables.sessions session).freed }

def lockServices (dev : Dev) (held : Bool) : Tables Dev :=
  tables.setDev dev { tables.devs dev with serviceLock := held }

def lockOperation (service : Nat) (held : Bool) : Tables Dev :=
  (tables.touchServices [service]).setService service
    { tables.services service with operationLock := held }

/-! ### Services -/

def getServiceStruct (service : Nat) : Tables Dev :=
  (tables.touchServices [service]).setService service
    { tables.services service with usage := (tables.services service).usage + 1 }

/-- `put_service_struct`: the last reference takes the service off
`g_service_list` and frees it. -/
def putServiceStruct (service : Nat) : Tables Dev :=
  let touched := tables.touchServices [service]
  let usage := (tables.services service).usage - 1
  if usage = 0 then
    { touched.setService service { tables.services service with usage := 0, freed := true } with
      serviceList := tables.serviceList.erase service }
  else touched.setService service { tables.services service with usage := usage }

/-- The services whose uuid the scan of a dev_file's slots compares, up to the
first match. -/
def scanSlots (uuid : Uuid) : List (Option Nat) → List Nat
  | [] => []
  | none :: rest => scanSlots uuid rest
  | some service :: rest =>
      if (tables.services service).uuid = uuid then [service]
      else service :: scanSlots uuid rest

def slotList (dev : Dev) : List (Option Nat) :=
  (List.finRange servicesMaxCount).map (tables.devs dev).services

def findSlot (dev : Dev) (uuid : Uuid) : Option (Fin servicesMaxCount × Nat) :=
  (List.finRange servicesMaxCount).findSome? fun index =>
    match (tables.devs dev).services index with
    | none => none
    | some service =>
        if (tables.services service).uuid = uuid then some (index, service) else none

/-- `tc_find_service_in_dev`, with the reads it makes. -/
def tcFindServiceInDev (dev : Dev) (uuid : Uuid) : Tables Dev × Option Nat :=
  (tables.touchServices (tables.scanSlots uuid (tables.slotList dev)),
    (tables.findSlot dev uuid).map Prod.snd)

inductive RefResult where
  | found (service : Nat)
  | full
  | missing

def tcRefServiceInDev (dev : Dev) (uuid : Uuid) : Tables Dev × RefResult :=
  let touched := tables.touchServices (tables.scanSlots uuid (tables.slotList dev))
  match tables.findSlot dev uuid with
  | none => (touched, .missing)
  | some (index, service) =>
      let slots := tables.devs dev
      if slots.serviceRef index = maxRefCount then (touched, .full)
      else
        (touched.setDev dev
          { slots with serviceRef :=
              Function.update slots.serviceRef index ((slots.serviceRef index + 1) % 256) },
          .found service)

def tcFindServiceFromAll (uuid : Uuid) : Option Nat :=
  tables.serviceList.find? fun service => (tables.services service).uuid = uuid

def tcNsServiceInit (uuid : Uuid) : Tables Dev × Nat :=
  let service := tables.serviceCount
  ({ tables.setService service
      { uuid := uuid, usage := 1, freed := false, sessionList := [], operationLock := false } with
      serviceCount := service + 1
      serviceList := tables.serviceList ++ [service] },
    service)

/-- `add_service_to_dev`; `none` when no slot is free. -/
def addServiceToDev (dev : Dev) (service : Nat) : Option (Tables Dev) :=
  let slots := tables.devs dev
  ((List.finRange servicesMaxCount).find? fun index => (slots.services index).isNone).map
    fun index =>
      tables.setDev dev
        { slots with
          services := Function.update slots.services index (some service)
          serviceRef := Function.update slots.serviceRef index 1 }

/-- `del_service_from_dev` up to its `put_service_struct`; the flag tells that the
put follows. -/
def delServiceFromDev (dev : Dev) (service : Nat) : Tables Dev × Bool :=
  let slots := tables.devs dev
  match (List.finRange servicesMaxCount).find? fun index =>
      slots.services index == some service with
  | none => (tables, false)
  | some index =>
      if slots.serviceRef index = 0 then (tables, false)
      else if slots.serviceRef index - 1 = 0 then
        (tables.setDev dev
          { slots with
            services := Function.update slots.services index none
            serviceRef := Function.update slots.serviceRef index 0 },
          true)
      else
        (tables.setDev dev
          { slots with serviceRef :=
              Function.update slots.serviceRef index (slots.serviceRef index - 1) },
          false)

/-! ### Sessions -/

def tcFindSessionWithowner (service : Nat) (sessionId : UInt32) (dev : Dev) : Option Nat :=
  (tables.services service).sessionList.find? fun session =>
    (tables.sessions session).sessionId = sessionId ∧ (tables.sessions session).owner = some dev

def getSessionStruct (session : Nat) : Tables Dev :=
  (tables.touchSessions [session]).setSession session
    { tables.sessions session with usage := (tables.sessions session).usage + 1 }

def putSessionStruct (session : Nat) : Tables Dev :=
  let usage := (tables.sessions session).usage - 1
  (tables.touchSessions [session]).setSession session
    { tables.sessions session with
      usage := usage
      freed := (tables.sessions session).freed || usage == 0 }

/-- `get_session`: the lookup reads every session on the list. -/
def getSession (service : Nat) (sessionId : UInt32) (dev : Dev) : Tables Dev × Option Nat :=
  let touched := (tables.touchServices [service]).touchSessions
    (tables.services service).sessionList
  match tables.tcFindSessionWithowner service sessionId dev with
  | none => (touched, none)
  | some session => (touched.getSessionStruct session, some session)

def initNewSessNode (dev : Dev) (service : Nat) (sessionId : UInt32) : Tables Dev :=
  let session := tables.sessionCount
  let added := (tables.touchServices [service]).setSession session
    { sessionId := sessionId, owner := some dev, service := service, usage := 1
      freed := false, unlinked := 0 }
  { added.setService service
      { tables.services service with
        sessionList := (tables.services service).sessionList ++ [session] } with
    sessionCount := session + 1 }

/-- `list_del(&session->head)` under `session_lock`. -/
def unlinkSession (service session : Nat) : Tables Dev :=
  let list := (tables.services service).sessionList
  let touched := (tables.touchServices [service]).touchSessions [session]
  { (touched.setSession session
      { tables.sessions session with unlinked := (tables.sessions session).unlinked + 1 }).setService
      service { tables.services service with sessionList := list.erase session } with
    fault := touched.fault || !list.contains session }

def setPhase (dev : Dev) (phase : Phase) : Tables Dev :=
  tables.setDev dev { tables.devs dev with phase := phase }

end Tables

end TzDriver.Session
