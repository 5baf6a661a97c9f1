/-
The reference counts of services and sessions, without locks and programs.

A book records the counters, the lists and the slots.  What threads hold is a
separate account: references to services, pending or open session numbers in a
dev_file's slot, and references to sessions.  Each operation of the driver moves
the book and the account together.
-/

import Mathlib.Algebra.Group.Prod
import Mathlib.Algebra.Group.Pi.Basic
import Mathlib.Data.Fintype.Prod
import TzDriver.Session.Tables

namespace TzDriver.Session

@[ext] structure Book (Dev : Type) where
  usage : Nat → Nat
  uuid : Nat → Uuid
  freed : Nat → Bool
  serviceCount : Nat
  serviceList : List Nat
  slot : Dev → Fin servicesMaxCount → Option Nat
  ref : Dev → Fin servicesMaxCount → Nat
  phase : Dev → Phase
  sessionList : Nat → List Nat
  owner : Nat → Option Dev
  home : Nat → Nat
  sessionUsage : Nat → Nat
  sessionFreed : Nat → Bool
  unlinked : Nat → Nat
  sessionCount : Nat

/-- What threads hold: services, numbers in slots, sessions. -/
abbrev Holds (Dev : Type) : Type :=
  (Nat → Nat) × (Dev × Nat → Nat) × (Nat → Nat)

section Account

variable {Dev : Type} [DecidableEq Dev]

def holdService (service : Nat) : Holds Dev := (Pi.single service 1, 0, 0)

def holdRef (dev : Dev) (service : Nat) : Holds Dev := (0, Pi.single (dev, service) 1, 0)

def holdSession (session : Nat) : Holds Dev := (0, 0, Pi.single session 1)

end Account

namespace Book

variable {Dev : Type}

section Counts

variable (book : Book Dev)

def owningSlots [Fintype Dev] (service : Nat) : Finset (Dev × Fin servicesMaxCount) :=
  Finset.univ.filter fun place =>
    book.slot place.1 place.2 = some service ∧ (book.phase place.1).live place.2 = true

def slotRefs [Fintype Dev] (service : Nat) : Nat := (book.owningSlots service).card

def sessionsOf [DecidableEq Dev] (dev : Dev) (service : Nat) : Nat :=
  (book.sessionList service).countP fun session => book.owner session = some dev

def Listed (session : Nat) : Prop := session ∈ book.sessionList (book.home session)

instance (session : Nat) : Decidable (book.Listed session) :=
  inferInstanceAs (Decidable (_ ∈ _))

end Counts

/-! ### Operations -/

section Operations

variable (book : Book Dev)

def getService (service : Nat) : Book Dev :=
  { book with usage := Function.update book.usage service (book.usage service + 1) }

def newService (uuid : Uuid) : Book Dev :=
  { book with
    usage := Function.update book.usage book.serviceCount 1
    uuid := Function.update book.uuid book.serviceCount uuid
    freed := Function.update book.freed book.serviceCount false
    sessionList := Function.update book.sessionList book.serviceCount []
    serviceCount := book.serviceCount + 1
    serviceList := book.serviceList ++ [book.serviceCount] }

def putService (service : Nat) : Book Dev :=
  if book.usage service - 1 = 0 then
    { book with
      usage := Function.update book.usage service 0
      freed := Function.update book.freed service true
      serviceList := book.serviceList.erase service }
  else
    { book with usage := Function.update book.usage service (book.usage service - 1) }

def setRef [DecidableEq Dev] (dev : Dev) (index : Fin servicesMaxCount) (count : Nat) : Book Dev :=
  { book with ref := Function.update book.ref dev (Function.update (book.ref dev) index count) }

def setSlot [DecidableEq Dev] (dev : Dev) (index : Fin servicesMaxCount) (service : Option Nat) : Book Dev :=
  { book with slot := Function.update book.slot dev (Function.update (book.slot dev) index service) }

def setPhase [DecidableEq Dev] (dev : Dev) (phase : Phase) : Book Dev :=
  { book with phase := Function.update book.phase dev phase }

def publish (dev : Dev) (service : Nat) : Book Dev :=
  { book with
    owner := Function.update book.owner book.sessionCount (some dev)
    home := Function.update book.home book.sessionCount service
    sessionUsage := Function.update book.sessionUsage book.sessionCount 1
    sessionFreed := Function.update book.sessionFreed book.sessionCount false
    unlinked := Function.update book.unlinked book.sessionCount 0
    sessionList := Function.update book.sessionList service
      (book.sessionList service ++ [book.sessionCount])
    sessionCount := book.sessionCount + 1 }

def getSession (session : Nat) : Book Dev :=
  { book with
    sessionUsage := Function.update book.sessionUsage session (book.sessionUsage session + 1) }

def putSession (session : Nat) : Book Dev :=
  { book with
    sessionUsage := Function.update book.sessionUsage session (book.sessionUsage session - 1)
    sessionFreed := Function.update book.sessionFreed session
      (book.sessionFreed session || book.sessionUsage session - 1 == 0) }

def unlink (service session : Nat) : Book Dev :=
  { book with
    unlinked := Function.update book.unlinked session (book.unlinked session + 1)
    sessionList := Function.update book.sessionList service
      ((book.sessionList service).erase session) }

end Operations

/-! ### The invariants -/

/-- `usage` counts the slots that own a reference and the threads that hold one. -/
structure ServiceCounts [Fintype Dev] (book : Book Dev) (held : Nat → Nat) : Prop where
  usage : ∀ service, book.usage service = book.slotRefs service + held service
  listed : ∀ service, service ∈ book.serviceList ↔ 0 < book.usage service
  listedOnce : book.serviceList.Nodup
  created : ∀ service ∈ book.serviceList, service < book.serviceCount
  freed : ∀ service, book.freed service = true ↔
    service < book.serviceCount ∧ service ∉ book.serviceList
  uuidOnce : ∀ first ∈ book.serviceList, ∀ second ∈ book.serviceList,
    book.uuid first = book.uuid second → first = second

/-- In one dev_file `service_ref` counts the sessions of its slot that are open,
being opened or being closed, and a service with such a session has a slot. -/
structure SlotCounts (slot : Fin servicesMaxCount → Option Nat)
    (ref : Fin servicesMaxCount → Nat) (count : Nat → Nat) : Prop where
  number : ∀ index service, slot index = some service → ref index = count service
  positive : ∀ index service, slot index = some service → 0 < ref index
  bounded : ∀ index, ref index ≤ maxRefCount
  empty : ∀ index, slot index = none → ref index = 0
  placed : ∀ service, 0 < count service → ∃ index, slot index = some service

/-- The sessions of a dev_file on a service, with those that threads hold. -/
def sessionNumber [DecidableEq Dev] (book : Book Dev) (held : Dev × Nat → Nat) (dev : Dev)
    (service : Nat) : Nat :=
  book.sessionsOf dev service + held (dev, service)

structure RefCounts [DecidableEq Dev] (book : Book Dev) (held : Dev × Nat → Nat) : Prop where
  slotOnce : ∀ dev first second service, book.slot dev first = some service →
    book.slot dev second = some service → first = second
  opened : ∀ dev, book.phase dev = .opened →
    SlotCounts (book.slot dev) (book.ref dev) (book.sessionNumber held dev)
  owning : ∀ dev index service, book.slot dev index = some service →
    (book.phase dev).live index = true → book.ref dev index = book.sessionNumber held dev service
  bounded : ∀ dev index, book.ref dev index ≤ maxRefCount

/-- A session is kept alive by its list and by the threads that hold it. -/
structure SessionCounts (book : Book Dev) (held : Nat → Nat) : Prop where
  usage : ∀ session, book.sessionUsage session =
    (if book.Listed session then 1 else 0) + held session
  inList : ∀ service, ∀ session ∈ book.sessionList service,
    book.home session = service ∧ session < book.sessionCount
  once : ∀ service, (book.sessionList service).Nodup
  freed : ∀ session, book.sessionFreed session = true ↔
    session < book.sessionCount ∧ book.sessionUsage session = 0
  unlinked : ∀ session < book.sessionCount,
    book.unlinked session + (if book.Listed session then 1 else 0) = 1
  fresh : ∀ service, book.serviceCount ≤ service → book.sessionList service = []
  unborn : ∀ session, book.sessionCount ≤ session → book.sessionUsage session = 0

structure Counted [Fintype Dev] [DecidableEq Dev] (book : Book Dev) (holds : Holds Dev) : Prop where
  services : ServiceCounts book holds.1
  refs : RefCounts book holds.2.1
  sessions : SessionCounts book holds.2.2

end Book

end TzDriver.Session
