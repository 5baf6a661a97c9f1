/-
What the lookups find and which objects each function touches.

Every function raises `fault` only for a freed object among those it names, so a
section whose objects are in use leaves the flag as it was.
-/

import TzDriver.Session.Locks

namespace TzDriver.Session

namespace Tables

variable {Dev : Type}

/-! ### The fault flag -/

section Faults

variable (tables : Tables Dev)

@[simp] theorem fault_touchServices (touched : List Nat) :
    (tables.touchServices touched).fault = (tables.fault || touched.any tables.book.freed) := rfl

@[simp] theorem fault_touchSessions (touched : List Nat) :
    (tables.touchSessions touched).fault =
      (tables.fault || touched.any tables.book.sessionFreed) := rfl

@[simp] theorem fault_lockServices [DecidableEq Dev] (dev : Dev) (held : Bool) :
    (tables.lockServices dev held).fault = tables.fault := rfl

@[simp] theorem fault_setPhase [DecidableEq Dev] (dev : Dev) (phase : Phase) :
    (tables.setPhase dev phase).fault = tables.fault := rfl

@[simp] theorem fault_lockOperation (service : Nat) (held : Bool) :
    (tables.lockOperation service held).fault = (tables.fault || tables.book.freed service) := by
  simp [lockOperation, setService, touchServices, book]

@[simp] theorem fault_getServiceStruct (service : Nat) :
    (tables.getServiceStruct service).fault = (tables.fault || tables.book.freed service) := by
  simp [getServiceStruct, setService, touchServices, book]

@[simp] theorem fault_putServiceStruct (service : Nat) :
    (tables.putServiceStruct service).fault = (tables.fault || tables.book.freed service) := by
  simp only [putServiceStruct]
  split
  · simp [setService, touchServices, book]
  · simp [setService, touchServices, book]

@[simp] theorem fault_tcNsServiceInit (uuid : Uuid) :
    (tables.tcNsServiceInit uuid).1.fault = tables.fault := rfl

@[simp] theorem fault_initNewSessNode (dev : Dev) (service : Nat) (sessionId : UInt32) :
    (tables.initNewSessNode dev service sessionId).fault =
      (tables.fault || tables.book.freed service) := by
  simp [initNewSessNode, setService, setSession, touchServices, book]

@[simp] theorem fault_getSessionStruct (session : Nat) :
    (tables.getSessionStruct session).fault =
      (tables.fault || tables.book.sessionFreed session) := by
  simp [getSessionStruct, setSession, touchSessions, book]

@[simp] theorem fault_putSessionStruct (session : Nat) :
    (tables.putSessionStruct session).fault =
      (tables.fault || tables.book.sessionFreed session) := by
  simp [putSessionStruct, setSession, touchSessions, book]

@[simp] theorem fault_unlinkSession (service session : Nat) :
    (tables.unlinkSession service session).fault =
      (tables.fault || tables.book.freed service || tables.book.sessionFreed session ||
        !(tables.book.sessionList service).contains session) := by
  simp [unlinkSession, touchServices, touchSessions, book]

end Faults

/-! ### Lookups -/

section Lookups

variable {tables : Tables Dev} {dev : Dev} {uuid : Uuid} {service : Nat}

theorem mem_scanSlots {slots : List (Option Nat)}
    (scanned : service ∈ tables.scanSlots uuid slots) : some service ∈ slots := by
  induction slots with
  | nil => cases scanned
  | cons slot rest ih =>
      cases slot with
      | none => exact List.mem_cons_of_mem _ (ih scanned)
      | some other =>
          rw [scanSlots] at scanned
          split at scanned
          · rw [List.mem_singleton] at scanned
            rw [scanned]
            exact List.mem_cons_self
          · rcases List.mem_cons.mp scanned with same | later
            · rw [same]
              exact List.mem_cons_self
            · exact List.mem_cons_of_mem _ (ih later)

theorem slot_of_mem_slotList (member : some service ∈ tables.slotList dev) :
    ∃ index, tables.book.slot dev index = some service := by
  obtain ⟨index, _, stored⟩ := List.mem_map.mp member
  exact ⟨index, stored⟩

theorem findSlot_eq_some {index : Fin servicesMaxCount}
    (found : tables.findSlot dev uuid = some (index, service)) :
    tables.book.slot dev index = some service ∧ tables.book.uuid service = uuid := by
  obtain ⟨place, _, here⟩ := List.exists_of_findSome?_eq_some found
  split at here
  · cases here
  · next other stored =>
      split at here
      · next same =>
          cases here
          exact ⟨stored, same⟩
      · cases here

theorem findSlot_eq_none (missing : tables.findSlot dev uuid = none) (index : Fin servicesMaxCount)
    (stored : tables.book.slot dev index = some service) : tables.book.uuid service ≠ uuid := by
  intro same
  have here := List.findSome?_eq_none_iff.mp missing index (List.mem_finRange index)
  change (tables.devs dev).services index = some service at stored
  change (tables.services service).uuid = uuid at same
  simp only [stored, if_pos same] at here
  cases here

theorem tcFindServiceFromAll_eq_some
    (found : tables.tcFindServiceFromAll uuid = some service) :
    service ∈ tables.book.serviceList ∧ tables.book.uuid service = uuid := by
  have same := List.find?_some found
  exact ⟨List.mem_of_find?_eq_some found, of_decide_eq_true same⟩

theorem tcFindServiceFromAll_eq_none (missing : tables.tcFindServiceFromAll uuid = none)
    (other : Nat) (listed : other ∈ tables.book.serviceList) : tables.book.uuid other ≠ uuid := by
  have different := List.find?_eq_none.mp missing other listed
  intro same
  exact different (decide_eq_true same)

theorem tcFindSessionWithowner_eq_some [DecidableEq Dev] {sessionId : UInt32} {session : Nat}
    (found : tables.tcFindSessionWithowner service sessionId dev = some session) :
    session ∈ tables.book.sessionList service ∧ tables.book.owner session = some dev := by
  have same := List.find?_some found
  exact ⟨List.mem_of_find?_eq_some found, (of_decide_eq_true same).2⟩

end Lookups

/-! ### Slots -/

section Slots

variable [DecidableEq Dev] {tables after : Tables Dev} {dev : Dev} {service : Nat}

theorem addServiceToDev_eq_some (added : tables.addServiceToDev dev service = some after) :
    ∃ index, tables.book.slot dev index = none ∧
      after.book = (tables.book.setSlot dev index (some service)).setRef dev index 1 ∧
      after.lockView = tables.lockView ∧ after.fault = tables.fault := by
  obtain ⟨index, free, same⟩ := Option.map_eq_some_iff.mp added
  have empty := List.find?_some free
  subst same
  refine ⟨index, Option.isNone_iff_eq_none.mp empty, ?_, ?_, rfl⟩
  · simp [book, setDev, field_update, Book.setSlot, Book.setRef]
  · simp [lockView, setDev, field_update, field_update fun slots : DevSlots => slots.phase.isClosing]

theorem delServiceFromDev_cases {index : Fin servicesMaxCount}
    (stored : tables.book.slot dev index = some service)
    (once : ∀ other, tables.book.slot dev other = some service → other = index)
    (positive : 0 < tables.book.ref dev index) :
    ((tables.delServiceFromDev dev service).2 = true ∧ tables.book.ref dev index - 1 = 0 ∧
        (tables.delServiceFromDev dev service).1.book =
          (tables.book.setSlot dev index none).setRef dev index 0) ∨
      ((tables.delServiceFromDev dev service).2 = false ∧ tables.book.ref dev index - 1 ≠ 0 ∧
        (tables.delServiceFromDev dev service).1.book =
          tables.book.setRef dev index (tables.book.ref dev index - 1)) := by
  have found : ((List.finRange servicesMaxCount).find? fun place =>
      (tables.devs dev).services place == some service) = some index := by
    cases search : (List.finRange servicesMaxCount).find? fun place =>
        (tables.devs dev).services place == some service with
    | none =>
        have absent := List.find?_eq_none.mp search index (List.mem_finRange index)
        exact absurd (beq_iff_eq.mpr stored) absent
    | some place =>
        have here := List.find?_some search
        rw [once place (beq_iff_eq.mp here)]
  have counted : (tables.devs dev).serviceRef index ≠ 0 := Nat.ne_of_gt positive
  by_cases last : (tables.devs dev).serviceRef index - 1 = 0
  · left
    simp only [delServiceFromDev, found, if_neg counted, if_pos last]
    refine ⟨trivial, last, ?_⟩
    simp [book, setDev, field_update, Book.setSlot, Book.setRef]
  · right
    simp only [delServiceFromDev, found, if_neg counted, if_neg last]
    refine ⟨trivial, last, ?_⟩
    simp [book, setDev, field_update, Book.setRef]

/-- No part of `del_service_from_dev` before its put touches a service or a lock. -/
theorem delServiceFromDev_frame (tables : Tables Dev) (dev : Dev) (service : Nat) :
    (tables.delServiceFromDev dev service).1.lockView = tables.lockView ∧
      (tables.delServiceFromDev dev service).1.fault = tables.fault := by
  simp only [delServiceFromDev]
  repeat' split
  all_goals
    refine ⟨?_, rfl⟩
    simp [lockView, setDev, field_update, field_update fun slots : DevSlots => slots.phase.isClosing]

theorem tcRefServiceInDev_cases (tables : Tables Dev) (dev : Dev) (uuid : Uuid) :
    (∃ touched, tables.tcRefServiceInDev dev uuid =
        (tables.touchServices touched, .missing) ∧
        (∀ service ∈ touched, ∃ index, tables.book.slot dev index = some service) ∧
        ∀ index service, tables.book.slot dev index = some service →
          tables.book.uuid service ≠ uuid) ∨
      (∃ touched, tables.tcRefServiceInDev dev uuid = (tables.touchServices touched, .full) ∧
        ∀ service ∈ touched, ∃ index, tables.book.slot dev index = some service) ∨
      ∃ index service after touched,
        tables.tcRefServiceInDev dev uuid = (after, .found service) ∧
        tables.book.slot dev index = some service ∧ tables.book.ref dev index ≠ maxRefCount ∧
        after.book = tables.book.setRef dev index ((tables.book.ref dev index + 1) % 256) ∧
        after.lockView = tables.lockView ∧
        after.fault = (tables.touchServices touched).fault ∧
        ∀ service ∈ touched, ∃ index, tables.book.slot dev index = some service := by
  have slots : ∀ service ∈ tables.scanSlots uuid (tables.slotList dev),
      ∃ index, tables.book.slot dev index = some service :=
    fun _ scanned => slot_of_mem_slotList (mem_scanSlots scanned)
  cases search : tables.findSlot dev uuid with
  | none =>
      left
      refine ⟨_, ?_, slots, fun index service => findSlot_eq_none search index⟩
      simp only [tcRefServiceInDev, search]
  | some place =>
      obtain ⟨index, service⟩ := place
      have stored := (findSlot_eq_some search).1
      right
      by_cases full : (tables.devs dev).serviceRef index = maxRefCount
      · left
        refine ⟨_, ?_, slots⟩
        simp only [tcRefServiceInDev, search, if_pos full]
      · right
        have ran : (tables.tcRefServiceInDev dev uuid).2 = .found service := by
          simp only [tcRefServiceInDev, search, if_neg full]
        refine ⟨index, service, (tables.tcRefServiceInDev dev uuid).1,
          tables.scanSlots uuid (tables.slotList dev), Prod.ext rfl ran, stored, full, ?_, ?_, ?_,
          slots⟩ <;> simp only [tcRefServiceInDev, search, if_neg full]
        · simp [book, setDev, touchServices, field_update, Book.setRef]
        · simp [lockView, setDev, touchServices, field_update,
            field_update fun slots : DevSlots => slots.phase.isClosing]
        · rfl

omit [DecidableEq Dev] in
theorem tcFindServiceInDev_cases (tables : Tables Dev) (dev : Dev) (uuid : Uuid) :
    ∃ touched, (∀ service ∈ touched, ∃ index, tables.book.slot dev index = some service) ∧
      (tables.tcFindServiceInDev dev uuid = (tables.touchServices touched, none) ∨
        ∃ index service, tables.book.slot dev index = some service ∧
          tables.tcFindServiceInDev dev uuid = (tables.touchServices touched, some service)) := by
  refine ⟨tables.scanSlots uuid (tables.slotList dev),
    fun _ scanned => slot_of_mem_slotList (mem_scanSlots scanned), ?_⟩
  cases search : tables.findSlot dev uuid with
  | none =>
      left
      simp only [tcFindServiceInDev, search, Option.map_none]
  | some place =>
      right
      refine ⟨place.1, place.2, (findSlot_eq_some search).1, ?_⟩
      simp only [tcFindServiceInDev, search, Option.map_some]

end Slots

end Tables

end TzDriver.Session
