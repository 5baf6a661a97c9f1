/-
The session tables between calls that do not overlap: every counter is accounted
for by the slots and the lists, and only a published or an unlinked session
changes what is on the lists.
-/

import TzDriver.Session.Ioctl
import TzDriver.Session.SessionKeys
import TzDriver.Session.Sections

namespace TzDriver.Session

variable {Dev : Type} [DecidableEq Dev] [Fintype Dev]

/-- The counts hold with what the running call has, and every file is open. -/
structure Settled (tables : Tables Dev) (holds : Holds Dev) : Prop where
  counted : tables.book.Counted holds
  opened : ∀ dev, tables.book.phase dev = .opened

/-- A step from settled tables that leaves the lists alone. -/
structure Settles (ids : Dev → UInt32) (before after : Tables Dev) (holds : Holds Dev) : Prop where
  settled : Settled after holds
  sessions : after.openSessions ids = before.openSessions ids

section Services

variable {tables : Tables Dev} {holds : Holds Dev} {dev : Dev} {service : Nat} {uuid : Uuid}
  (ids : Dev → UInt32)

/-- A session on a list has its service in a slot of its owner. -/
theorem Settled.slotted (settled : Settled tables holds) {session : Nat}
    (member : session ∈ tables.book.sessionList service)
    (owned : tables.book.owner session = some dev) :
    ∃ index, tables.book.slot dev index = some service := by
  have counted : 0 < tables.book.sessionsOf dev service :=
    List.countP_pos_iff.mpr ⟨session, member, decide_eq_true owned⟩
  have here := settled.counted.refs.opened dev (settled.opened dev)
  apply here.placed service
  unfold Book.sessionNumber
  omega

theorem Settled.serviceKeys_eq_zero (settled : Settled tables holds) {sessionIds : Nat → UInt32}
    (unslotted : ∀ dev index, tables.book.slot dev index ≠ some service) :
    tables.book.serviceKeys ids sessionIds service = 0 := by
  apply Multiset.eq_zero_of_forall_notMem
  intro key present
  obtain ⟨session, member, found⟩ := List.mem_filterMap.mp (Multiset.mem_coe.mp present)
  obtain ⟨dev, owned, _⟩ := Option.map_eq_some_iff.mp found
  obtain ⟨index, stored⟩ := settled.slotted member owned
  exact unslotted dev index stored

theorem Settled.putService (settled : Settled tables (holdService service + holds)) :
    Settles ids tables (tables.putServiceStruct service) holds := by
  have counted := settled.counted
  refine ⟨⟨?_, ?_⟩, ?_⟩
  · rw [Tables.book_putServiceStruct]
    exact counted.putService
  · intro dev
    rw [Tables.book_putServiceStruct, Book.putService_phase]
    exact settled.opened dev
  · unfold Tables.openSessions
    rw [Tables.book_putServiceStruct, Tables.sessionIds_putServiceStruct]
    refine Book.keys_putService
      ((counted.services.listed service).mpr counted.usage_pos_of_hold) ?_
    intro last
    apply settled.serviceKeys_eq_zero ids
    intro other index stored
    -- the slot and the caller would be two references
    have usage := counted.services.usage service
    rw [holdService_services, Pi.add_apply, Pi.single_eq_same] at usage
    have live : (tables.book.phase other).live index = true := by
      rw [settled.opened other]
      rfl
    have owning : 0 < tables.book.slotRefs service :=
      Finset.card_pos.mpr ⟨_, Book.mem_owningSlots.mpr ⟨stored, live⟩⟩
    omega

omit [Fintype Dev] in
theorem sessionIds_delServiceFromDev (tables : Tables Dev) (dev : Dev) (service : Nat) :
    (tables.delServiceFromDev dev service).1.sessionIds = tables.sessionIds := by
  simp only [Tables.delServiceFromDev]
  repeat' split
  all_goals rfl

theorem Settled.dropService (settled : Settled tables (holdRef dev service + holds)) :
    Settles ids tables (tables.dropService dev service) holds := by
  have counted := settled.counted
  have opened := settled.opened dev
  have refs := counted.refs
  rw [holdRef_refs] at refs
  obtain ⟨index, stored, number⟩ := refs.slot_of_held opened
  have once (place : Fin servicesMaxCount) (occupied : tables.book.slot dev place = some service) :
      place = index := refs.slotOnce dev place index service occupied stored
  have sameIds := sessionIds_delServiceFromDev tables dev service
  rw [Tables.dropService]
  obtain ⟨result, last, book⟩ | ⟨result, more, book⟩ :=
    Tables.delServiceFromDev_cases stored once (by omega)
  · rcases deleted : tables.delServiceFromDev dev service with ⟨after, put⟩
    rw [deleted] at result book sameIds
    subst result
    have cleared : Settled after (holdService service + holds) := by
      constructor
      · rw [book]
        exact counted.clearSlot stored last opened
      · rw [book]
        exact settled.opened
    have put := cleared.putService ids
    refine ⟨put.settled, put.sessions.trans ?_⟩
    unfold Tables.openSessions
    rw [book, sameIds]
    rfl
  · rcases deleted : tables.delServiceFromDev dev service with ⟨after, put⟩
    rw [deleted] at result book sameIds
    subst result
    refine ⟨⟨?_, ?_⟩, ?_⟩
    · rw [book]
      exact counted.unrefSlot stored more opened
    · rw [book]
      exact settled.opened
    · unfold Tables.openSessions
      rw [book, sameIds]
      rfl

omit [Fintype Dev] in
theorem sessionIds_addServiceToDev {after : Tables Dev}
    (added : tables.addServiceToDev dev service = some after) :
    after.sessionIds = tables.sessionIds := by
  obtain ⟨index, _, same⟩ := Option.map_eq_some_iff.mp added
  subst same
  rfl

/-- How `find_service` ends: with a number of the service in the slot, or with
nothing. -/
inductive Finds (ids : Dev → UInt32) (before : Tables Dev) (holds : Holds Dev) (dev : Dev)
    (uuid : Uuid) : Tables Dev × Option Nat → Prop where
  | found {after : Tables Dev} {service : Nat} (uuidOf : after.book.uuid service = uuid)
      (kept : Settles ids before after (holdRef dev service + holds)) :
      Finds ids before holds dev uuid (after, some service)
  | missing {after : Tables Dev} (kept : Settles ids before after holds) :
      Finds ids before holds dev uuid (after, none)

theorem Settled.addService (settled : Settled tables (holdService service + holds))
    (absent : ∀ place, tables.book.slot dev place ≠ some service)
    (uuidOf : tables.book.uuid service = uuid) :
    Finds ids tables holds dev uuid (tables.addService dev service) := by
  rw [Tables.addService]
  cases added : tables.addServiceToDev dev service with
  | none => exact .missing (settled.putService ids)
  | some after =>
      obtain ⟨index, free, book, _⟩ := Tables.addServiceToDev_eq_some added
      refine .found ?_ ⟨⟨?_, ?_⟩, ?_⟩
      · rw [book]
        exact uuidOf
      · rw [book]
        exact settled.counted.addSlot free absent (settled.opened dev)
      · rw [book]
        exact settled.opened
      · unfold Tables.openSessions
        rw [book, sessionIds_addServiceToDev added]
        rfl

theorem Finds.trans {before middle : Tables Dev} {holds : Holds Dev}
    {result : Tables Dev × Option Nat} (finds : Finds ids middle holds dev uuid result)
    (same : middle.openSessions ids = before.openSessions ids) :
    Finds ids before holds dev uuid result := by
  cases finds with
  | found uuidOf kept => exact .found uuidOf ⟨kept.settled, kept.sessions.trans same⟩
  | missing kept => exact .missing ⟨kept.settled, kept.sessions.trans same⟩

omit [Fintype Dev] in
theorem tcRefServiceInDev_found {after : Tables Dev}
    (ran : tables.tcRefServiceInDev dev uuid = (after, .found service)) :
    tables.book.uuid service = uuid ∧ after.sessionIds = tables.sessionIds := by
  unfold Tables.tcRefServiceInDev at ran
  cases search : tables.findSlot dev uuid with
  | none =>
      rw [search] at ran
      cases ran
  | some place =>
      obtain ⟨index, other⟩ := place
      rw [search] at ran
      simp only at ran
      split at ran
      · cases ran
      · cases ran
        exact ⟨(Tables.findSlot_eq_some search).2, rfl⟩

theorem Settled.findFromAll (settled : Settled tables holds)
    (missing : ∀ index service, tables.book.slot dev index = some service →
      tables.book.uuid service ≠ uuid) (serviceAlloc : Bool) :
    Finds ids tables holds dev uuid
      (match tables.tcFindServiceFromAll uuid with
      | some service => (tables.getServiceStruct service).addService dev service
      | none =>
          if serviceAlloc then
            (tables.tcNsServiceInit uuid).1.addService dev (tables.tcNsServiceInit uuid).2
          else (tables, none)) := by
  have counted := settled.counted
  cases search : tables.tcFindServiceFromAll uuid with
  | some service =>
      obtain ⟨listed, same⟩ := Tables.tcFindServiceFromAll_eq_some search
      have taken : Settled (tables.getServiceStruct service) (holdService service + holds) := by
        constructor
        · rw [Tables.book_getServiceStruct]
          exact counted.getService ((counted.services.listed service).mp listed)
        · rw [Tables.book_getServiceStruct]
          exact settled.opened
      refine .trans ids (taken.addService ids ?_ ?_) ?_
      · rw [Tables.book_getServiceStruct]
        intro index stored
        exact missing index service stored same
      · rw [Tables.book_getServiceStruct]
        exact same
      · unfold Tables.openSessions
        rw [Tables.book_getServiceStruct]
        rfl
  | none =>
      simp only
      split
      · have made : Settled (tables.tcNsServiceInit uuid).1
            (holdService (tables.tcNsServiceInit uuid).2 + holds) := by
          constructor
          · rw [Tables.book_tcNsServiceInit]
            exact counted.newService (Tables.tcFindServiceFromAll_eq_none search)
          · rw [Tables.book_tcNsServiceInit]
            exact settled.opened
        refine .trans ids (made.addService ids ?_ ?_) ?_
        · rw [Tables.book_tcNsServiceInit]
          intro index stored
          have used := counted.services.usage_pos_of_slot stored
            (Book.OwnsSlots.of_opened (settled.opened dev) index _ stored)
          exact Nat.lt_irrefl _ (counted.services.lt_serviceCount used)
        · rw [Tables.book_tcNsServiceInit]
          exact Function.update_self _ _ _
        · unfold Tables.openSessions
          rw [Tables.book_tcNsServiceInit]
          exact Book.keys_newService counted.services.created uuid
      · exact .missing ⟨settled, rfl⟩

theorem Settled.findService (settled : Settled tables holds) (serviceAlloc : Bool) (dev : Dev)
    (uuid : Uuid) :
    Finds ids tables holds dev uuid (tables.findService serviceAlloc dev uuid) := by
  rw [Tables.findService]
  obtain ⟨touched, result, _, missing⟩ | ⟨touched, result, _⟩ |
    ⟨index, service, found, _, result, stored, room, book, _⟩ :=
    tables.tcRefServiceInDev_cases dev uuid
  · rw [result]
    have still : Settled ((tables.touchServices touched).touchServices tables.serviceList) holds :=
      ⟨settled.counted, settled.opened⟩
    have searched := still.findFromAll ids missing serviceAlloc
    exact searched.trans ids rfl
  · rw [result]
    exact .missing ⟨⟨settled.counted, settled.opened⟩, rfl⟩
  · obtain ⟨uuidOf, sameIds⟩ := tcRefServiceInDev_found result
    rw [result]
    refine .found ?_ ⟨⟨?_, ?_⟩, ?_⟩
    · rw [book]
      exact uuidOf
    · rw [book]
      exact settled.counted.refSlot stored room (settled.opened dev)
    · rw [book]
      exact settled.opened
    · unfold Tables.openSessions
      rw [book, sameIds]
      rfl

end Services

/-! ### Sessions -/

section Sessions

variable {tables : Tables Dev} {holds : Holds Dev} {dev : Dev} {service : Nat}
  (ids : Dev → UInt32)

theorem Settled.initNewSessNode (settled : Settled tables (holdRef dev service + holds))
    (sessionId : UInt32) :
    Settled (tables.initNewSessNode dev service sessionId) holds ∧
      (tables.initNewSessNode dev service sessionId).openSessions ids =
        ⟨ids dev, tables.book.uuid service, sessionId⟩ ::ₘ tables.openSessions ids := by
  have counted := settled.counted
  have used := counted.usage_pos_of_ref (settled.opened dev)
  refine ⟨⟨?_, ?_⟩, ?_⟩
  · rw [Tables.book_initNewSessNode]
    exact counted.publish (counted.services.lt_serviceCount used)
  · rw [Tables.book_initNewSessNode]
    exact settled.opened
  · unfold Tables.openSessions
    rw [Tables.book_initNewSessNode, Tables.sessionIds_initNewSessNode]
    exact Book.keys_publish counted.services.listedOnce ((counted.services.listed service).mpr used)
      (fun target session present => (counted.sessions.inList target session present).2) dev
      sessionId

theorem Settled.closeFound (settled : Settled tables
      (holdSession session + (holdService service + holds)))
    (member : session ∈ tables.book.sessionList service)
    (owned : tables.book.owner session = some dev) :
    let put := ((tables.unlinkSession service session).putSessionStruct session).putSessionStruct
      session
    Settled ((put.dropService dev service).putServiceStruct service) holds ∧
      tables.openSessions ids =
        ⟨ids dev, tables.book.uuid service, tables.sessionIds session⟩ ::ₘ
          ((put.dropService dev service).putServiceStruct service).openSessions ids := by
  intro put
  have counted := settled.counted
  have used : 0 < tables.book.usage service := by
    have usage := counted.services.usage service
    rw [holdSession_services, holdService_services, Pi.add_apply, Pi.single_eq_same] at usage
    omega
  have unlinked := counted.unlink member owned
  have account : holdRef dev service +
      (holdSession session + (holdSession session + (holdService service + holds))) =
      holdSession session + (holdSession session +
        (holdRef dev service + (holdService service + holds))) := by
    rw [add_left_comm, add_left_comm (holdRef dev service) (holdSession session)]
  rw [account] at unlinked
  have afterPut : Settled put (holdRef dev service + (holdService service + holds)) := by
    constructor
    · simp only [put, Tables.book_putSessionStruct, Tables.book_unlinkSession]
      exact unlinked.putSession.putSession
    · simp only [put, Tables.book_putSessionStruct, Tables.book_unlinkSession]
      exact settled.opened
  have sessions : tables.openSessions ids =
      ⟨ids dev, tables.book.uuid service, tables.sessionIds session⟩ ::ₘ put.openSessions ids := by
    unfold Tables.openSessions
    simp only [put, Tables.book_putSessionStruct, Tables.book_unlinkSession,
      Tables.sessionIds_putSessionStruct, Tables.sessionIds_unlinkSession]
    exact Book.keys_unlink counted.services.listedOnce
      ((counted.services.listed service).mpr used) member owned
  have dropped := afterPut.dropService ids
  have last := dropped.settled.putService ids
  refine ⟨last.settled, ?_⟩
  rw [sessions, last.sessions, dropped.sessions]

end Sessions

end TzDriver.Session
