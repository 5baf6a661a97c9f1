/-
The cleanup of all sessions when the TEE reboots (`free_all_session`).

No other thread runs.  `cleanup_session` puts the reference that `free_all_session`
took, and the reference of the slot itself is not put when the slot is cleared.
-/

import TzDriver.Session.Settled
import TzDriver.Session.Invariant

namespace TzDriver.Session

/-! ### The cleanup -/

namespace Tables

variable {Dev : Type} (tables : Tables Dev)

/-- The loop of `cleanup_session` over the session list. -/
def cleanupLoop (service : Nat) : List Nat → Tables Dev → Tables Dev
  | [], tables => tables
  | session :: rest, tables =>
      cleanupLoop service rest ((tables.unlinkSession service session).putSessionStruct session)

def cleanupSession (service : Nat) : Tables Dev :=
  let touched := tables.touchServices [service]
  let list := (tables.services service).sessionList
  let emptied :=
    if list = [] then touched
    else (cleanupLoop service list (touched.lockOperation service true)).lockOperation service false
  emptied.putServiceStruct service

variable [DecidableEq Dev]

/-- `dev_file->services[i] = NULL`; the slot's `service_ref` stays. -/
def clearService (dev : Dev) (index : Fin servicesMaxCount) : Tables Dev :=
  let slots := tables.devs dev
  tables.setDev dev { slots with services := Function.update slots.services index none }

/-- The body of the loop of `free_all_session` over the slots of a file. -/
def freeSlot (dev : Dev) (index : Fin servicesMaxCount) : Tables Dev :=
  match (tables.devs dev).services index with
  | none => tables
  | some service =>
      ((tables.getServiceStruct service).cleanupSession service).clearService dev index

def freeSlots (dev : Dev) : Tables Dev :=
  (List.finRange servicesMaxCount).foldl (fun tables index => tables.freeSlot dev index) tables

/-- `free_all_session`, on the files of `dev_file_list`. -/
def freeAllSession (devFileList : List Dev) : Tables Dev :=
  devFileList.foldl (fun tables dev => tables.freeSlots dev) tables

end Tables

/-! ### Between two slots -/

section Cleaning

variable {Dev : Type}

/-- What the cleanup keeps: the counters and lists of the services, and the session
counts with nobody else holding a session. -/
structure Cleaned (before after : Tables Dev) : Prop where
  usage : after.book.usage = before.book.usage
  freed : after.book.freed = before.book.freed
  listed : after.book.serviceList = before.book.serviceList
  created : after.book.sessionCount = before.book.sessionCount
  sessions : after.book.SessionCounts 0
  lists : ∀ service, after.book.sessionList service ⊆ before.book.sessionList service
  slots : ∀ dev index, after.book.slot dev index = before.book.slot dev index ∨
    after.book.slot dev index = none ∧ ∀ service, before.book.slot dev index = some service →
      after.book.sessionList service = []
  fault : after.fault = false

theorem Cleaned.refl {tables : Tables Dev} (sessions : tables.book.SessionCounts 0)
    (fault : tables.fault = false) : Cleaned tables tables :=
  ⟨rfl, rfl, rfl, rfl, sessions, fun _ => List.Subset.refl _, fun _ _ => Or.inl rfl, fault⟩

theorem Cleaned.list_empty {before after : Tables Dev} (cleaned : Cleaned before after)
    {service : Nat} (empty : before.book.sessionList service = []) :
    after.book.sessionList service = [] :=
  List.subset_nil.mp (empty ▸ cleaned.lists service)

theorem Cleaned.slot_empty {before after : Tables Dev} (cleaned : Cleaned before after)
    {dev : Dev} {index : Fin servicesMaxCount} (empty : before.book.slot dev index = none) :
    after.book.slot dev index = none := by
  rcases cleaned.slots dev index with same | gone
  · rw [same]
    exact empty
  · exact gone.1

theorem Cleaned.trans {first second third : Tables Dev} (before : Cleaned first second)
    (after : Cleaned second third) : Cleaned first third := by
  refine ⟨after.usage.trans before.usage, after.freed.trans before.freed,
    after.listed.trans before.listed, after.created.trans before.created, after.sessions,
    fun service => List.Subset.trans (after.lists service) (before.lists service), ?_,
    after.fault⟩
  intro dev index
  rcases before.slots dev index with kept | cleared
  · rw [← kept]
    exact after.slots dev index
  · refine Or.inr ⟨after.slot_empty cleared.1, ?_⟩
    intro service stored
    exact after.list_empty (cleared.2 service stored)

theorem unlink_put_cleaned {tables : Tables Dev} {service session : Nat} {rest : List Nat}
    (list : tables.book.sessionList service = session :: rest)
    (sessions : tables.book.SessionCounts 0) (alive : tables.book.freed service = false)
    (fault : tables.fault = false) :
    Cleaned tables ((tables.unlinkSession service session).putSessionStruct session) ∧
      ((tables.unlinkSession service session).putSessionStruct session).book.sessionList service =
        rest := by
  have member : session ∈ tables.book.sessionList service := by
    rw [list]
    exact List.mem_cons_self
  have unlinked := sessions.unlink member
  have used : 0 < (tables.book.unlink service session).sessionUsage session :=
    sessions.usage_pos_of_mem member
  have after : ((tables.unlinkSession service session).putSessionStruct session).book =
      (tables.book.unlink service session).putSession session := by
    rw [Tables.book_putSessionStruct, Tables.book_unlinkSession]
  have shorter : ((tables.book.unlink service session).putSession session).sessionList =
      Function.update tables.book.sessionList service rest := by
    change Function.update tables.book.sessionList service
      ((tables.book.sessionList service).erase session) = _
    rw [list, List.erase_cons_head]
  refine ⟨⟨?_, ?_, ?_, ?_, ?_, ?_, ?_, ?_⟩, ?_⟩
  · rw [after]; rfl
  · rw [after]; rfl
  · rw [after]; rfl
  · rw [after]; rfl
  · rw [after]
    exact unlinked.putSession
  · intro other
    rw [after, shorter]
    by_cases same : other = service
    · subst same
      rw [Function.update_self, list]
      exact List.subset_cons_self _ _
    · rw [Function.update_of_ne same]
      exact List.Subset.refl _
  · intro dev index
    rw [after]
    exact Or.inl rfl
  · rw [Tables.fault_putSessionStruct, Tables.book_unlinkSession, Tables.fault_unlinkSession, fault,
      alive, sessions.alive (sessions.usage_pos_of_mem member), unlinked.alive used,
      List.contains_iff_mem.mpr member]
    rfl
  · rw [after, shorter, Function.update_self]

theorem cleanupLoop_cleaned {service : Nat} {list : List Nat} {tables : Tables Dev}
    (here : tables.book.sessionList service = list) (sessions : tables.book.SessionCounts 0)
    (alive : tables.book.freed service = false) (fault : tables.fault = false) :
    Cleaned tables (Tables.cleanupLoop service list tables) ∧
      (Tables.cleanupLoop service list tables).book.sessionList service = [] := by
  induction list generalizing tables with
  | nil => exact ⟨.refl sessions fault, here⟩
  | cons session rest ih =>
      obtain ⟨cleaned, shorter⟩ := unlink_put_cleaned here sessions alive fault
      have stillAlive : ((tables.unlinkSession service session).putSessionStruct session).book.freed
          service = false := by
        rw [cleaned.freed]
        exact alive
      obtain ⟨later, empty⟩ := ih shorter cleaned.sessions stillAlive cleaned.fault
      exact ⟨cleaned.trans later, empty⟩

/-- Only the books of two tables matter to what is kept. -/
theorem Cleaned.of_book {before after : Tables Dev} (book : after.book = before.book)
    (sessions : before.book.SessionCounts 0) (fault : after.fault = false) :
    Cleaned before after := by
  rw [← book] at sessions
  refine ⟨?_, ?_, ?_, ?_, sessions, ?_, ?_, fault⟩
  all_goals rw [book]
  · exact fun _ => List.Subset.refl _
  · exact fun _ _ => Or.inl rfl

theorem cleanupSession_emptied {service : Nat} {tables : Tables Dev}
    (sessions : tables.book.SessionCounts 0) (alive : tables.book.freed service = false)
    (fault : tables.fault = false) :
    ∃ emptied, tables.cleanupSession service = emptied.putServiceStruct service ∧
      Cleaned tables emptied ∧ emptied.book.sessionList service = [] := by
  have touched : (tables.touchServices [service]).fault = false := by
    rw [Tables.fault_touchServices, fault]
    simp only [List.any_cons, alive, List.any_nil]
    rfl
  by_cases none : (tables.services service).sessionList = []
  · refine ⟨tables.touchServices [service], ?_, .of_book rfl sessions touched, none⟩
    simp only [Tables.cleanupSession, if_pos none]
  · have locked : ((tables.touchServices [service]).lockOperation service true).fault = false := by
      rw [Tables.fault_lockOperation, touched]
      exact alive
    have book : ((tables.touchServices [service]).lockOperation service true).book = tables.book :=
      Tables.book_lockOperation _ _ _
    obtain ⟨cleaned, empty⟩ := cleanupLoop_cleaned
      (congrFun (congrArg Book.sessionList book) service) (book ▸ sessions) (book ▸ alive) locked
    have whole := (Cleaned.of_book book sessions locked).trans cleaned
    generalize loopEq : Tables.cleanupLoop service _ _ = loop at cleaned empty whole
    have unlocked : (loop.lockOperation service false).fault = false := by
      rw [Tables.fault_lockOperation, whole.fault, whole.freed]
      exact alive
    refine ⟨loop.lockOperation service false, ?_,
      whole.trans (.of_book (Tables.book_lockOperation _ _ _) whole.sessions unlocked), ?_⟩
    · rw [← loopEq]
      simp only [Tables.cleanupSession, if_neg none]
      rfl
    · rw [Tables.book_lockOperation]
      exact empty

def SlotsAlive (tables : Tables Dev) : Prop :=
  ∀ dev index service, tables.book.slot dev index = some service →
    0 < tables.book.usage service ∧ tables.book.freed service = false

theorem Cleaned.slotsAlive {before after : Tables Dev} (cleaned : Cleaned before after)
    (alive : SlotsAlive before) : SlotsAlive after := by
  intro dev index service stored
  rw [cleaned.usage, cleaned.freed]
  rcases cleaned.slots dev index with same | gone
  · exact alive dev index service (same ▸ stored)
  · cases gone.1.symm.trans stored

variable [DecidableEq Dev]

theorem Tables.book_clearService (tables : Tables Dev) (dev : Dev) (index : Fin servicesMaxCount) :
    (tables.clearService dev index).book = tables.book.setSlot dev index none := by
  simp [Tables.book, Tables.clearService, Tables.setDev, Tables.field_update, Book.setSlot]

/-- One slot: its service keeps the usage it had, and loses its sessions. -/
theorem freeSlot_cleaned {tables : Tables Dev} (alive : SlotsAlive tables)
    (sessions : tables.book.SessionCounts 0) (fault : tables.fault = false) (dev : Dev)
    (index : Fin servicesMaxCount) :
    Cleaned tables (tables.freeSlot dev index) ∧
      (tables.freeSlot dev index).book.slot dev index = none := by
  cases stored : (tables.devs dev).services index with
  | none =>
      rw [Tables.freeSlot, stored]
      exact ⟨.refl sessions fault, stored⟩
  | some service =>
      obtain ⟨used, unfreed⟩ := alive dev index service stored
      have got : (tables.getServiceStruct service).book = tables.book.getService service :=
        Tables.book_getServiceStruct _ _
      have gotFault : (tables.getServiceStruct service).fault = false := by
        rw [Tables.fault_getServiceStruct, fault]
        exact unfreed
      have gotSessions : (tables.getServiceStruct service).book.SessionCounts 0 := by
        rw [got]
        exact sessions.congr rfl rfl rfl rfl rfl rfl rfl
      have gotAlive : (tables.getServiceStruct service).book.freed service = false := by
        rw [got]
        exact unfreed
      obtain ⟨emptied, cleanup, cleaned, empty⟩ :=
        cleanupSession_emptied gotSessions gotAlive gotFault
      have usage : emptied.book.usage service = tables.book.usage service + 1 := by
        rw [cleaned.usage, got]
        exact Function.update_self _ _ _
      -- the slot still owns its reference, so the put is not the last one
      have put : emptied.book.putService service = { emptied.book with
          usage := tables.book.usage } := by
        have more : ¬emptied.book.usage service - 1 = 0 := by omega
        rw [Book.putService, if_neg more, usage, cleaned.usage, got]
        congr 1
        rw [Book.getService, Nat.add_sub_cancel, Function.update_idem]
        exact Function.update_eq_self _ _
      have after : (tables.freeSlot dev index).book =
          ({ emptied.book with usage := tables.book.usage } : Book Dev).setSlot dev index none := by
        rw [Tables.freeSlot, stored]
        simp only [cleanup, Tables.book_clearService, Tables.book_putServiceStruct, put]
      have faults : (tables.freeSlot dev index).fault = false := by
        rw [Tables.freeSlot, stored]
        change Tables.fault (Tables.cleanupSession _ _) = false
        rw [cleanup, Tables.fault_putServiceStruct, cleaned.fault, cleaned.freed]
        exact gotAlive
      have slot (other : Dev) (place : Fin servicesMaxCount) :
          (tables.freeSlot dev index).book.slot other place =
            if other = dev ∧ place = index then none else emptied.book.slot other place := by
        rw [after]
        change Function.update emptied.book.slot dev (Function.update _ index none) other place = _
        by_cases same : other = dev
        · subst same
          rw [Function.update_self, Function.update_apply]
          simp only [true_and]
        · rw [Function.update_of_ne same, if_neg (fun both => same both.1)]
      refine ⟨⟨?_, ?_, ?_, ?_, ?_, ?_, ?_, faults⟩, by rw [slot, if_pos ⟨rfl, rfl⟩]⟩
      · rw [after]
        rfl
      · rw [after]
        change emptied.book.freed = _
        rw [cleaned.freed, got]
        rfl
      · rw [after]
        change emptied.book.serviceList = _
        rw [cleaned.listed, got]
        rfl
      · rw [after]
        change emptied.book.sessionCount = _
        rw [cleaned.created, got]
        rfl
      · rw [after]
        exact cleaned.sessions.congr rfl rfl rfl rfl rfl rfl rfl
      · intro other
        rw [after]
        have fewer := cleaned.lists other
        rw [got] at fewer
        exact fewer
      · intro other place
        rw [slot]
        by_cases here : other = dev ∧ place = index
        · obtain ⟨rfl, rfl⟩ := here
          refine Or.inr ⟨if_pos ⟨rfl, rfl⟩, ?_⟩
          intro target occupied
          obtain rfl := Option.some.inj (stored.symm.trans occupied)
          rw [after]
          exact empty
        · rw [if_neg here, after]
          have kept := cleaned.slots other place
          rw [got] at kept
          exact kept

theorem freeSlots_cleaned {indexes : List (Fin servicesMaxCount)} {tables : Tables Dev}
    (alive : SlotsAlive tables) (sessions : tables.book.SessionCounts 0)
    (fault : tables.fault = false) (dev : Dev) :
    Cleaned tables (indexes.foldl (fun tables index => tables.freeSlot dev index) tables) ∧
      ∀ index ∈ indexes, (indexes.foldl (fun tables index => tables.freeSlot dev index)
        tables).book.slot dev index = none := by
  induction indexes generalizing tables with
  | nil =>
      refine ⟨.refl sessions fault, ?_⟩
      intro index member
      cases member
  | cons index rest ih =>
      obtain ⟨first, cleared⟩ := freeSlot_cleaned alive sessions fault dev index
      obtain ⟨later, others⟩ := ih (first.slotsAlive alive) first.sessions first.fault
      refine ⟨first.trans later, ?_⟩
      intro place member
      rcases List.mem_cons.mp member with rfl | inRest
      · exact later.slot_empty cleared
      · exact others place inRest

theorem freeAllSession_cleaned {devFileList : List Dev} {tables : Tables Dev}
    (alive : SlotsAlive tables) (sessions : tables.book.SessionCounts 0)
    (fault : tables.fault = false) :
    Cleaned tables (tables.freeAllSession devFileList) ∧
      ∀ dev ∈ devFileList, ∀ index,
        (tables.freeAllSession devFileList).book.slot dev index = none := by
  induction devFileList generalizing tables with
  | nil =>
      refine ⟨.refl sessions fault, ?_⟩
      intro dev member
      cases member
  | cons dev rest ih =>
      obtain ⟨first, cleared⟩ := freeSlots_cleaned alive sessions fault dev
      obtain ⟨later, others⟩ := ih (first.slotsAlive alive) first.sessions first.fault
      refine ⟨first.trans later, ?_⟩
      intro other member index
      rcases List.mem_cons.mp member with rfl | inRest
      · exact later.slot_empty (cleared index (List.mem_finRange index))
      · exact others other inRest index

end Cleaning

/-! ### What is left -/

section Dropped

variable {Dev : Type} [DecidableEq Dev] [Fintype Dev]

/-- The counts hold with no transient holder, the files are those of the list, and
every session on a list has one of them as its owner. -/
structure Quiet (devFileList : List Dev) (tables : Tables Dev) : Prop where
  settled : Settled tables 0
  files : ∀ dev, dev ∈ devFileList
  owned : ∀ service, ∀ session ∈ (tables.services service).sessionList,
    (tables.sessions session).owner ≠ none
  fault : tables.fault = false

/-- No slot, session or service is left; no freed object was touched. -/
structure Dropped (tables : Tables Dev) : Prop where
  slots : ∀ dev index, (tables.devs dev).services index = none
  lists : ∀ service, (tables.services service).sessionList = []
  sessions : ∀ session < tables.sessionCount,
    (tables.sessions session).unlinked = 1 ∧ (tables.sessions session).freed = true
  usage : ∀ service, (tables.services service).usage = 0
  serviceList : tables.serviceList = []
  fault : tables.fault = false

theorem Quiet.slotsAlive {devFileList : List Dev} {tables : Tables Dev}
    (quiet : Quiet devFileList tables) : SlotsAlive tables := by
  intro dev index service stored
  have used := quiet.settled.counted.services.usage_pos_of_slot stored
    (Book.OwnsSlots.of_opened (quiet.settled.opened dev) index service stored)
  exact ⟨used, quiet.settled.counted.services.alive used⟩

/-- The sessions and the slots always go, whatever becomes of the services. -/
theorem Quiet.sessions_dropped {devFileList : List Dev} {tables : Tables Dev}
    (quiet : Quiet devFileList tables) (service : Nat) :
    (tables.freeAllSession devFileList).book.sessionList service = [] := by
  obtain ⟨cleaned, cleared⟩ := freeAllSession_cleaned quiet.slotsAlive
    quiet.settled.counted.sessions quiet.fault
  apply List.eq_nil_iff_forall_not_mem.mpr
  intro session member
  have before := cleaned.lists service member
  obtain ⟨dev, owned⟩ := Option.ne_none_iff_exists'.mp (quiet.owned service session before)
  obtain ⟨index, stored⟩ := quiet.settled.slotted before owned
  have empty := cleared dev (quiet.files dev) index
  rcases cleaned.slots dev index with same | gone
  · rw [same, stored] at empty
    cases empty
  · rw [gone.2 service stored] at member
    cases member

/-- The cleanup drops everything exactly when no slot is in use: a service in a slot
keeps the slot's reference. -/
theorem free_all_session_drops_iff {devFileList : List Dev} {tables : Tables Dev}
    (quiet : Quiet devFileList tables) :
    Dropped (tables.freeAllSession devFileList) ↔
      ∀ dev index, (tables.devs dev).services index = none := by
  obtain ⟨cleaned, cleared⟩ := freeAllSession_cleaned quiet.slotsAlive
    quiet.settled.counted.sessions quiet.fault
  constructor
  · intro dropped dev index
    cases stored : (tables.devs dev).services index with
    | none => rfl
    | some service =>
        have used := (quiet.slotsAlive dev index service stored).1
        rw [← cleaned.usage] at used
        exact absurd (dropped.usage service) (Nat.ne_of_gt used)
  · intro unused
    have usage (service : Nat) : tables.book.usage service = 0 := by
      have unowned : tables.book.owningSlots service = ∅ := by
        apply Finset.eq_empty_of_forall_notMem
        intro place owning
        have stored := (Book.mem_owningSlots.mp owning).1
        cases (unused place.1 place.2).symm.trans stored
      rw [quiet.settled.counted.services.usage, Book.slotRefs, unowned]
      rfl
    have serviceList : tables.book.serviceList = [] := by
      apply List.eq_nil_iff_forall_not_mem.mpr
      intro service listed
      have used := (quiet.settled.counted.services.listed service).mp listed
      rw [usage service] at used
      exact Nat.lt_irrefl 0 used
    refine ⟨fun dev index => cleared dev (quiet.files dev) index, quiet.sessions_dropped, ?_,
      fun service => (congrFun cleaned.usage service).trans (usage service),
      cleaned.listed.trans serviceList, cleaned.fault⟩
    intro session created
    have unlisted : ¬(tables.freeAllSession devFileList).book.Listed session := by
      intro listed
      unfold Book.Listed at listed
      rw [quiet.sessions_dropped] at listed
      cases listed
    have once := cleaned.sessions.unlinked session created
    have unused := cleaned.sessions.usage session
    rw [if_neg unlisted] at once unused
    exact ⟨once, (cleaned.sessions.freed session).mpr ⟨created, unused⟩⟩

end Dropped

def openedUuid : Uuid := 7#128

def openedOnce : Tables Unit :=
  (((Tables.initial.tcNsServiceInit openedUuid).1.addServiceToDev () 0).getD .initial).initNewSessNode
    () 0 5

theorem openedOnce_counted : openedOnce.book.Counted 0 := by
  have service : (Tables.initial.tcNsServiceInit openedUuid : Tables Unit × Nat).1.book.Counted
      (holdService 0 + 0) := by
    rw [Tables.book_tcNsServiceInit]
    exact initial_counted.newService (fun other listed => by cases listed)
  cases added : (Tables.initial.tcNsServiceInit openedUuid : Tables Unit × Nat).1.addServiceToDev () 0 with
  | none => exact absurd (congrArg Option.isSome added) (by decide)
  | some slotted =>
      obtain ⟨index, free, book, _, _⟩ := Tables.addServiceToDev_eq_some added
      have numbered : slotted.book.Counted (holdRef () 0 + 0) := by
        rw [book]
        exact service.addSlot free (fun place stored => by cases stored) rfl
      have opened : openedOnce.book = slotted.book.publish () 0 := by
        rw [openedOnce, added]
        exact Tables.book_initNewSessNode _ _ _ _
      rw [opened]
      refine numbered.publish ?_
      rw [book]
      exact Nat.zero_lt_one

theorem openedOnce_quiet : Quiet [()] openedOnce := by
  refine ⟨⟨openedOnce_counted, fun _ => rfl⟩, fun _ => List.mem_singleton.mpr rfl, ?_, by decide⟩
  intro service session member
  have created := (openedOnce_counted.sessions.inList service session member).2
  have first : session = 0 := Nat.lt_one_iff.mp created
  rw [first]
  decide

/-- The service of an open session stays on `g_service_list` with the reference of a
slot that no longer names it. -/
theorem free_all_session_keeps_service :
    Quiet [()] openedOnce ∧ ¬Dropped (openedOnce.freeAllSession [()]) := by
  refine ⟨openedOnce_quiet, ?_⟩
  intro dropped
  exact absurd (dropped.usage 0) (by decide)

theorem free_all_session_drops_iff_opened_once :
    Dropped (openedOnce.freeAllSession [()]) ↔
      ∀ dev index, (openedOnce.devs dev).services index = none :=
  free_all_session_drops_iff openedOnce_quiet

end TzDriver.Session
