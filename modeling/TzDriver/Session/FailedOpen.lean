/-
An open that fails takes back what it did.

While an open runs with no section of another thread in between, its program point
tells which operations still lead back to the counters it started from.
-/

import TzDriver.Session.Accounts

namespace TzDriver.Session

open TzDriver.Lib

variable {Dev : Type} [DecidableEq Dev]

/-- The thread runs to its end with no section of another thread in between. -/
inductive RunsAlone : Tables Dev → Thread Dev → Tables Dev → Bool → Prop where
  | last {tables after : Tables Dev} {thread : Thread Dev} {choice : Choice} {success : Bool}
      (ran : stepThread tables choice thread = some (after, .returns success)) :
      RunsAlone tables thread after success
  | more {tables middle after : Tables Dev} {thread next : Thread Dev} {choice : Choice}
      {success : Bool} (ran : stepThread tables choice thread = some (middle, .goes next))
      (rest : RunsAlone middle next after success) : RunsAlone tables thread after success

/-- The counters of services and slots, and which service is where. -/
structure Book.SameCounters (original book : Book Dev) : Prop where
  usage : book.usage = original.usage
  slot : book.slot = original.slot
  ref : book.ref = original.ref
  serviceList : book.serviceList = original.serviceList

/-- What the rest of a failing open does leads back to `original`. -/
def Thread.Undoes (original book : Book Dev) : Thread Dev → Prop
  | .openStart _ _ | .openFindAll _ _ => original.SameCounters book
  | .openAddDev _ service | .openPut _ service | .openUndoPut _ service =>
      original.SameCounters (book.putService service)
  | .openReferenced dev service | .openLocked dev service | .openUndo dev service =>
      ∃ index, book.slot dev index = some service ∧
        ((book.ref dev index - 1 ≠ 0 ∧
            original.SameCounters (book.setRef dev index (book.ref dev index - 1))) ∨
          (book.ref dev index - 1 = 0 ∧ original.SameCounters
            (((book.setSlot dev index none).setRef dev index 0).putService service)))
  | _ => False

def Next.Undoes (original book : Book Dev) : Next Dev → Prop
  | .goes thread => thread.Undoes original book
  | .returns success => success = false → original.SameCounters book

/-! ### Inverse operations -/

section Inverses

variable {book : Book Dev} {dev : Dev} {index : Fin servicesMaxCount} {service : Nat}

theorem Book.setRef_setRef (first second : Nat) :
    (book.setRef dev index first).setRef dev index second = book.setRef dev index second := by
  simp [Book.setRef]

theorem Book.setRef_self : book.setRef dev index (book.ref dev index) = book := by
  simp [Book.setRef]

theorem Book.clearSlot_addSlot (free : book.slot dev index = none)
    (unnumbered : book.ref dev index = 0) :
    (((book.setSlot dev index (some service)).setRef dev index 1).setSlot dev index none).setRef
      dev index 0 = book := by
  have slots : Function.update (book.slot dev) index none = book.slot dev := by
    rw [← free, Function.update_eq_self]
  have refs : Function.update (book.ref dev) index 0 = book.ref dev := by
    rw [← unnumbered, Function.update_eq_self]
  simp [Book.setSlot, Book.setRef, slots, refs]

omit [DecidableEq Dev] in
theorem Book.SameCounters.putService_getService (used : 0 < book.usage service) :
    book.SameCounters ((book.getService service).putService service) := by
  have more : (book.getService service).usage service - 1 ≠ 0 := by
    simp only [Book.getService, Function.update_self]
    omega
  rw [Book.putService, if_neg more]
  exact ⟨by simp [Book.getService], rfl, rfl, rfl⟩

omit [DecidableEq Dev] in
theorem Book.SameCounters.putService_newService {uuid : Uuid}
    (unlisted : book.serviceCount ∉ book.serviceList) (unused : book.usage book.serviceCount = 0) :
    book.SameCounters ((book.newService uuid).putService book.serviceCount) := by
  have last : (book.newService uuid).usage book.serviceCount - 1 = 0 := by
    simp [Book.newService]
  rw [Book.putService, if_pos last]
  refine ⟨?_, rfl, rfl, ?_⟩
  · simp only [Book.newService, Function.update_idem]
    rw [← unused, Function.update_eq_self]
  · simp [Book.newService, List.erase_append_right _ unlisted]

omit [DecidableEq Dev] in
theorem Book.SameCounters.trans {first second third : Book Dev}
    (left : first.SameCounters second) (right : second.SameCounters third) :
    first.SameCounters third :=
  ⟨right.usage.trans left.usage, right.slot.trans left.slot, right.ref.trans left.ref,
    right.serviceList.trans left.serviceList⟩

end Inverses

/-! ### One section -/

section Sections

variable [Fintype Dev] {tables after : Tables Dev} {original : Book Dev} {thread : Thread Dev}
  {next : Next Dev} {dev : Dev} {service : Nat} {holds : Holds Dev}

private theorem openStart_undoes {uuid : Uuid} (counted : tables.book.Counted holds)
    (opened : tables.book.phase dev = .opened) (same : original.SameCounters tables.book)
    (ran : openStartSection tables dev uuid = some (after, next)) :
    next.Undoes original after.book := by
  rw [openStartSection] at ran
  split at ran
  · cases ran
  · obtain ⟨touched, result, _, _⟩ | ⟨touched, result, _⟩ |
      ⟨index, service, found, touched, result, stored, room, book, _, _, _⟩ :=
      tables.tcRefServiceInDev_cases dev uuid
    · simp only [result, Option.some.injEq, Prod.mk.injEq] at ran
      obtain ⟨rfl, rfl⟩ := ran
      change original.SameCounters (Tables.lockServices _ _ _).book
      rw [Tables.book_lockServices]
      exact same
    · simp only [result, Option.some.injEq, Prod.mk.injEq] at ran
      obtain ⟨rfl, rfl⟩ := ran
      exact fun _ => same
    · simp only [result, Option.some.injEq, Prod.mk.injEq] at ran
      obtain ⟨rfl, rfl⟩ := ran
      have here := counted.refs.opened dev opened
      have positive := here.positive index service stored
      have bound := here.bounded index
      have noWrap : (tables.book.ref dev index + 1) % 256 = tables.book.ref dev index + 1 := by
        unfold maxRefCount at bound room
        omega
      rw [noWrap] at book
      have raised : found.book.ref dev index = tables.book.ref dev index + 1 := by
        rw [book]
        simp [Book.setRef]
      rw [Next.Undoes, Thread.Undoes]
      refine ⟨index, by rw [book]; exact stored, Or.inl ⟨by omega, ?_⟩⟩
      rw [raised, Nat.add_sub_cancel, book, Book.setRef_setRef, Book.setRef_self]
      exact same

private theorem openFindAll_undoes {uuid : Uuid} {choice : Choice}
    (counted : tables.book.Counted holds) (same : original.SameCounters tables.book)
    (ran : openFindAllSection tables choice dev uuid = some (after, next)) :
    next.Undoes original after.book := by
  simp only [openFindAllSection] at ran
  split at ran
  · next service found =>
      have listed := (Tables.tcFindServiceFromAll_eq_some found).1
      have used := (counted.services.listed service).mp listed
      cases ran
      rw [Next.Undoes, Thread.Undoes, Tables.book_getServiceStruct]
      exact same.trans (.putService_getService used)
  · split at ran
    · cases ran
      have unlisted : tables.book.serviceCount ∉ tables.book.serviceList := fun listed =>
        Nat.lt_irrefl _ (counted.services.created _ listed)
      have unused : tables.book.usage tables.book.serviceCount = 0 := by
        by_contra used
        exact unlisted ((counted.services.listed _).mpr (Nat.pos_of_ne_zero used))
      rw [Next.Undoes, Thread.Undoes, Tables.book_tcNsServiceInit]
      exact same.trans (.putService_newService unlisted unused)
    · cases ran
      intro _
      rw [Tables.book_lockServices]
      exact same

private theorem openAddDev_undoes (counted : tables.book.Counted holds)
    (opened : tables.book.phase dev = .opened)
    (same : original.SameCounters (tables.book.putService service))
    (ran : openAddDevSection tables dev service = some (after, next)) :
    next.Undoes original after.book := by
  simp only [openAddDevSection] at ran
  split at ran
  · next added search =>
      obtain ⟨index, free, book, _, _⟩ := Tables.addServiceToDev_eq_some search
      have unnumbered := (counted.refs.opened dev opened).empty index free
      cases ran
      rw [Next.Undoes, Thread.Undoes, Tables.book_lockServices, book]
      refine ⟨index, ?_, Or.inr ⟨?_, ?_⟩⟩
      · exact Book.setSlot_slot_self _
      · simp [Book.setRef]
      · rw [Book.clearSlot_addSlot free unnumbered]
        exact same
  · cases ran
    rw [Next.Undoes, Thread.Undoes, Tables.book_lockServices]
    exact same

private theorem openUndo_undoes (counted : tables.book.Counted holds)
    (opened : tables.book.phase dev = .opened)
    (owed : (Thread.openUndo dev service).Undoes original tables.book)
    (ran : openUndoSection tables dev service = some (after, next)) :
    next.Undoes original after.book := by
  obtain ⟨index, stored, restores⟩ := owed
  have once (place : Fin servicesMaxCount) (occupied : tables.book.slot dev place = some service) :
      place = index := counted.refs.slotOnce dev place index service occupied stored
  have positive := (counted.refs.opened dev opened).positive index service stored
  rw [openUndoSection] at ran
  split at ran
  · cases ran
  · obtain ⟨flag, last, book⟩ | ⟨flag, more, book⟩ :=
      Tables.delServiceFromDev_cases stored once positive
    · rcases restores with ⟨more, _⟩ | ⟨_, same⟩
      · exact absurd last more
      · split at ran
        · next deleted result =>
            rw [result] at book
            cases ran
            rw [Next.Undoes, Thread.Undoes, Tables.book_lockServices, book]
            exact same
        · next deleted result =>
            rw [result] at flag
            cases flag
    · rcases restores with ⟨_, same⟩ | ⟨last, _⟩
      · split at ran
        · next deleted result =>
            rw [result] at flag
            cases flag
        · next deleted result =>
            rw [result] at book
            cases ran
            intro _
            rw [book]
            exact same
      · exact absurd last more

theorem stepThread_undoes {choice : Choice} (counted : tables.book.Counted holds)
    (opened : ∀ dev, thread.ioctlDev = some dev → tables.book.phase dev = .opened)
    (owed : thread.Undoes original tables.book)
    (ran : stepThread tables choice thread = some (after, next)) :
    next.Undoes original after.book := by
  cases thread with
  | openStart dev uuid => exact openStart_undoes counted (opened dev rfl) owed ran
  | openFindAll dev uuid => exact openFindAll_undoes counted owed ran
  | openAddDev dev service => exact openAddDev_undoes counted (opened dev rfl) owed ran
  | openPut dev service =>
      cases ran
      intro _
      rw [Tables.book_putServiceStruct]
      exact owed
  | openReferenced dev service =>
      change openReferencedSection tables choice dev service = _ at ran
      rw [openReferencedSection] at ran
      split at ran
      · split at ran
        · cases ran
        · cases ran
          rw [Next.Undoes, Tables.book_lockOperation]
          exact owed
      · cases ran
        exact owed
  | openLocked dev service =>
      change openLockedSection tables choice dev service = _ at ran
      rw [openLockedSection] at ran
      split at ran
      · cases ran
        intro failed
        cases failed
      · cases ran
        rw [Next.Undoes, Tables.book_lockOperation]
        exact owed
  | openUndo dev service => exact openUndo_undoes counted (opened dev rfl) owed ran
  | openUndoPut dev service =>
      cases ran
      intro _
      rw [Tables.book_lockServices, Tables.book_putServiceStruct]
      exact owed
  | _ => cases owed

omit [Fintype Dev] in
theorem Thread.careful_of_undoes {book : Book Dev} (owed : thread.Undoes original book) :
    thread.Careful book := by
  cases thread with
  | findStart => cases owed
  | _ => trivial

/-! ### The whole call -/

/-- The invariant goes along, so the rest of the system may be in any state. -/
theorem RunsAlone.restores {rest : Multiset (Thread Dev)} {success : Bool}
    (runs : RunsAlone tables thread after success)
    (invariant : Invariant ⟨tables, thread ::ₘ rest⟩)
    (owed : thread.Undoes original tables.book) (failed : success = false) :
    original.SameCounters after.book := by
  induction runs with
  | last ran =>
      have known := invariant.facts _ (Multiset.mem_cons_self _ _)
      exact stepThread_undoes invariant.counted known.opened owed ran failed
  | more ran _ ih =>
      have known := invariant.facts _ (Multiset.mem_cons_self _ _)
      have nextOwed := stepThread_undoes invariant.counted known.opened owed ran
      exact ih (invariant.run (Thread.careful_of_undoes owed) ran) nextOwed failed

end Sections

/-! ### Reference counts of services -/

section Results

variable [Fintype Dev]

/-- In every run whose notifications look only at files with all their references,
the counters of services and slots are what their users hold, and an open that
fails leaves them as they were. -/
theorem service_references_counted {world : World Dev}
    (reached : (sessionMachine.restrict Careful).Reachable world) :
    ServiceAccount world ∧
      ∀ dev uuid after, (world.tables.devs dev).phase = .opened →
        RunsAlone world.tables (.openStart dev uuid) after false →
          (∀ service, (after.services service).usage = (world.tables.services service).usage) ∧
            ∀ other, (after.devs other).services = (world.tables.devs other).services ∧
              (after.devs other).serviceRef = (world.tables.devs other).serviceRef := by
  have invariant := invariant_of_reachable reached
  refine ⟨invariant.serviceAccount, ?_⟩
  intro dev uuid after opened runs
  have joined : Invariant ⟨world.tables, .openStart dev uuid ::ₘ world.threads⟩ := by
    refine invariant.join rfl rfl ⟨?_, trivial⟩
    intro _ impossible
    cases impossible
    exact opened
  have same := runs.restores joined ⟨rfl, rfl, rfl, rfl⟩ rfl
  exact ⟨fun service => congrFun same.usage service,
    fun other => ⟨congrFun same.slot other, congrFun same.ref other⟩⟩

def openShared (uuid : Uuid) : List (Label Bool) :=
  let first : Choice := ⟨true, 5⟩
  let second : Choice := ⟨true, 6⟩
  [.start (.openSession false uuid), .start (.openSession true uuid),
    .run (.openStart false uuid) first, .run (.openStart true uuid) second,
    .run (.openFindAll true uuid) second, .run (.openFindAll false uuid) first,
    .run (.openAddDev false 0) first, .run (.openAddDev true 0) second,
    .run (.openReferenced false 0) first, .run (.openLocked false 0) first,
    .run (.openReferenced true 0) second, .run (.openLocked true 0) second]

theorem service_references_counted_open_shared :
    ∃ world : World Bool, (world.tables.services 0).usage = 2 ∧ ServiceAccount world := by
  have ran : ((Machine.replay World.execIoctl ⟨Tables.initial, 0⟩ (openShared 7#128)).map
      fun world => decide ((world.tables.services 0).usage = 2)) = some true := by
    decide +kernel
  obtain ⟨world, reached, usage⟩ := Machine.Reachable.exists_of_replay
    (fun _ _ _ => World.execIoctl_sound) (.start rfl) ran
  exact ⟨world, of_decide_eq_true usage,
    (service_references_counted (careful_of_ioctlMachine reached)).1⟩

def openOnce (uuid : Uuid) (sessionId : UInt32) : List (Label Unit) :=
  let works : Choice := ⟨true, sessionId⟩
  [.start (.openSession () uuid), .run (.openStart () uuid) works,
    .run (.openFindAll () uuid) works, .run (.openAddDev () 0) works,
    .run (.openReferenced () 0) works, .run (.openLocked () 0) works]

/-- The file of `openOnce` is closed, and a notification for it comes when the close
thread has put the service. -/
def notifyWhileClosing (uuid : Uuid) (sessionId : UInt32) : List (Label Unit) :=
  let works : Choice := ⟨true, sessionId⟩
  openOnce uuid sessionId ++
    [.closeFd (), .run (.fdScan () 0) works, .run (.fdLock () 0 0) works,
      .run (.fdClosing () 0 0 [0] 0) works, .run (.fdUnlinked () 0 0 0 [] 1) works,
      .run (.fdClosing () 0 0 [] 1) works, .run (.fdPut () 0 0 1) works,
      .start (.notify () uuid sessionId), .run (.findStart .notify () uuid sessionId) works]

/-- The notification reads the freed service through the slot that still names it,
and counts itself in a service that is on no list. -/
theorem service_references_not_counted :
    ∃ world : World Unit, sessionMachine.Reachable world ∧ world.tables.fault = true ∧
      0 < (world.tables.services 0).usage ∧ 0 ∉ world.tables.serviceList ∧
      ¬ServiceAccount world := by
  have ran : ((Machine.replay World.exec ⟨Tables.initial, 0⟩ (notifyWhileClosing 7#128 5)).map
      fun world => decide (world.tables.fault = true ∧ 0 < (world.tables.services 0).usage ∧
        0 ∉ world.tables.serviceList)) = some true := by
    decide +kernel
  have start : sessionMachine.Reachable (⟨Tables.initial, 0⟩ : World Unit) := .start rfl
  obtain ⟨world, reached, passed⟩ := start.exists_of_replay (fun _ _ _ => World.exec_sound) ran
  obtain ⟨fault, used, unlisted⟩ := of_decide_eq_true passed
  exact ⟨world, reached, fault, used, unlisted, fun account => unlisted ((account.listed 0).mpr used)⟩

end Results

end TzDriver.Session
