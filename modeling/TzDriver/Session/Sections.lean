/-
Each section keeps the counts, the locks and the facts.

`Sound` is what the invariant says of one thread and the tables, with the rest of
the threads as an account of what they hold.  Every section of the driver takes a
sound thread to a sound one and stays inside its frame.
-/

import Mathlib.Tactic.Abel
import TzDriver.Session.Frame

namespace TzDriver.Session

variable {Dev : Type} [DecidableEq Dev]

def Next.Local (book : Book Dev) : Next Dev → Prop
  | .goes thread => thread.Local book
  | .returns _ => True

structure Sound [Fintype Dev] (tables : Tables Dev) (next : Next Dev) (held : Holds Dev)
    (locked : Locks Dev) : Prop where
  counted : tables.book.Counted (next.holds + held)
  locks : LockCounts tables.lockView (next.locks + locked)
  facts : next.Local tables.book
  fault : tables.fault = false

/-- A section ran from `tables` to `after` and left `next`. -/
structure Kept [Fintype Dev] (tables : Tables Dev) (thread : Thread Dev) (after : Tables Dev)
    (next : Next Dev) (held : Holds Dev) (locked : Locks Dev) : Prop where
  sound : Sound after next held locked
  frame : Frame tables.lockView tables.book after.book thread

section Sections

variable [Fintype Dev] {tables after : Tables Dev} {thread : Thread Dev} {next : Next Dev}
  {held : Holds Dev} {locked : Locks Dev} {dev : Dev} {service session : Nat}

theorem Kept.of_book {book : Book Dev} {view : LockView Dev} (bookEq : after.book = book)
    (viewEq : after.lockView = view) (counted : book.Counted (next.holds + held))
    (locks : LockCounts view (next.locks + locked)) (facts : next.Local book)
    (fault : after.fault = false) (frame : Frame tables.lockView tables.book book thread) :
    Kept tables thread after next held locked := by
  subst bookEq viewEq
  exact ⟨⟨counted, locks, facts, fault⟩, frame⟩

/-! ### What a sound thread can touch -/

section Touched

variable {holds : Holds Dev}

/-- Every slot of the file still owns the reference to its service. -/
def Book.OwnsSlots (book : Book Dev) (dev : Dev) : Prop :=
  ∀ index service, book.slot dev index = some service → (book.phase dev).live index = true

omit [DecidableEq Dev] [Fintype Dev] in
theorem Book.OwnsSlots.of_opened {book : Book Dev} (opened : book.phase dev = .opened) :
    book.OwnsSlots dev := by
  intro index service _
  rw [opened]
  rfl

theorem untouched_slots (counted : tables.book.Counted holds) (fault : tables.fault = false)
    (live : tables.book.OwnsSlots dev) {touched : List Nat}
    (slots : ∀ service ∈ touched, ∃ index, tables.book.slot dev index = some service) :
    (tables.touchServices touched).fault = false := by
  have unfreed : touched.any tables.book.freed = false := by
    rw [List.any_eq_false]
    intro service member
    obtain ⟨index, stored⟩ := slots service member
    have used := counted.services.usage_pos_of_slot stored (live index service stored)
    rw [counted.services.alive used]
    exact Bool.false_ne_true
  rw [Tables.fault_touchServices, fault, unfreed]
  rfl

theorem untouched_list (counted : tables.book.Counted holds) (fault : tables.fault = false) :
    (tables.touchServices tables.serviceList).fault = false := by
  have unfreed : tables.serviceList.any tables.book.freed = false := by
    rw [List.any_eq_false]
    intro service member
    rw [counted.services.alive ((counted.services.listed service).mp member)]
    exact Bool.false_ne_true
  rw [Tables.fault_touchServices, fault, unfreed]
  rfl

theorem untouched_sessions (counted : tables.book.Counted holds) (service : Nat) :
    (tables.book.sessionList service).any tables.book.sessionFreed = false := by
  rw [List.any_eq_false]
  intro session member
  rw [counted.sessions.alive (counted.sessions.usage_pos_of_mem member)]
  exact Bool.false_ne_true

end Touched

/-! ### `tc_ns_open_session` -/

private theorem openStart_kept {uuid : Uuid}
    (sound : Sound tables (.goes (.openStart dev uuid)) held locked)
    (ran : openStartSection tables dev uuid = some (after, next)) :
    Kept tables (.openStart dev uuid) after next held locked := by
  obtain ⟨counted, locks, ⟨open_, _⟩, fault⟩ := sound
  have opened := open_ dev rfl
  simp only [Next.holds, Thread.holds, Next.locks, Thread.locks, zero_add] at counted locks
  have live := Book.OwnsSlots.of_opened opened
  rw [openStartSection] at ran
  split at ran
  · cases ran
  · next unlocked =>
      obtain ⟨touched, result, slots, missing⟩ | ⟨touched, result, slots⟩ |
        ⟨index, service, found, touched, result, stored, room, book, view, faults, slots⟩ :=
        tables.tcRefServiceInDev_cases dev uuid
      · simp only [result, Option.some.injEq, Prod.mk.injEq] at ran
        obtain ⟨rfl, rfl⟩ := ran
        exact .of_book (Tables.book_lockServices _ _ _) (Tables.lockView_lockServices _ _ _)
          (by simpa [Next.holds, Thread.holds] using counted)
          (locks.lockServices (Bool.eq_false_iff.mpr unlocked)) ⟨open_, missing⟩
          (untouched_slots counted fault live slots) .refl
      · simp only [result, Option.some.injEq, Prod.mk.injEq] at ran
        obtain ⟨rfl, rfl⟩ := ran
        exact .of_book rfl rfl (by simpa [Next.holds] using counted)
          (by simpa [Next.locks] using locks) trivial (untouched_slots counted fault live slots)
          .refl
      · simp only [result, Option.some.injEq, Prod.mk.injEq] at ran
        obtain ⟨rfl, rfl⟩ := ran
        exact .of_book book view (counted.refSlot stored room opened)
          (by simpa [Next.locks, Thread.locks] using locks) ⟨open_, trivial⟩
          (faults.trans (untouched_slots counted fault live slots))
          (.of_same rfl rfl rfl rfl rfl)

private theorem openFindAll_kept {uuid : Uuid}
    (sound : Sound tables (.goes (.openFindAll dev uuid)) held locked) {choice : Choice}
    (ran : openFindAllSection tables choice dev uuid = some (after, next)) :
    Kept tables (.openFindAll dev uuid) after next held locked := by
  obtain ⟨counted, locks, ⟨open_, missing⟩, fault⟩ := sound
  have opened := open_ dev rfl
  simp only [Next.holds, Thread.holds, Next.locks, Thread.locks, zero_add] at counted locks
  have untouched := untouched_list counted fault
  simp only [openFindAllSection] at ran
  split at ran
  · next service found =>
      obtain ⟨listed, same⟩ := Tables.tcFindServiceFromAll_eq_some found
      have used := (counted.services.listed service).mp listed
      cases ran
      refine .of_book (Tables.book_getServiceStruct _ _) (Tables.lockView_getServiceStruct _ _)
        (counted.getService used) locks ⟨open_, ?_⟩ ?_ (.of_same rfl rfl rfl rfl rfl)
      · intro index stored
        exact missing index service stored same
      · rw [Tables.fault_getServiceStruct, untouched]
        exact counted.services.alive used
  · next absent =>
      have unlisted := Tables.tcFindServiceFromAll_eq_none absent
      split at ran
      · cases ran
        refine .of_book (Tables.book_tcNsServiceInit _ _) (Tables.lockView_tcNsServiceInit _ _)
          (counted.newService unlisted) locks.newService ⟨open_, ?_⟩ untouched
          (.newService counted _)
        intro index stored
        have used := counted.services.usage_pos_of_slot stored
          (Book.OwnsSlots.of_opened opened index _ stored)
        exact Nat.lt_irrefl _ (counted.services.lt_serviceCount used)
      · cases ran
        exact .of_book (Tables.book_lockServices _ _ _) (Tables.lockView_lockServices _ _ _)
          (by simpa [Next.holds] using counted) (by simpa [Next.locks] using locks.unlockServices)
          trivial untouched .refl

private theorem openAddDev_kept
    (sound : Sound tables (.goes (.openAddDev dev service)) held locked)
    (ran : openAddDevSection tables dev service = some (after, next)) :
    Kept tables (.openAddDev dev service) after next held locked := by
  obtain ⟨counted, locks, ⟨open_, absent⟩, fault⟩ := sound
  have opened := open_ dev rfl
  simp only [Next.holds, Thread.holds, Next.locks, Thread.locks] at counted locks
  simp only [openAddDevSection] at ran
  split at ran
  · next added search =>
      obtain ⟨index, free, book, view, faults⟩ := Tables.addServiceToDev_eq_some search
      cases ran
      refine .of_book ((Tables.book_lockServices _ _ _).trans book) (Tables.lockView_lockServices _ _ _)
        (counted.addSlot free absent opened) ?_ ⟨open_, trivial⟩ (faults.trans fault)
        (.slots rfl (Or.inl (by simp [Thread.locks, insideServices])))
      rw [view]
      simpa [Next.locks, Thread.locks] using locks.unlockServices
  · cases ran
    exact .of_book (Tables.book_lockServices _ _ _) (Tables.lockView_lockServices _ _ _) counted
      (by simpa [Next.locks, Thread.locks] using locks.unlockServices) ⟨open_, trivial⟩ fault .refl

private theorem openPut_kept (sound : Sound tables (.goes (.openPut dev service)) held locked) :
    Kept tables (.openPut dev service) (tables.putServiceStruct service) (.returns false) held locked := by
  obtain ⟨counted, locks, _, fault⟩ := sound
  simp only [Next.holds, Thread.holds, Next.locks, Thread.locks] at counted locks
  refine .of_book (Tables.book_putServiceStruct _ _) (Tables.lockView_putServiceStruct _ _)
    (by simpa [Next.holds] using counted.putService) locks trivial ?_ .putService
  rw [Tables.fault_putServiceStruct, fault]
  exact counted.services.alive counted.usage_pos_of_hold

private theorem openReferenced_kept
    (sound : Sound tables (.goes (.openReferenced dev service)) held locked) {choice : Choice}
    (ran : openReferencedSection tables choice dev service = some (after, next)) :
    Kept tables (.openReferenced dev service) after next held locked := by
  obtain ⟨counted, locks, ⟨open_, _⟩, fault⟩ := sound
  simp only [Next.holds, Thread.holds, Next.locks, Thread.locks, zero_add] at counted locks
  have used := counted.usage_pos_of_ref (open_ dev rfl)
  simp only [openReferencedSection] at ran
  split at ran
  · split at ran
    · cases ran
    · next unlocked =>
        cases ran
        refine .of_book (Tables.book_lockOperation _ _ _) (Tables.lockView_lockOperation _ _ _)
          counted (locks.lockOperation (Bool.eq_false_iff.mpr unlocked)
            (counted.services.lt_serviceCount used)) ⟨open_, trivial⟩ ?_ .refl
        rw [Tables.fault_lockOperation, fault]
        exact counted.services.alive used
  · cases ran
    exact .of_book rfl rfl counted (by simpa [Next.locks, Thread.locks] using locks)
      ⟨open_, trivial⟩ fault .refl

private theorem openLocked_kept
    (sound : Sound tables (.goes (.openLocked dev service)) held locked) {choice : Choice}
    (ran : openLockedSection tables choice dev service = some (after, next)) :
    Kept tables (.openLocked dev service) after next held locked := by
  obtain ⟨counted, locks, ⟨open_, _⟩, fault⟩ := sound
  simp only [Next.holds, Thread.holds, Next.locks, Thread.locks] at counted locks
  have used := counted.usage_pos_of_ref (open_ dev rfl)
  have alive := counted.services.alive used
  simp only [openLockedSection] at ran
  split at ran
  · cases ran
    refine .of_book ((Tables.book_lockOperation _ _ _).trans (Tables.book_initNewSessNode _ _ _ _))
      (Tables.lockView_lockOperation _ _ _)
      (by simpa [Next.holds] using counted.publish (counted.services.lt_serviceCount used)) ?_
      trivial ?_ (.publish counted.sessions)
    · rw [Tables.lockView_initNewSessNode]
      simpa [Next.locks] using locks.unlockOperation
    · rw [Tables.fault_lockOperation, Tables.fault_initNewSessNode, Tables.book_initNewSessNode,
        fault, alive]
      exact alive
  · cases ran
    refine .of_book (Tables.book_lockOperation _ _ _) (Tables.lockView_lockOperation _ _ _)
      counted (by simpa [Next.locks, Thread.locks] using locks.unlockOperation) ⟨open_, trivial⟩ ?_
      .refl
    rw [Tables.fault_lockOperation, fault, alive]
    rfl

/-- `del_service_from_dev` by a thread with a number in its own open file: either
the number goes, or the slot does and the thread has its reference to put. -/
private theorem delServiceFromDev_kept (thread : Thread Dev) {account : Holds Dev}
    (counted : tables.book.Counted (holdRef dev service + account))
    (opened : tables.book.phase dev = .opened) (own : thread.ioctlDev = some dev)
    (unlocked : tables.lockView.serviceLock dev = false) :
    Frame tables.lockView tables.book (tables.delServiceFromDev dev service).1.book thread ∧
      (tables.delServiceFromDev dev service).1.book.phase = tables.book.phase ∧
      (tables.delServiceFromDev dev service).1.book.freed = tables.book.freed ∧
      (tables.delServiceFromDev dev service).1.book.Counted
        (if (tables.delServiceFromDev dev service).2 then holdService service + account
          else account) := by
  have refs := counted.refs
  rw [holdRef_refs] at refs
  obtain ⟨index, stored, number⟩ := refs.slot_of_held opened
  have once (place : Fin servicesMaxCount) (occupied : tables.book.slot dev place = some service) :
      place = index := refs.slotOnce dev place index service occupied stored
  obtain ⟨result, last, book⟩ | ⟨result, more, book⟩ :=
    Tables.delServiceFromDev_cases stored once (by omega)
  · rw [book, result, if_pos rfl]
    exact ⟨.slots own (Or.inr unlocked), rfl, rfl, counted.clearSlot stored last opened⟩
  · rw [book, result, if_neg Bool.false_ne_true]
    exact ⟨.of_same rfl rfl rfl rfl rfl, rfl, rfl, counted.unrefSlot stored more opened⟩

private theorem openUndo_kept (sound : Sound tables (.goes (.openUndo dev service)) held locked)
    (ran : openUndoSection tables dev service = some (after, next)) :
    Kept tables (.openUndo dev service) after next held locked := by
  obtain ⟨counted, locks, ⟨open_, _⟩, fault⟩ := sound
  have opened := open_ dev rfl
  simp only [Next.holds, Thread.holds, Next.locks, Thread.locks, zero_add] at counted locks
  rw [openUndoSection] at ran
  split at ran
  · cases ran
  · next held_ =>
      have unlocked := Bool.eq_false_iff.mpr held_
      obtain ⟨frame, phase, _, kept⟩ :=
        delServiceFromDev_kept (.openUndo dev service) counted opened rfl unlocked
      obtain ⟨view, faults⟩ := tables.delServiceFromDev_frame dev service
      split at ran
      · next deleted result =>
          rw [result] at frame phase kept view faults
          cases ran
          refine .of_book (Tables.book_lockServices _ _ _) (Tables.lockView_lockServices _ _ _)
            kept ?_ ⟨?_, trivial⟩ (faults.trans fault) frame
          · rw [view]
            exact locks.lockServices unlocked
          · rw [phase]
            exact open_
      · next deleted result =>
          rw [result] at frame phase kept view faults
          cases ran
          exact .of_book rfl view (by simpa [Next.holds] using kept)
            (by simpa [Next.locks] using locks) trivial (faults.trans fault) frame

private theorem openUndoPut_kept
    (sound : Sound tables (.goes (.openUndoPut dev service)) held locked) :
    Kept tables (.openUndoPut dev service)
      ((tables.putServiceStruct service).lockServices dev false) (.returns false) held locked := by
  obtain ⟨counted, locks, _, fault⟩ := sound
  simp only [Next.holds, Thread.holds, Next.locks, Thread.locks] at counted locks
  refine .of_book ((Tables.book_lockServices _ _ _).trans (Tables.book_putServiceStruct _ _))
    (Tables.lockView_lockServices _ _ _) (by simpa [Next.holds] using counted.putService) ?_
    trivial ?_ .putService
  · rw [Tables.lockView_putServiceStruct]
    simpa [Next.locks] using locks.unlockServices
  · rw [Tables.fault_lockServices, Tables.fault_putServiceStruct, fault]
    exact counted.services.alive counted.usage_pos_of_hold

/-! ### `tc_ns_close_session` -/

private theorem tcFindServiceInDev_kept (uuid : Uuid) {account : Holds Dev}
    (counted : tables.book.Counted account) (owns : tables.book.OwnsSlots dev)
    (fault : tables.fault = false) :
    (∃ touched, tables.tcFindServiceInDev dev uuid = (tables.touchServices touched, none) ∧
        (tables.touchServices touched).fault = false) ∨
      ∃ touched service,
        tables.tcFindServiceInDev dev uuid = (tables.touchServices touched, some service) ∧
        0 < tables.book.usage service ∧
        ((tables.touchServices touched).getServiceStruct service).fault = false := by
  obtain ⟨touched, slots, result | ⟨index, service, stored, result⟩⟩ :=
    tables.tcFindServiceInDev_cases dev uuid
  · exact Or.inl ⟨touched, result, untouched_slots counted fault owns slots⟩
  · have used := counted.services.usage_pos_of_slot stored (owns index service stored)
    refine Or.inr ⟨touched, service, result, used, ?_⟩
    rw [Tables.fault_getServiceStruct, untouched_slots counted fault owns slots]
    exact counted.services.alive used

private theorem closeStart_kept {uuid : Uuid} {sessionId : UInt32}
    (sound : Sound tables (.goes (.closeStart dev uuid sessionId)) held locked)
    (ran : closeStartSection tables dev uuid sessionId = some (after, next)) :
    Kept tables (.closeStart dev uuid sessionId) after next held locked := by
  obtain ⟨counted, locks, ⟨open_, _⟩, fault⟩ := sound
  simp only [Next.holds, Thread.holds, Next.locks, Thread.locks, zero_add] at counted locks
  rw [closeStartSection] at ran
  split at ran
  · cases ran
  · obtain ⟨touched, result, faults⟩ | ⟨touched, service, result, used, faults⟩ :=
      tcFindServiceInDev_kept uuid counted (.of_opened (open_ dev rfl)) fault
    · simp only [result, Option.some.injEq, Prod.mk.injEq] at ran
      obtain ⟨rfl, rfl⟩ := ran
      exact .of_book rfl rfl (by simpa [Next.holds] using counted)
        (by simpa [Next.locks] using locks) trivial faults .refl
    · simp only [result, Option.some.injEq, Prod.mk.injEq] at ran
      obtain ⟨rfl, rfl⟩ := ran
      exact .of_book (Tables.book_getServiceStruct _ _) (Tables.lockView_getServiceStruct _ _)
        (counted.getService used) (by simpa [Next.locks, Thread.locks] using locks)
        ⟨open_, trivial⟩ faults (.of_same rfl rfl rfl rfl rfl)

private theorem closeHasService_kept {sessionId : UInt32}
    (sound : Sound tables (.goes (.closeHasService dev service sessionId)) held locked)
    (ran : closeHasServiceSection tables dev service sessionId = some (after, next)) :
    Kept tables (.closeHasService dev service sessionId) after next held locked := by
  obtain ⟨counted, locks, ⟨open_, _⟩, fault⟩ := sound
  simp only [Next.holds, Thread.holds, Next.locks, Thread.locks, zero_add] at counted locks
  have used := counted.usage_pos_of_hold
  rw [closeHasServiceSection] at ran
  split at ran
  · cases ran
  · next unlocked =>
      cases ran
      refine .of_book (Tables.book_lockOperation _ _ _) (Tables.lockView_lockOperation _ _ _)
        counted (locks.lockOperation (Bool.eq_false_iff.mpr unlocked)
          (counted.services.lt_serviceCount used)) ⟨open_, trivial⟩ ?_ .refl
      rw [Tables.fault_lockOperation, fault]
      exact counted.services.alive used

private theorem getSession_kept (sessionId : UInt32) (dev : Dev) {account : Holds Dev}
    (counted : tables.book.Counted account) (used : 0 < tables.book.usage service)
    (fault : tables.fault = false) :
    (∃ after, tables.getSession service sessionId dev = (after, none) ∧
        after.book = tables.book ∧ after.lockView = tables.lockView ∧ after.fault = false) ∨
      ∃ after session, tables.getSession service sessionId dev = (after, some session) ∧
        session ∈ tables.book.sessionList service ∧ tables.book.owner session = some dev ∧
        after.book = tables.book.getSession session ∧ after.lockView = tables.lockView ∧
        after.fault = false := by
  have untouched : ((tables.touchServices [service]).touchSessions
      (tables.services service).sessionList).fault = false := by
    have sessions := untouched_sessions counted service
    rw [Tables.fault_touchSessions, Tables.fault_touchServices, fault, List.any_cons,
      counted.services.alive used]
    exact sessions
  cases search : tables.tcFindSessionWithowner service sessionId dev with
  | none =>
      refine Or.inl ⟨(tables.getSession service sessionId dev).1, ?_, ?_⟩ <;>
        simp only [Tables.getSession, search]
      exact ⟨rfl, rfl, untouched⟩
  | some session =>
      obtain ⟨member, owned⟩ := Tables.tcFindSessionWithowner_eq_some search
      refine Or.inr ⟨(tables.getSession service sessionId dev).1, session, ?_, member, owned, ?_⟩ <;>
        simp only [Tables.getSession, search]
      refine ⟨Tables.book_getSessionStruct _ _, rfl, ?_⟩
      rw [Tables.fault_getSessionStruct, untouched]
      exact counted.sessions.alive (counted.sessions.usage_pos_of_mem member)

private theorem closeLocked_kept {sessionId : UInt32}
    (sound : Sound tables (.goes (.closeLocked dev service sessionId)) held locked)
    (ran : closeLockedSection tables dev service sessionId = some (after, next)) :
    Kept tables (.closeLocked dev service sessionId) after next held locked := by
  obtain ⟨counted, locks, ⟨open_, _⟩, fault⟩ := sound
  simp only [Next.holds, Thread.holds, Next.locks, Thread.locks] at counted locks
  have used := counted.usage_pos_of_hold
  rw [closeLockedSection] at ran
  obtain ⟨found, result, book, view, faults⟩ |
    ⟨found, session, result, member, owned, book, view, faults⟩ :=
    getSession_kept sessionId dev counted used fault
  · simp only [result, Option.some.injEq, Prod.mk.injEq] at ran
    obtain ⟨rfl, rfl⟩ := ran
    refine .of_book ((Tables.book_lockOperation _ _ _).trans book)
      (Tables.lockView_lockOperation _ _ _) counted ?_ ⟨open_, trivial⟩ ?_ .refl
    · rw [view]
      simpa [Next.locks, Thread.locks] using locks.unlockOperation
    · rw [Tables.fault_lockOperation, faults, book]
      exact counted.services.alive used
  · simp only [result, Option.some.injEq, Prod.mk.injEq] at ran
    obtain ⟨rfl, rfl⟩ := ran
    refine .of_book book view ?_ locks ⟨open_, member, owned⟩ faults
      (.of_same rfl rfl rfl rfl rfl)
    have taken := counted.getSession (counted.sessions.usage_pos_of_mem member)
    rwa [add_left_comm, ← add_assoc] at taken

private theorem closeCalling_kept
    (sound : Sound tables (.goes (.closeCalling dev service session)) held locked) :
    Kept tables (.closeCalling dev service session) (tables.unlinkSession service session)
      (.goes (.closeUnlinked dev service session)) held locked := by
  obtain ⟨counted, locks, ⟨open_, member, owned⟩, fault⟩ := sound
  simp only [Next.holds, Thread.holds, Next.locks, Thread.locks, add_assoc] at counted locks
  refine .of_book (Tables.book_unlinkSession _ _ _) (Tables.lockView_unlinkSession _ _ _) ?_ locks
    ⟨open_, trivial⟩ ?_ (.unlink (by simp [Thread.locks, insideOperation]) member owned
      (Or.inl rfl))
  · have unlinked := counted.unlink member owned
    simp only [Next.holds, Thread.holds]
    rw [show holdSession session + holdSession session + holdRef dev service +
      holdService service + held = holdRef dev service + (holdSession session +
        (holdService service + (holdSession session + held))) by abel]
    exact unlinked
  · have contained : (tables.book.sessionList service).contains session = true :=
      List.contains_iff_mem.mpr member
    rw [Tables.fault_unlinkSession, fault, contained,
      counted.services.alive counted.usage_pos_of_hold,
      counted.sessions.alive (counted.sessions.usage_pos_of_mem member)]
    rfl

private theorem putSession_kept {before later : Thread Dev}
    (holds : before.holds = holdSession session + later.holds) (same : before.locks = later.locks)
    (facts : later.Local (tables.book.putSession session))
    (sound : Sound tables (.goes before) held locked) :
    Kept tables before (tables.putSessionStruct session) (.goes later) held locked := by
  obtain ⟨counted, locks, _, fault⟩ := sound
  rw [Next.holds, holds, add_assoc] at counted
  rw [Next.locks, same] at locks
  refine .of_book (Tables.book_putSessionStruct _ _) (Tables.lockView_putSessionStruct _ _)
    counted.putSession locks facts ?_ (.of_same rfl rfl rfl rfl rfl)
  rw [Tables.fault_putSessionStruct, fault]
  exact counted.sessions.alive counted.session_pos_of_hold

private theorem closeUnlinked_kept
    (sound : Sound tables (.goes (.closeUnlinked dev service session)) held locked) :
    Kept tables (.closeUnlinked dev service session) (tables.putSessionStruct session)
      (.goes (.closePutOnce dev service session)) held locked := by
  apply putSession_kept
  · simp only [Thread.holds, add_assoc]
  · rfl
  · exact ⟨sound.facts.1, trivial⟩
  · exact sound

private theorem closePutOnce_kept
    (sound : Sound tables (.goes (.closePutOnce dev service session)) held locked) :
    Kept tables (.closePutOnce dev service session) (tables.putSessionStruct session)
      (.goes (.closeDel dev service)) held locked := by
  apply putSession_kept
  · simp only [Thread.holds, add_assoc]
  · rfl
  · exact ⟨sound.facts.1, trivial⟩
  · exact sound

private theorem closeDel_kept (sound : Sound tables (.goes (.closeDel dev service)) held locked)
    (ran : closeDelSection tables dev service = some (after, next)) :
    Kept tables (.closeDel dev service) after next held locked := by
  obtain ⟨counted, locks, ⟨open_, _⟩, fault⟩ := sound
  have opened := open_ dev rfl
  simp only [Next.holds, Thread.holds, Next.locks, Thread.locks, add_assoc] at counted locks
  have used := counted.usage_pos_of_ref opened
  rw [closeDelSection] at ran
  split at ran
  · cases ran
  · next held_ =>
      have unlocked := Bool.eq_false_iff.mpr held_
      obtain ⟨frame, phase, freed, kept⟩ :=
        delServiceFromDev_kept (.closeDel dev service) counted opened rfl unlocked
      obtain ⟨view, faults⟩ := tables.delServiceFromDev_frame dev service
      split at ran
      · next deleted result =>
          rw [result] at frame phase kept view faults
          cases ran
          refine .of_book (Tables.book_lockServices _ _ _) (Tables.lockView_lockServices _ _ _)
            (by simpa [Next.holds, Thread.holds, add_assoc] using kept) ?_ ⟨?_, trivial⟩
            (faults.trans fault) frame
          · rw [view]
            simpa [Next.locks, Thread.locks, add_assoc] using locks.lockServices unlocked
          · rw [phase]
            exact open_
      · next deleted result =>
          rw [result] at frame phase freed kept view faults
          cases ran
          refine .of_book (Tables.book_lockOperation _ _ _) (Tables.lockView_lockOperation _ _ _)
            kept ?_ ⟨?_, trivial⟩ ?_ frame
          · rw [view]
            simpa [Next.locks, Thread.locks] using locks.unlockOperation
          · rw [phase]
            exact open_
          · rw [Tables.fault_lockOperation, faults, fault, freed]
            exact counted.services.alive used

private theorem closeDelPut_kept
    (sound : Sound tables (.goes (.closeDelPut dev service)) held locked) :
    Kept tables (.closeDelPut dev service)
      (((tables.putServiceStruct service).lockServices dev false).lockOperation service false)
      (.goes (.closePut dev service)) held locked := by
  obtain ⟨counted, locks, ⟨open_, _⟩, fault⟩ := sound
  simp only [Next.holds, Thread.holds, Next.locks, Thread.locks, add_assoc] at counted locks
  have put := counted.putService
  refine .of_book ((Tables.book_lockOperation _ _ _).trans ((Tables.book_lockServices _ _ _).trans
    (Tables.book_putServiceStruct _ _))) (Tables.lockView_lockOperation _ _ _) put ?_
    ⟨fun dev own => ?_, trivial⟩ ?_ .putService
  · rw [Tables.lockView_lockServices, Tables.lockView_putServiceStruct]
    simpa [Next.locks, Thread.locks] using locks.unlockServices.unlockOperation
  · unfold Book.putService
    split
    · exact open_ dev own
    · exact open_ dev own
  · rw [Tables.fault_lockOperation, Tables.fault_lockServices, Tables.fault_putServiceStruct,
      Tables.book_lockServices, Tables.book_putServiceStruct, fault,
      counted.services.alive counted.usage_pos_of_hold]
    exact put.services.alive put.usage_pos_of_hold

private theorem closePut_kept (sound : Sound tables (.goes (.closePut dev service)) held locked) :
    Kept tables (.closePut dev service) (tables.putServiceStruct service) (.returns true) held locked := by
  obtain ⟨counted, locks, _, fault⟩ := sound
  simp only [Next.holds, Thread.holds, Next.locks, Thread.locks] at counted locks
  refine .of_book (Tables.book_putServiceStruct _ _) (Tables.lockView_putServiceStruct _ _)
    (by simpa [Next.holds] using counted.putService) locks trivial ?_ .putService
  rw [Tables.fault_putServiceStruct, fault]
  exact counted.services.alive counted.usage_pos_of_hold

/-! ### Lookups of sends and notifications -/

private theorem findStart_kept {finder : Finder} {uuid : Uuid} {sessionId : UInt32}
    (sound : Sound tables (.goes (.findStart finder dev uuid sessionId)) held locked)
    (owns : finder = .notify → tables.book.OwnsSlots dev)
    (ran : findStartSection tables finder dev uuid sessionId = some (after, next)) :
    Kept tables (.findStart finder dev uuid sessionId) after next held locked := by
  obtain ⟨counted, locks, ⟨open_, _⟩, fault⟩ := sound
  simp only [Next.holds, Thread.holds, Next.locks, Thread.locks, zero_add] at counted locks
  have live : tables.book.OwnsSlots dev := by
    cases finder with
    | ioctl => exact .of_opened (open_ dev rfl)
    | notify => exact owns rfl
  rw [findStartSection] at ran
  split at ran
  · cases ran
    exact .of_book rfl rfl (by simpa [Next.holds] using counted)
      (by simpa [Next.locks] using locks) trivial fault .refl
  · split at ran
    · cases ran
    · obtain ⟨touched, result, faults⟩ | ⟨touched, service, result, used, faults⟩ :=
        tcFindServiceInDev_kept uuid counted live fault
      · simp only [result, Option.some.injEq, Prod.mk.injEq] at ran
        obtain ⟨rfl, rfl⟩ := ran
        exact .of_book rfl rfl (by simpa [Next.holds] using counted)
          (by simpa [Next.locks] using locks) trivial faults .refl
      · simp only [result, Option.some.injEq, Prod.mk.injEq] at ran
        obtain ⟨rfl, rfl⟩ := ran
        refine .of_book (Tables.book_getServiceStruct _ _) (Tables.lockView_getServiceStruct _ _)
          (counted.getService used) (by simpa [Next.locks, Thread.locks] using locks)
          ⟨?_, trivial⟩ faults (.of_same rfl rfl rfl rfl rfl)
        cases finder with
        | ioctl => exact open_
        | notify => exact open_

private theorem findHasService_kept {finder : Finder} {sessionId : UInt32}
    (sound : Sound tables (.goes (.findHasService finder dev service sessionId)) held locked)
    (ran : findHasServiceSection tables finder dev service sessionId = some (after, next)) :
    Kept tables (.findHasService finder dev service sessionId) after next held locked := by
  obtain ⟨counted, locks, ⟨open_, _⟩, fault⟩ := sound
  simp only [Next.holds, Thread.holds, Next.locks, Thread.locks] at counted locks
  have still (session : Option Nat) (owner : Dev)
      (own : (Thread.findPut finder dev service session).ioctlDev = some owner) :
      tables.book.phase owner = .opened := by
    cases finder with
    | ioctl => exact open_ owner own
    | notify => cases own
  simp only [findHasServiceSection] at ran
  obtain ⟨found, result, book, view, faults⟩ |
    ⟨found, session, result, member, owned, book, view, faults⟩ :=
    getSession_kept sessionId dev counted counted.usage_pos_of_hold fault
  · simp only [result, Option.some.injEq, Prod.mk.injEq] at ran
    obtain ⟨rfl, rfl⟩ := ran
    exact .of_book book view counted locks ⟨still none, trivial⟩ faults .refl
  · simp only [result, Option.some.injEq, Prod.mk.injEq] at ran
    obtain ⟨rfl, rfl⟩ := ran
    refine .of_book book view ?_ locks ⟨still (some session), trivial⟩ faults
      (.of_same rfl rfl rfl rfl rfl)
    have taken := counted.getSession (counted.sessions.usage_pos_of_mem member)
    rwa [add_left_comm, ← add_assoc] at taken

omit [DecidableEq Dev] [Fintype Dev] in
theorem Book.putService_phase (book : Book Dev) (service : Nat) :
    (book.putService service).phase = book.phase := by
  unfold Book.putService
  split
  · rfl
  · rfl

omit [Fintype Dev] in
theorem Book.putService_sessionsOf (book : Book Dev) (service : Nat) (dev : Dev) :
    (book.putService service).sessionsOf dev = book.sessionsOf dev := by
  unfold Book.putService
  split
  · rfl
  · rfl

private theorem findPut_kept {finder : Finder} {found : Option Nat}
    (sound : Sound tables (.goes (.findPut finder dev service found)) held locked)
    (ran : findPutSection tables finder dev service found = some (after, next)) :
    Kept tables (.findPut finder dev service found) after next held locked := by
  obtain ⟨counted, locks, ⟨open_, _⟩, fault⟩ := sound
  cases found with
  | none =>
      simp only [Next.holds, Thread.holds, Next.locks, Thread.locks] at counted locks
      cases ran
      refine .of_book (Tables.book_putServiceStruct _ _) (Tables.lockView_putServiceStruct _ _)
        (by simpa [Next.holds] using counted.putService) locks trivial ?_ .putService
      rw [Tables.fault_putServiceStruct, fault]
      exact counted.services.alive counted.usage_pos_of_hold
  | some session =>
      simp only [Next.holds, Thread.holds, Next.locks, Thread.locks, add_assoc] at counted locks
      cases ran
      refine .of_book (Tables.book_putServiceStruct _ _) (Tables.lockView_putServiceStruct _ _)
        counted.putService locks ⟨?_, trivial⟩ ?_ .putService
      · rw [Book.putService_phase]
        cases finder with
        | ioctl => exact open_
        | notify => exact open_
      · rw [Tables.fault_putServiceStruct, fault]
        exact counted.services.alive counted.usage_pos_of_hold

private theorem findUsing_kept {finder : Finder}
    (sound : Sound tables (.goes (.findUsing finder dev session)) held locked) :
    Kept tables (.findUsing finder dev session) (tables.putSessionStruct session) (.returns true)
      held locked := by
  obtain ⟨counted, locks, _, fault⟩ := sound
  simp only [Next.holds, Thread.holds, Next.locks, Thread.locks] at counted locks
  refine .of_book (Tables.book_putSessionStruct _ _) (Tables.lockView_putSessionStruct _ _)
    (by simpa [Next.holds] using counted.putSession) locks trivial ?_
    (.of_same rfl rfl rfl rfl rfl)
  rw [Tables.fault_putSessionStruct, fault]
  exact counted.sessions.alive counted.session_pos_of_hold

/-! ### `close_session_thread_fn` -/

omit [Fintype Dev] in
private theorem setPhase_closing_lockView {index : Nat}
    (closing : tables.book.phase dev = .closing index) (next : Nat) :
    (tables.setPhase dev (.closing next)).lockView = tables.lockView := by
  have already : tables.lockView.closing dev = Phase.isClosing (.closing next) := by
    change (tables.book.phase dev).isClosing = true
    rw [closing]
    rfl
  rw [Tables.lockView_setPhase, ← already, Function.update_eq_self]

private theorem fdScan_kept {index : Nat}
    (sound : Sound tables (.goes (.fdScan dev index)) held locked)
    (ran : fdScanSection tables dev index = some (after, next)) :
    Kept tables (.fdScan dev index) after next held locked := by
  obtain ⟨counted, locks, ⟨open_, phase, unclosed⟩, fault⟩ := sound
  simp only [Next.holds, Thread.holds, Next.locks, Thread.locks, zero_add] at counted locks
  have closer : (Thread.fdScan dev index).locks.2.2 dev ≠ 0 := by simp [Thread.locks, closerOf]
  rw [fdScanSection] at ran
  split at ran
  · next inRange =>
      split at ran
      · next empty =>
          -- an empty slot owns nothing, so passing it changes no owner
          have same (place : Fin servicesMaxCount) (other : Nat)
              (stored : tables.book.slot dev place = some other) :
              Phase.live (.closing (index + 1)) place = (tables.book.phase dev).live place := by
            have different : place.val ≠ index := by
              intro same
              have here : place = ⟨index, inRange⟩ := Fin.ext same
              rw [here] at stored
              cases empty.symm.trans stored
            rw [phase]
            simp only [Phase.live, decide_eq_decide]
            omega
          have moved := counted.setPhase Phase.noConfusion same
          cases ran
          refine .of_book (Tables.book_setPhase _ _ _) (setPhase_closing_lockView phase _)
            (by simpa [Next.holds, Thread.holds] using moved) locks
            ⟨?_, Function.update_self _ _ _, ?_⟩ fault
            (.closing closer (fun _ different => Function.update_of_ne different _ _) rfl rfl rfl
              rfl)
          · intro _ impossible
            cases impossible
          · intro place other above stored
            exact unclosed place other (by omega) stored
      · next service stored =>
          have used := counted.services.usage_pos_of_slot stored (by
            change (tables.book.phase dev).live index = true
            rw [phase]
            exact decide_eq_true (Nat.le_refl _))
          have mine := unclosed ⟨index, inRange⟩ service (Nat.le_refl _) stored
          split at ran
          · next empty =>
              change tables.book.sessionList service = [] at empty
              rw [Book.sessionsOf, empty] at mine
              cases mine
          · cases ran
            refine .of_book rfl rfl (by simpa [Next.holds, Thread.holds] using counted) locks
              ⟨?_, phase, ⟨⟨index, inRange⟩, rfl, stored⟩, ?_⟩ ?_ .refl
            · intro _ impossible
              cases impossible
            · intro place other above occupied
              exact unclosed place other (by omega) occupied
            · rw [Tables.fault_touchServices, fault, List.any_cons, counted.services.alive used]
              rfl
  · next outOfRange =>
      have same (place : Fin servicesMaxCount) (other : Nat)
          (_ : tables.book.slot dev place = some other) :
          Phase.live .freed place = (tables.book.phase dev).live place := by
        have below := place.isLt
        rw [phase]
        simp only [Phase.live, Bool.false_eq, decide_eq_false_iff_not]
        omega
      have moved := counted.setPhase Phase.noConfusion same
      cases ran
      exact .of_book (Tables.book_setPhase _ _ _) (Tables.lockView_setPhase _ _ _)
        (by simpa [Next.holds] using moved)
        (by simpa [Next.locks, Phase.isClosing] using locks.finishClosing) trivial fault
        (.closing closer (fun _ different => Function.update_of_ne different _ _) rfl rfl rfl rfl)

private theorem atSlot_used {holds : Holds Dev} {index : Nat}
    (counted : tables.book.Counted holds) (here : tables.book.AtSlot dev index service) :
    0 < tables.book.usage service := by
  obtain ⟨place, same, stored⟩ := here.slot
  apply counted.services.usage_pos_of_slot stored
  rw [here.phase, same]
  exact decide_eq_true (Nat.le_refl _)

private theorem fdLock_kept {index : Nat}
    (sound : Sound tables (.goes (.fdLock dev index service)) held locked)
    (ran : fdLockSection tables dev index service = some (after, next)) :
    Kept tables (.fdLock dev index service) after next held locked := by
  obtain ⟨counted, locks, ⟨open_, here⟩, fault⟩ := sound
  simp only [Next.holds, Thread.holds, Next.locks, Thread.locks, zero_add] at counted locks
  have used := atSlot_used counted here
  rw [fdLockSection] at ran
  split at ran
  · cases ran
  · next unlocked =>
      cases ran
      refine .of_book (Tables.book_lockOperation _ _ _) (Tables.lockView_lockOperation _ _ _)
        (by simpa [Next.holds, Thread.holds] using counted) ?_
        ⟨?_, here, fun _ member => member, counted.sessions.once service⟩ ?_ .refl
      · have taken := locks.lockOperation (Bool.eq_false_iff.mpr unlocked)
          (counted.services.lt_serviceCount used)
        rwa [← add_assoc] at taken
      · intro _ impossible
        cases impossible
      · rw [Tables.fault_lockOperation, fault]
        exact counted.services.alive used

private theorem fdClosing_kept {index closed : Nat} {remaining : List Nat}
    (sound : Sound tables (.goes (.fdClosing dev index service remaining closed)) held locked)
    (ran : fdClosingSection tables dev index service remaining closed = some (after, next)) :
    Kept tables (.fdClosing dev index service remaining closed) after next held locked := by
  obtain ⟨counted, locks, ⟨open_, here, walks⟩, fault⟩ := sound
  simp only [Next.holds, Thread.holds, Next.locks, Thread.locks, add_assoc]
    at counted locks
  have alive := counted.services.alive (atSlot_used counted here)
  cases remaining with
  | nil =>
      cases ran
      refine .of_book (Tables.book_lockOperation _ _ _) (Tables.lockView_lockOperation _ _ _)
        (by simpa [Next.holds, Thread.holds] using counted) locks.unlockOperation ⟨?_, here⟩ ?_
        .refl
      · intro _ impossible
        cases impossible
      · rw [Tables.fault_lockOperation, fault]
        exact alive
  | cons session rest =>
      have member := walks.members session List.mem_cons_self
      obtain ⟨notLater, once⟩ := List.nodup_cons.mp walks.once
      have sessionAlive := counted.sessions.alive (counted.sessions.usage_pos_of_mem member)
      rw [fdClosingSection] at ran
      split at ran
      · next owned =>
          cases ran
          have unlinked := counted.unlink member owned
          refine .of_book (Tables.book_unlinkSession _ _ _) (Tables.lockView_unlinkSession _ _ _)
            (by
              simp only [Next.holds, Thread.holds, succ_nsmul]
              rwa [add_left_comm, ← add_assoc (holdRef dev service),
                add_comm (holdRef dev service), ← add_assoc] at unlinked)
            (by simpa [Next.locks, Thread.locks, add_assoc] using locks)
            ⟨?_, ⟨here.phase, here.slot, ?_⟩, ?_, once⟩ ?_
            (.unlink (by simp [Thread.locks, insideOperation, closerOf]) member owned
              (Or.inr (by simp [Thread.locks, insideOperation, closerOf])))
          · intro _ impossible
            cases impossible
          · intro place other above stored
            obtain ⟨spot, same, occupied⟩ := here.slot
            have different : other ≠ service := by
              intro equal
              subst equal
              have both := counted.refs.slotOnce dev place spot other stored occupied
              rw [both] at above
              omega
            have moved := Book.sessionsOf_unlink member owned dev other
            rw [if_neg (fun both => different both.2)] at moved
            have positive := here.later place other above stored
            omega
          · intro other later
            have different : other ≠ session := fun same => notLater (same ▸ later)
            change other ∈ Function.update tables.book.sessionList service _ service
            rw [Function.update_self]
            exact (List.mem_erase_of_ne different).mpr
              (walks.members other (List.mem_cons_of_mem _ later))
          · have contained : (tables.book.sessionList service).contains session = true :=
              List.contains_iff_mem.mpr member
            rw [Tables.fault_unlinkSession, fault, alive, sessionAlive, contained]
            rfl
      · cases ran
        refine .of_book rfl rfl (by simpa [Next.holds, Thread.holds] using counted)
          (by simpa [Next.locks, Thread.locks, add_assoc] using locks) ⟨?_, here, ?_, once⟩ ?_ .refl
        · intro _ impossible
          cases impossible
        · intro other later
          exact walks.members other (List.mem_cons_of_mem _ later)
        · rw [Tables.fault_touchSessions, fault, List.any_cons, sessionAlive]
          rfl

private theorem fdUnlinked_kept {index closed : Nat} {remaining : List Nat}
    (sound : Sound tables (.goes (.fdUnlinked dev index service session remaining closed)) held
      locked) :
    Kept tables (.fdUnlinked dev index service session remaining closed)
      (tables.putSessionStruct session) (.goes (.fdClosing dev index service remaining closed))
      held locked := by
  obtain ⟨_, here, walks⟩ := sound.facts
  apply putSession_kept
  · simp only [Thread.holds]
  · rfl
  · refine ⟨?_, ⟨here.phase, here.slot, here.later⟩, walks.members, walks.once⟩
    intro _ impossible
    cases impossible
  · exact sound

omit [Fintype Dev] in
theorem Book.putService_setPhase (book : Book Dev) (service : Nat) (dev : Dev) (phase : Phase) :
    (book.putService service).setPhase dev phase = (book.setPhase dev phase).putService service := by
  have usage : (book.setPhase dev phase).usage service = book.usage service := rfl
  unfold Book.putService
  rw [usage]
  split
  · rfl
  · rfl

private theorem fdPut_kept {index closed : Nat}
    (sound : Sound tables (.goes (.fdPut dev index service closed)) held locked) :
    Kept tables (.fdPut dev index service closed)
      ((tables.putServiceStruct service).setPhase dev (.closing (index + 1)))
      (.goes (.fdScan dev (index + 1))) held locked := by
  obtain ⟨counted, locks, ⟨open_, here⟩, fault⟩ := sound
  simp only [Next.holds, Thread.holds, Next.locks, Thread.locks] at counted locks
  have alive := counted.services.alive (atSlot_used counted here)
  obtain ⟨place, same, stored⟩ := here.slot
  subst same
  have book : ((tables.putServiceStruct service).setPhase dev (.closing (place + 1))).book =
      (tables.book.putService service).setPhase dev (.closing (place + 1)) := by
    rw [Tables.book_setPhase, Tables.book_putServiceStruct]
  have closing : (tables.putServiceStruct service).book.phase dev = .closing place := by
    rw [Tables.book_putServiceStruct, Book.putService_phase]
    exact here.phase
  have dropped := (counted.dropSlot here.phase stored).putService
  rw [← Book.putService_setPhase] at dropped
  have put : Frame tables.lockView tables.book (tables.book.putService service)
      (.fdPut dev place service closed) := .putService
  have closer : (Thread.fdPut dev place.val service closed).locks.2.2 dev ≠ 0 := by
    simp [Thread.locks, closerOf]
  have slot : (tables.book.putService service).slot dev = tables.book.slot dev :=
    put.slot dev (Or.inl (Option.some_ne_none dev).symm)
  refine .of_book book ((setPhase_closing_lockView closing _).trans
    (Tables.lockView_putServiceStruct _ _)) (by simpa [Next.holds, Thread.holds] using dropped)
    locks ⟨?_, Function.update_self _ _ _, ?_⟩ ?_ ?_
  · intro _ impossible
    cases impossible
  · have numbers := Book.putService_sessionsOf tables.book service dev
    intro later other above occupied
    change (tables.book.putService service).slot dev later = some other at occupied
    change 0 < (tables.book.putService service).sessionsOf dev other
    rw [slot] at occupied
    rw [numbers]
    exact here.later later other above occupied
  · rw [Tables.fault_setPhase, Tables.fault_putServiceStruct, fault]
    exact alive
  · refine ⟨?_, put.slot, put.list, put.owner, put.uuid, put.numbers⟩
    intro other notCloser
    have different : other ≠ dev := by
      intro equal
      subst equal
      exact closer notCloser
    exact (Function.update_of_ne different _ _).trans (put.phase other notCloser)

/-! ### Every section -/

/-- A notification may look a file up only while every slot of it owns its
reference. -/
def Thread.Careful (book : Book Dev) : Thread Dev → Prop
  | .findStart .notify dev _ _ => book.OwnsSlots dev
  | _ => True

theorem stepThread_kept {choice : Choice} (sound : Sound tables (.goes thread) held locked)
    (careful : thread.Careful tables.book)
    (ran : stepThread tables choice thread = some (after, next)) :
    Kept tables thread after next held locked := by
  cases thread with
  | openStart => exact openStart_kept sound ran
  | openFindAll => exact openFindAll_kept sound ran
  | openAddDev => exact openAddDev_kept sound ran
  | openPut =>
      cases ran
      exact openPut_kept sound
  | openReferenced => exact openReferenced_kept sound ran
  | openLocked => exact openLocked_kept sound ran
  | openUndo => exact openUndo_kept sound ran
  | openUndoPut =>
      cases ran
      exact openUndoPut_kept sound
  | closeStart => exact closeStart_kept sound ran
  | closeHasService => exact closeHasService_kept sound ran
  | closeLocked => exact closeLocked_kept sound ran
  | closeCalling =>
      cases ran
      exact closeCalling_kept sound
  | closeUnlinked =>
      cases ran
      exact closeUnlinked_kept sound
  | closePutOnce =>
      cases ran
      exact closePutOnce_kept sound
  | closeDel => exact closeDel_kept sound ran
  | closeDelPut =>
      cases ran
      exact closeDelPut_kept sound
  | closePut =>
      cases ran
      exact closePut_kept sound
  | findStart finder =>
      refine findStart_kept sound ?_ ran
      intro same
      subst same
      exact careful
  | findHasService => exact findHasService_kept sound ran
  | findPut => exact findPut_kept sound ran
  | findUsing =>
      cases ran
      exact findUsing_kept sound
  | fdScan => exact fdScan_kept sound ran
  | fdLock => exact fdLock_kept sound ran
  | fdClosing => exact fdClosing_kept sound ran
  | fdUnlinked =>
      cases ran
      exact fdUnlinked_kept sound
  | fdPut =>
      cases ran
      exact fdPut_kept sound

end Sections

end TzDriver.Session
