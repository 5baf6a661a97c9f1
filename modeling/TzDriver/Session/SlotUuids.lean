/-
The services in the slots of one dev_file have distinct uuids.

For an open file this follows from the reference counts.  The slots of a file under
close stay as they are, with the services that its close thread has put and that may
be gone since; a uuid never changes.
-/

import TzDriver.Session.Accounts

namespace TzDriver.Session

open TzDriver.Lib

/-! ### No service number is given back -/

namespace Tables

variable {Dev : Type} (tables : Tables Dev)

@[simp] theorem serviceCount_putServiceStruct (service : Nat) :
    (tables.putServiceStruct service).serviceCount = tables.serviceCount := by
  simp only [putServiceStruct]
  split
  · rfl
  · rfl

variable [DecidableEq Dev]

@[simp] theorem serviceCount_tcRefServiceInDev (dev : Dev) (uuid : Uuid) :
    (tables.tcRefServiceInDev dev uuid).1.serviceCount = tables.serviceCount := by
  simp only [tcRefServiceInDev]
  split
  · rfl
  · split
    · rfl
    · rfl

@[simp] theorem serviceCount_delServiceFromDev (dev : Dev) (service : Nat) :
    (tables.delServiceFromDev dev service).1.serviceCount = tables.serviceCount := by
  simp only [delServiceFromDev]
  split
  · rfl
  · split
    · rfl
    · split
      · rfl
      · rfl

@[simp] theorem serviceCount_getSession (service : Nat) (sessionId : UInt32) (dev : Dev) :
    (tables.getSession service sessionId dev).1.serviceCount = tables.serviceCount := by
  unfold getSession
  split
  · rfl
  · rfl

end Tables

section Sections

variable {Dev : Type} [DecidableEq Dev] {tables after : Tables Dev} {choice : Choice}
  {thread : Thread Dev} {next : Next Dev}

theorem stepThread_serviceCount (ran : stepThread tables choice thread = some (after, next)) :
    tables.serviceCount ≤ after.serviceCount := by
  cases thread with
  | openStart dev uuid =>
      have kept := tables.serviceCount_tcRefServiceInDev dev uuid
      simp only [stepThread, openStartSection] at ran
      split at ran
      · cases ran
      · split at ran
        all_goals
          next found =>
            rw [found] at kept
            cases ran
            exact Nat.le_of_eq kept.symm
  | openFindAll dev uuid =>
      simp only [stepThread, openFindAllSection] at ran
      split at ran
      · cases ran
        exact Nat.le_refl _
      · split at ran
        · cases ran
          exact Nat.le_succ _
        · cases ran
          exact Nat.le_refl _
  | openAddDev dev service =>
      simp only [stepThread, openAddDevSection] at ran
      split at ran
      · next added =>
          obtain ⟨index, _, rfl⟩ := Option.map_eq_some_iff.mp added
          cases ran
          exact Nat.le_refl _
      · cases ran
        exact Nat.le_refl _
  | openReferenced dev service =>
      simp only [stepThread, openReferencedSection] at ran
      repeat' split at ran
      all_goals cases ran
      all_goals exact Nat.le_refl _
  | openLocked dev service =>
      simp only [stepThread, openLockedSection] at ran
      split at ran
      all_goals
        cases ran
        exact Nat.le_refl _
  | openUndo dev service =>
      have kept := tables.serviceCount_delServiceFromDev dev service
      simp only [stepThread, openUndoSection] at ran
      split at ran
      · cases ran
      · split at ran
        all_goals
          next found =>
            rw [found] at kept
            cases ran
            exact Nat.le_of_eq kept.symm
  | closeStart dev uuid sessionId =>
      simp only [stepThread, closeStartSection] at ran
      split at ran
      · cases ran
      · split at ran
        all_goals
          next found =>
            cases congrArg Prod.fst found
            cases ran
            exact Nat.le_refl _
  | closeHasService dev service sessionId =>
      simp only [stepThread, closeHasServiceSection] at ran
      split at ran
      · cases ran
      · cases ran
        exact Nat.le_refl _
  | closeLocked dev service sessionId =>
      have kept := tables.serviceCount_getSession service sessionId dev
      simp only [stepThread, closeLockedSection] at ran
      split at ran
      all_goals
        next found =>
          rw [found] at kept
          cases ran
          exact Nat.le_of_eq kept.symm
  | closeDel dev service =>
      have kept := tables.serviceCount_delServiceFromDev dev service
      simp only [stepThread, closeDelSection] at ran
      split at ran
      · cases ran
      · split at ran
        all_goals
          next found =>
            rw [found] at kept
            cases ran
            exact Nat.le_of_eq kept.symm
  | findStart finder dev uuid sessionId =>
      simp only [stepThread, findStartSection] at ran
      split at ran
      · cases ran
        exact Nat.le_refl _
      · split at ran
        · cases ran
        · split at ran
          all_goals
            next found =>
              cases congrArg Prod.fst found
              cases ran
              exact Nat.le_refl _
  | findHasService finder dev service sessionId =>
      cases ran
      exact Nat.le_of_eq (tables.serviceCount_getSession service sessionId dev).symm
  | findPut finder dev service session =>
      cases session with
      | none =>
          cases ran
          simp
      | some session =>
          cases ran
          simp
  | fdScan dev index =>
      simp only [stepThread, fdScanSection] at ran
      repeat' split at ran
      all_goals
        cases ran
        exact Nat.le_refl _
  | fdLock dev index service =>
      simp only [stepThread, fdLockSection] at ran
      split at ran
      · cases ran
      · cases ran
        exact Nat.le_refl _
  | fdClosing dev index service remaining count =>
      cases remaining with
      | nil =>
          cases ran
          exact Nat.le_refl _
      | cons session rest =>
          simp only [stepThread, fdClosingSection] at ran
          split at ran
          all_goals
            cases ran
            exact Nat.le_refl _
  | _ =>
      cases ran
      simp [Tables.lockServices, Tables.lockOperation, Tables.setPhase, Tables.setDev,
        Tables.setService, Tables.touchServices, Tables.touchSessions, Tables.putSessionStruct,
        Tables.setSession, Tables.unlinkSession]

end Sections

/-! ### The slots -/

/-- Every file has created services with distinct uuids in its slots. -/
structure Book.SlotsApart {Dev : Type} (book : Book Dev) : Prop where
  created : ∀ dev index service, book.slot dev index = some service → service < book.serviceCount
  apart : ∀ dev first second one other, book.slot dev first = some one →
    book.slot dev second = some other → book.uuid one = book.uuid other → one = other

section Slots

variable {Dev : Type} [DecidableEq Dev] [Fintype Dev]

/-- What an open file has in its slots is on `g_service_list`. -/
theorem Invariant.slot_listed {world : World Dev} (invariant : Invariant world) {dev : Dev}
    (opened : world.tables.book.phase dev = .opened) {index : Fin servicesMaxCount} {service : Nat}
    (stored : world.tables.book.slot dev index = some service) :
    service ∈ world.tables.book.serviceList := by
  have live : (world.tables.book.phase dev).live index = true := by
    rw [opened]
    rfl
  have used := invariant.counted.services.usage_pos_of_slot stored live
  exact (invariant.counted.services.listed service).mpr used

/-- The slots of a file that is not open are those it had before, under the uuids
they had. -/
theorem Book.SlotsApart.of_kept {before : Book Dev} {world : World Dev}
    (apart : before.SlotsApart) (invariant : Invariant world)
    (count : before.serviceCount ≤ world.tables.book.serviceCount)
    (uuid : ∀ service < before.serviceCount, world.tables.book.uuid service = before.uuid service)
    (slot : ∀ dev, world.tables.book.phase dev ≠ .opened →
      world.tables.book.slot dev = before.slot dev) : world.tables.book.SlotsApart := by
  constructor
  · intro dev index service stored
    by_cases opened : world.tables.book.phase dev = .opened
    · exact invariant.counted.services.created service (invariant.slot_listed opened stored)
    · rw [slot dev opened] at stored
      exact Nat.lt_of_lt_of_le (apart.created dev index service stored) count
  · intro dev first second one other storedOne storedOther same
    by_cases opened : world.tables.book.phase dev = .opened
    · exact invariant.counted.services.uuidOnce one (invariant.slot_listed opened storedOne) other
        (invariant.slot_listed opened storedOther) same
    · rw [slot dev opened] at storedOne storedOther
      rw [uuid one (apart.created dev first one storedOne),
        uuid other (apart.created dev second other storedOther)] at same
      exact apart.apart dev first second one other storedOne storedOther same

omit [Fintype Dev] in
theorem Frame.slot_of_not_opened {tables : Tables Dev} {after : Book Dev} {thread : Thread Dev}
    (frame : Frame tables.lockView tables.book after thread) {rest : Locks Dev}
    (locks : LockCounts tables.lockView (thread.locks + rest)) (known : thread.Local tables.book)
    {dev : Dev} (notOpened : after.phase dev ≠ .opened) :
    after.slot dev = tables.book.slot dev := by
  apply frame.slot dev
  left
  intro own
  have opened := known.opened dev own
  have notClosing : tables.lockView.closing dev = false := by
    change (tables.book.phase dev).isClosing = false
    rw [opened]
    rfl
  rw [frame.phase dev (locks.no_closer notClosing), opened] at notOpened
  exact notOpened rfl

theorem slots_apart_of_reachable {world : World Dev} (reached : ioctlMachine.Reachable world) :
    world.tables.book.SlotsApart := by
  induction reached with
  | start initial =>
      subst initial
      constructor
      · intro dev index service impossible
        cases impossible
      · intro dev first second one other impossible
        cases impossible
  | @next before after label earlier taken ih =>
      have kept := invariant_of_reachable (careful_of_ioctlMachine (.next earlier taken))
      have invariant := invariant_of_reachable (careful_of_ioctlMachine earlier)
      obtain ⟨quiet, stepped⟩ := taken
      cases stepped with
      | ioctl => exact ih
      | notify => exact ih
      | @closeFd _ dev _ _ =>
          change (before.tables.setPhase dev (.closing 0)).book.SlotsApart
          rw [Tables.book_setPhase]
          exact ⟨ih.created, ih.apart⟩
      | @run tables ran thread rest choice next stepped =>
          have counted := invariant.counted
          have locks := invariant.locks
          rw [holdsOf_cons] at counted
          rw [locksOf_cons] at locks
          have known := invariant.facts thread (Multiset.mem_cons_self _ _)
          have careful : thread.Careful tables.book := by
            cases thread with
            | findStart finder dev uuid sessionId =>
                cases finder with
                | ioctl => trivial
                | notify => cases quiet
            | _ => trivial
          obtain ⟨_, frame⟩ := stepThread_kept ⟨counted, locks, known, invariant.fault⟩ careful
            stepped
          exact ih.of_kept kept (stepThread_serviceCount stepped) frame.uuid
            fun dev notOpened => frame.slot_of_not_opened locks known notOpened

end Slots

end TzDriver.Session
