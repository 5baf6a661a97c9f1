/-
What a thread knows between two of its sections, and what a section of another
thread can change of it.

The facts of a thread speak of the slots, lists and phases it relies on.  A frame
bounds the effect of one section: slots change only under `service_lock`, lists
shrink only under `operation_lock`, and a file's phase moves only with its close
thread.  Exclusive locks make every thread's facts stable under the frames of the
others.
-/

import TzDriver.Session.Lookups

namespace TzDriver.Session

variable {Dev : Type} [DecidableEq Dev]

/-! ### Facts -/

/-- From `first` on, every slot's service has a session of the file. -/
def Book.Unclosed (book : Book Dev) (dev : Dev) (first : Nat) : Prop :=
  ∀ (index : Fin servicesMaxCount) service, first ≤ index.val →
    book.slot dev index = some service → 0 < book.sessionsOf dev service

structure Book.AtSlot (book : Book Dev) (dev : Dev) (index service : Nat) : Prop where
  phase : book.phase dev = .closing index
  slot : ∃ place : Fin servicesMaxCount, place.val = index ∧ book.slot dev place = some service
  later : book.Unclosed dev (index + 1)

omit [DecidableEq Dev] in
/-- What is left of a session list, for a loop that holds `operation_lock`. -/
structure Book.Walks (book : Book Dev) (service : Nat) (remaining : List Nat) : Prop where
  members : ∀ session ∈ remaining, session ∈ book.sessionList service
  once : remaining.Nodup

def Thread.Facts (book : Book Dev) : Thread Dev → Prop
  | .openFindAll dev uuid =>
      ∀ index service, book.slot dev index = some service → book.uuid service ≠ uuid
  | .openAddDev dev service => ∀ index, book.slot dev index ≠ some service
  | .closeCalling dev service session =>
      session ∈ book.sessionList service ∧ book.owner session = some dev
  | .fdScan dev index => book.phase dev = .closing index ∧ book.Unclosed dev index
  | .fdLock dev index service | .fdPut dev index service _ => book.AtSlot dev index service
  | .fdClosing dev index service remaining _ | .fdUnlinked dev index service _ remaining _ =>
      book.AtSlot dev index service ∧ book.Walks service remaining
  | _ => True

/-- The facts of a thread, with that an ioctl runs only on an open file. -/
structure Thread.Local (book : Book Dev) (thread : Thread Dev) : Prop where
  opened : ∀ dev, thread.ioctlDev = some dev → book.phase dev = .opened
  facts : thread.Facts book

/-! ### Frames -/

structure Frame (view : LockView Dev) (before after : Book Dev) (thread : Thread Dev) : Prop where
  phase : ∀ dev, thread.locks.2.2 dev = 0 → after.phase dev = before.phase dev
  slot : ∀ dev,
    thread.ioctlDev ≠ some dev ∨ (thread.locks.1 dev = 0 ∧ view.serviceLock dev = true) →
      after.slot dev = before.slot dev
  list : ∀ service, thread.locks.2.1 service = 0 →
    ∀ session ∈ before.sessionList service, session ∈ after.sessionList service
  owner : ∀ session < before.sessionCount, after.owner session = before.owner session
  uuid : ∀ service < before.serviceCount, after.uuid service = before.uuid service
  numbers : ∀ dev service, thread.ioctlDev ≠ some dev → thread.locks.2.2 dev = 0 →
    before.sessionsOf dev service ≤ after.sessionsOf dev service

section Frames

variable {view : LockView Dev} {before : Book Dev} {thread : Thread Dev} {dev : Dev}
  {service session : Nat}

theorem Frame.of_same {after : Book Dev} (phase : after.phase = before.phase)
    (slot : after.slot = before.slot) (list : after.sessionList = before.sessionList)
    (owner : after.owner = before.owner) (uuid : after.uuid = before.uuid) :
    Frame view before after thread := by
  refine ⟨?_, ?_, ?_, ?_, ?_, ?_⟩
  · intro dev _
    rw [phase]
  · intro dev _
    rw [slot]
  · intro service _ session member
    rw [list]
    exact member
  · intro session _
    rw [owner]
  · intro service _
    rw [uuid]
  · intro dev service _ _
    unfold Book.sessionsOf
    rw [list, owner]

theorem Frame.refl : Frame view before before thread :=
  .of_same rfl rfl rfl rfl rfl

theorem Frame.putService : Frame view before (before.putService service) thread := by
  unfold Book.putService
  split
  · exact .of_same rfl rfl rfl rfl rfl
  · exact .of_same rfl rfl rfl rfl rfl

theorem Frame.newService [Fintype Dev] {holds : Holds Dev} (counted : before.Counted holds)
    (uuid : Uuid) : Frame view before (before.newService uuid) thread := by
  refine ⟨fun _ _ => rfl, fun _ _ => rfl, ?_, fun _ _ => rfl, ?_, ?_⟩
  · intro service _ session member
    have old : service ≠ before.serviceCount := by
      intro same
      subst same
      rw [counted.sessions.fresh _ (Nat.le_refl _)] at member
      cases member
    change session ∈ Function.update before.sessionList before.serviceCount [] service
    rw [Function.update_of_ne old]
    exact member
  · intro service created
    exact Function.update_of_ne (Nat.ne_of_lt created) _ _
  · intro dev service _ _
    exact Nat.le_of_eq (counted.sessionsOf_newService uuid dev service).symm

theorem Frame.slots {index : Fin servicesMaxCount} {value : Option Nat} {count : Nat}
    (own : thread.ioctlDev = some dev)
    (inside : thread.locks.1 dev ≠ 0 ∨ view.serviceLock dev = false) :
    Frame view before ((before.setSlot dev index value).setRef dev index count) thread := by
  refine ⟨fun _ _ => rfl, ?_, fun _ _ _ member => member, fun _ _ => rfl, fun _ _ => rfl,
    fun _ _ _ _ => Nat.le_refl _⟩
  intro other foreign
  have different : other ≠ dev := by
    intro same
    subst same
    rcases foreign with notOwn | ⟨outside, locked⟩
    · exact notOwn own
    · rcases inside with within | unlocked
      · exact within outside
      · rw [unlocked] at locked
        cases locked
  exact Function.update_of_ne different _ _

theorem Frame.closing {after : Book Dev} (closer : thread.locks.2.2 dev ≠ 0)
    (phase : ∀ other ≠ dev, after.phase other = before.phase other)
    (slot : after.slot = before.slot) (list : after.sessionList = before.sessionList)
    (owner : after.owner = before.owner) (uuid : after.uuid = before.uuid) :
    Frame view before after thread := by
  have rest : Frame view before { after with phase := before.phase } thread :=
    .of_same rfl slot list owner uuid
  refine ⟨?_, rest.slot, rest.list, rest.owner, rest.uuid, rest.numbers⟩
  intro other notCloser
  apply phase other
  intro same
  subst same
  exact closer notCloser

theorem Frame.publish {holds : Nat → Nat} (counts : before.SessionCounts holds) :
    Frame view before (before.publish dev service) thread := by
  refine ⟨fun _ _ => rfl, fun _ _ => rfl, ?_, ?_, fun _ _ => rfl, ?_⟩
  · intro other _ session member
    change session ∈ Function.update before.sessionList service _ other
    by_cases same : other = service
    · subst same
      rw [Function.update_self]
      exact List.mem_append_left _ member
    · rw [Function.update_of_ne same]
      exact member
  · intro session created
    exact Function.update_of_ne (Nat.ne_of_lt created) _ _
  · intro other target _ _
    rw [Book.sessionsOf_publish counts]
    exact Nat.le_add_right _ _

theorem Frame.unlink (inside : thread.locks.2.1 service ≠ 0)
    (member : session ∈ before.sessionList service) (owned : before.owner session = some dev)
    (own : thread.ioctlDev = some dev ∨ thread.locks.2.2 dev ≠ 0) :
    Frame view before (before.unlink service session) thread := by
  refine ⟨fun _ _ => rfl, fun _ _ => rfl, ?_, fun _ _ => rfl, fun _ _ => rfl, ?_⟩
  · intro other outside number inList
    have different : other ≠ service := by
      intro same
      subst same
      exact inside outside
    change number ∈ Function.update before.sessionList service _ other
    rw [Function.update_of_ne different]
    exact inList
  · intro other target notOwn notCloser
    have different : ¬(other = dev ∧ target = service) := by
      intro given
      obtain ⟨rfl, _⟩ := given
      rcases own with ioctl | closer
      · exact notOwn ioctl
      · exact closer notCloser
    have moved := Book.sessionsOf_unlink member owned other target
    rw [if_neg different] at moved
    omega

end Frames

/-! ### Stability -/

section Stability

variable {view : LockView Dev} {locks first second rest : Locks Dev} {dev : Dev} {service : Nat}

omit [DecidableEq Dev] in
theorem LockCounts.outside_services (counts : LockCounts view (first + (second + rest)))
    (dev : Dev) (inside : 0 < second.1 dev) : first.1 dev = 0 ∧ view.serviceLock dev = true := by
  have total := counts.services dev
  change first.1 dev + (second.1 dev + rest.1 dev) = _ at total
  split at total
  · next locked => exact ⟨by omega, locked⟩
  · omega

omit [DecidableEq Dev] in
theorem LockCounts.outside_operation (counts : LockCounts view (first + (second + rest)))
    (service : Nat) (inside : 0 < second.2.1 service) : first.2.1 service = 0 := by
  have total := counts.operations service
  change first.2.1 service + (second.2.1 service + rest.2.1 service) = _ at total
  split at total <;> omega

omit [DecidableEq Dev] in
theorem LockCounts.one_closer (counts : LockCounts view (first + (second + rest)))
    (closer : 0 < second.2.2 dev) : first.2.2 dev = 0 := by
  have total := counts.closers dev
  change first.2.2 dev + (second.2.2 dev + rest.2.2 dev) = _ at total
  split at total <;> omega

omit [DecidableEq Dev] in
theorem LockCounts.no_closer (counts : LockCounts view (first + locks))
    (opened : view.closing dev = false) : first.2.2 dev = 0 := by
  have total := counts.closers dev
  rw [opened] at total
  change first.2.2 dev + locks.2.2 dev = 0 at total
  omega

variable {tables : Tables Dev} {after : Book Dev} {thread other : Thread Dev}

/-- The frame of a section as the close thread of a file sees it: the file is not
open, so the section is no ioctl of it. -/
private theorem Frame.for_closer (frame : Frame tables.lockView tables.book after thread)
    (locks : LockCounts tables.lockView (thread.locks + (other.locks + rest)))
    (known : thread.Local tables.book) (closer : 0 < other.locks.2.2 dev) {index : Nat}
    (phase : tables.book.phase dev = .closing index) :
    after.phase dev = .closing index ∧ after.slot dev = tables.book.slot dev ∧
      ∀ service, tables.book.sessionsOf dev service ≤ after.sessionsOf dev service := by
  have notCloser := locks.one_closer closer
  have notOwn : thread.ioctlDev ≠ some dev := by
    intro own
    have opened := known.opened dev own
    rw [phase] at opened
    cases opened
  refine ⟨?_, frame.slot dev (Or.inl notOwn), fun service => frame.numbers dev service notOwn
    notCloser⟩
  rw [frame.phase dev notCloser, phase]

private theorem Book.Unclosed.stable {book : Book Dev} {from_ : Nat}
    (unclosed : book.Unclosed dev from_) (slot : after.slot dev = book.slot dev)
    (numbers : ∀ service, book.sessionsOf dev service ≤ after.sessionsOf dev service) :
    after.Unclosed dev from_ := by
  intro index service above stored
  rw [slot] at stored
  exact Nat.lt_of_lt_of_le (unclosed index service above stored) (numbers service)

private theorem Book.AtSlot.stable {index : Nat}
    (here : tables.book.AtSlot dev index service)
    (frame : Frame tables.lockView tables.book after thread)
    (locks : LockCounts tables.lockView (thread.locks + (other.locks + rest)))
    (known : thread.Local tables.book) (closer : 0 < other.locks.2.2 dev) :
    after.AtSlot dev index service := by
  obtain ⟨phase, slot, numbers⟩ := frame.for_closer locks known closer here.phase
  obtain ⟨place, same, stored⟩ := here.slot
  exact ⟨phase, ⟨place, same, by rw [slot, stored]⟩, here.later.stable slot numbers⟩

private theorem Book.Walks.stable {remaining : List Nat}
    (walks : tables.book.Walks service remaining)
    (frame : Frame tables.lockView tables.book after thread)
    (locks : LockCounts tables.lockView (thread.locks + (other.locks + rest)))
    (inside : 0 < other.locks.2.1 service) : after.Walks service remaining := by
  refine ⟨?_, walks.once⟩
  intro session member
  exact frame.list service (locks.outside_operation service inside) session (walks.members session member)

theorem Thread.Local.stable [Fintype Dev] {holds : Holds Dev} (facts : other.Local tables.book)
    (frame : Frame tables.lockView tables.book after thread)
    (counted : tables.book.Counted holds)
    (locks : LockCounts tables.lockView (thread.locks + (other.locks + rest)))
    (known : thread.Local tables.book) : other.Local after := by
  have opened (dev : Dev) (own : other.ioctlDev = some dev) : after.phase dev = .opened := by
    have before := facts.opened dev own
    have notClosing : tables.lockView.closing dev = false := by
      change (tables.book.phase dev).isClosing = false
      rw [before]
      rfl
    rw [frame.phase dev (locks.no_closer notClosing), before]
  refine ⟨opened, ?_⟩
  have specific := facts.facts
  cases other with
  | openFindAll dev uuid =>
      have outside := locks.outside_services dev (by simp [Thread.locks, insideServices])
      intro index service stored
      rw [frame.slot dev (Or.inr outside)] at stored
      have used := counted.services.usage_pos_of_slot stored (by rw [facts.opened dev rfl]; rfl)
      rw [frame.uuid service (counted.services.lt_serviceCount used)]
      exact specific index service stored
  | openAddDev dev service =>
      have outside := locks.outside_services dev (by simp [Thread.locks, insideServices])
      intro index
      rw [frame.slot dev (Or.inr outside)]
      exact specific index
  | closeCalling dev service session =>
      have outside := locks.outside_operation service
        (by simp [Thread.locks, insideOperation])
      have used := counted.sessions.usage_pos_of_mem specific.1
      refine ⟨frame.list service outside session specific.1, ?_⟩
      rw [frame.owner session (counted.sessions.lt_sessionCount used)]
      exact specific.2
  | fdScan dev index =>
      obtain ⟨phase, slot, numbers⟩ := frame.for_closer locks known
        (by simp [Thread.locks, closerOf]) specific.1
      exact ⟨phase, specific.2.stable slot numbers⟩
  | fdLock dev index service =>
      exact specific.stable frame locks known (by simp [Thread.locks, closerOf])
  | fdPut dev index service closed =>
      exact specific.stable frame locks known (by simp [Thread.locks, closerOf])
  | fdClosing dev index service remaining closed =>
      exact ⟨specific.1.stable frame locks known (by simp [Thread.locks, closerOf, insideOperation]),
        specific.2.stable frame locks (by simp [Thread.locks, closerOf, insideOperation])⟩
  | fdUnlinked dev index service session remaining closed =>
      exact ⟨specific.1.stable frame locks known (by simp [Thread.locks, closerOf, insideOperation]),
        specific.2.stable frame locks (by simp [Thread.locks, closerOf, insideOperation])⟩
  | _ => trivial

end Stability

end TzDriver.Session
