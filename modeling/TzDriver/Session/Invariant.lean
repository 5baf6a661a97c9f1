/-
The invariant of the session tables over whole runs.

A run may interleave any number of opens, closes, sends, notifications and file
closes.  The invariant ties the counters to what the threads hold, the lock flags
to who is inside, and every thread to the facts it relies on.
-/

import TzDriver.Session.Sections

namespace TzDriver.Session

open TzDriver.Lib

variable {Dev : Type} [DecidableEq Dev] [Fintype Dev]

structure Invariant (world : World Dev) : Prop where
  counted : world.tables.book.Counted (holdsOf world.threads)
  locks : LockCounts world.tables.lockView (locksOf world.threads)
  facts : ∀ thread ∈ world.threads, thread.Local world.tables.book
  fault : world.tables.fault = false

/-! ### The start -/

theorem initial_counted : (Tables.initial : Tables Dev).book.Counted 0 := by
  refine ⟨⟨?_, ?_, List.nodup_nil, ?_, ?_, ?_⟩, ⟨?_, ?_, ?_, ?_⟩, ⟨?_, ?_, ?_, ?_, ?_, ?_, ?_⟩⟩
  · intro service
    have unowned : (Tables.initial : Tables Dev).book.owningSlots service = ∅ := by
      simp [Book.owningSlots, Tables.book, Tables.initial]
    rw [Book.slotRefs, unowned]
    rfl
  · intro service
    simp [Tables.book, Tables.initial]
  · intro service impossible
    cases impossible
  · intro service
    simp [Tables.book, Tables.initial]
  · intro first impossible
    cases impossible
  · intro dev first second service impossible
    cases impossible
  · intro dev _
    refine ⟨?_, ?_, fun _ => Nat.zero_le _, fun _ _ => rfl, ?_⟩
    · intro index service impossible
      cases impossible
    · intro index service impossible
      cases impossible
    · intro service positive
      cases positive
  · intro dev index service impossible
    cases impossible
  · intro dev index
    exact Nat.zero_le _
  · intro session
    simp [Tables.book, Tables.initial, Book.Listed]
  · intro service session impossible
    cases impossible
  · intro service
    exact List.nodup_nil
  · intro session
    simp [Tables.book, Tables.initial]
  · intro session impossible
    cases impossible
  · intro service _
    rfl
  · intro session _
    rfl

theorem Invariant.initial : Invariant (⟨Tables.initial, 0⟩ : World Dev) := by
  refine ⟨initial_counted, ⟨fun _ => rfl, fun _ => rfl, fun _ => rfl, fun _ _ => rfl⟩, ?_, rfl⟩
  intro thread member
  cases Multiset.notMem_zero thread member

/-! ### A call begins -/

theorem Invariant.join {world : World Dev} (invariant : Invariant world) {thread : Thread Dev}
    (holds : thread.holds = 0) (locks : thread.locks = 0)
    (facts : thread.Local world.tables.book) :
    Invariant ⟨world.tables, thread ::ₘ world.threads⟩ := by
  refine ⟨?_, ?_, ?_, invariant.fault⟩
  · rw [holdsOf_cons, holds, zero_add]
    exact invariant.counted
  · rw [locksOf_cons, locks, zero_add]
    exact invariant.locks
  · intro other member
    rcases Multiset.mem_cons.mp member with rfl | before
    · exact facts
    · exact invariant.facts other before

/-! ### A file is closed -/

omit [Fintype Dev] in
/-- Only an ioctl holds numbers in the slots of an open file, apart from its close
thread. -/
theorem Thread.holds_refs_eq_zero {thread : Thread Dev} {dev : Dev}
    (notOwn : thread.ioctlDev ≠ some dev) (notCloser : thread.locks.2.2 dev = 0) (service : Nat) :
    thread.holds.2.1 (dev, service) = 0 := by
  have apart {other : Dev} (different : other ≠ dev) (target : Nat) :
      (Pi.single (other, target) 1 : Dev × Nat → Nat) (dev, service) = 0 :=
    Pi.single_eq_of_ne (fun same => different (Prod.mk.inj same).1.symm) _
  cases thread with
  | openReferenced other target => exact apart (fun same => notOwn (same ▸ rfl)) target
  | openLocked other target => exact apart (fun same => notOwn (same ▸ rfl)) target
  | openUndo other target => exact apart (fun same => notOwn (same ▸ rfl)) target
  | closeUnlinked other target session =>
      have here := apart (fun same : other = dev => notOwn (same ▸ rfl)) target
      simp [Thread.holds, holdSession, holdRef, holdService, here]
  | closePutOnce other target session =>
      have here := apart (fun same : other = dev => notOwn (same ▸ rfl)) target
      simp [Thread.holds, holdSession, holdRef, holdService, here]
  | closeDel other target =>
      have here := apart (fun same : other = dev => notOwn (same ▸ rfl)) target
      simp [Thread.holds, holdRef, holdService, here]
  | findPut finder other target session => cases session <;> rfl
  | fdClosing other index target remaining closed =>
      have different : other ≠ dev := by
        intro equal
        subst equal
        simp [Thread.locks, insideOperation, closerOf] at notCloser
      simp [Thread.holds, holdRef, apart different]
  | fdUnlinked other index target session remaining closed =>
      have different : other ≠ dev := by
        intro equal
        subst equal
        simp [Thread.locks, insideOperation, closerOf] at notCloser
      simp [Thread.holds, holdSession, holdRef, apart different]
  | fdPut other index target closed =>
      have different : other ≠ dev := by
        intro equal
        subst equal
        simp [Thread.locks, closerOf] at notCloser
      simp [Thread.holds, holdRef, apart different]
  | _ => rfl

omit [Fintype Dev] in
theorem holdsOf_refs_eq_zero {threads : Multiset (Thread Dev)} {dev : Dev}
    (notOwn : ∀ thread ∈ threads, thread.ioctlDev ≠ some dev)
    (noCloser : (locksOf threads).2.2 dev = 0) (service : Nat) :
    (holdsOf threads).2.1 (dev, service) = 0 := by
  induction threads using Multiset.induction_on with
  | empty => rfl
  | cons thread rest ih =>
      rw [locksOf_cons] at noCloser
      change thread.locks.2.2 dev + (locksOf rest).2.2 dev = 0 at noCloser
      rw [holdsOf_cons]
      change thread.holds.2.1 (dev, service) + (holdsOf rest).2.1 (dev, service) = 0
      rw [Thread.holds_refs_eq_zero (notOwn thread (Multiset.mem_cons_self _ _)) (by omega),
        ih (fun other member => notOwn other (Multiset.mem_cons_of_mem member)) (by omega)]

omit [Fintype Dev] in
/-- A file's phase matters to its ioctls and its close thread only. -/
theorem Thread.Local.setPhase {book : Book Dev} {thread : Thread Dev} {dev : Dev} {phase : Phase}
    (facts : thread.Local book) (notOwn : thread.ioctlDev ≠ some dev)
    (notCloser : thread.locks.2.2 dev = 0) : thread.Local (book.setPhase dev phase) := by
  have kept (other : Dev) (different : other ≠ dev) :
      (book.setPhase dev phase).phase other = book.phase other :=
    Function.update_of_ne different _ _
  have elsewhere (other : Dev) (inside : 0 < thread.locks.2.2 other) : other ≠ dev := by
    intro equal
    subst equal
    omega
  constructor
  · intro other own
    rw [kept other (fun same => notOwn (same ▸ own))]
    exact facts.opened other own
  · have specific := facts.facts
    cases thread with
    | fdScan other index =>
        have different := elsewhere other (by simp [Thread.locks, closerOf])
        exact ⟨(kept other different).trans specific.1, specific.2⟩
    | fdLock other index service =>
        have different := elsewhere other (by simp [Thread.locks, closerOf])
        exact ⟨(kept other different).trans specific.phase, specific.slot, specific.later⟩
    | fdPut other index service closed =>
        have different := elsewhere other (by simp [Thread.locks, closerOf])
        exact ⟨(kept other different).trans specific.phase, specific.slot, specific.later⟩
    | fdClosing other index service remaining closed =>
        have different := elsewhere other (by simp [Thread.locks, closerOf, insideOperation])
        exact ⟨⟨(kept other different).trans specific.1.phase, specific.1.slot, specific.1.later⟩,
          specific.2.members, specific.2.once⟩
    | fdUnlinked other index service session remaining closed =>
        have different := elsewhere other (by simp [Thread.locks, closerOf, insideOperation])
        exact ⟨⟨(kept other different).trans specific.1.phase, specific.1.slot, specific.1.later⟩,
          specific.2.members, specific.2.once⟩
    | _ => exact specific

omit [Fintype Dev] in
theorem closer_of_mem {threads : Multiset (Thread Dev)} {thread : Thread Dev} {dev : Dev}
    (member : thread ∈ threads) (noCloser : (locksOf threads).2.2 dev = 0) :
    thread.locks.2.2 dev = 0 := by
  obtain ⟨rest, rfl⟩ := Multiset.exists_cons_of_mem member
  rw [locksOf_cons] at noCloser
  change thread.locks.2.2 dev + (locksOf rest).2.2 dev = 0 at noCloser
  omega

theorem Invariant.closeFd {world : World Dev} (invariant : Invariant world) {dev : Dev}
    (opened : (world.tables.devs dev).phase = .opened)
    (returned : ∀ thread ∈ world.threads, thread.ioctlDev ≠ some dev) :
    Invariant ⟨world.tables.setPhase dev (.closing 0), .fdScan dev 0 ::ₘ world.threads⟩ := by
  change world.tables.book.phase dev = .opened at opened
  have notClosing : world.tables.lockView.closing dev = false := by
    change (world.tables.book.phase dev).isClosing = false
    rw [opened]
    rfl
  have noCloser : (locksOf world.threads).2.2 dev = 0 := by
    rw [invariant.locks.closers, notClosing]
    rfl
  have live (place : Fin servicesMaxCount) (other : Nat)
      (_ : world.tables.book.slot dev place = some other) :
      Phase.live (.closing 0) place = (world.tables.book.phase dev).live place := by
    rw [opened]
    simp [Phase.live]
  refine ⟨?_, ?_, ?_, invariant.fault⟩
  · rw [holdsOf_cons, Tables.book_setPhase]
    simpa [Thread.holds] using invariant.counted.setPhase Phase.noConfusion live
  · rw [locksOf_cons, Tables.lockView_setPhase]
    exact invariant.locks.startClosing notClosing
  · intro thread member
    rw [Tables.book_setPhase]
    rcases Multiset.mem_cons.mp member with rfl | before
    · refine ⟨?_, Function.update_self _ _ _, ?_⟩
      · intro _ impossible
        cases impossible
      · -- no ioctl is left, so the numbers of the slots are all open sessions
        intro index service _ stored
        have here := invariant.counted.refs.opened dev opened
        have positive := here.positive index service stored
        rw [here.number index service stored, Book.sessionNumber,
          holdsOf_refs_eq_zero returned noCloser] at positive
        exact positive
    · exact (invariant.facts thread before).setPhase (returned thread before)
        (closer_of_mem before noCloser)

/-! ### A section runs -/

theorem Invariant.run {tables after : Tables Dev} {thread : Thread Dev}
    {rest : Multiset (Thread Dev)} {choice : Choice} {next : Next Dev}
    (invariant : Invariant ⟨tables, thread ::ₘ rest⟩) (careful : thread.Careful tables.book)
    (ran : stepThread tables choice thread = some (after, next)) :
    Invariant ⟨after, next.threads + rest⟩ := by
  have counted := invariant.counted
  have locks := invariant.locks
  rw [holdsOf_cons] at counted
  rw [locksOf_cons] at locks
  have known := invariant.facts thread (Multiset.mem_cons_self _ _)
  have sound : Sound tables (.goes thread) (holdsOf rest) (locksOf rest) :=
    ⟨counted, locks, known, invariant.fault⟩
  obtain ⟨sound, frame⟩ := stepThread_kept sound careful ran
  refine ⟨?_, ?_, ?_, sound.fault⟩
  · rw [holdsOf_next]
    exact sound.counted
  · rw [locksOf_next]
    exact sound.locks
  · intro other member
    rcases Multiset.mem_add.mp member with mine | others
    · cases next with
      | goes thread =>
          rw [Next.threads, Multiset.mem_singleton] at mine
          subst mine
          exact sound.facts
      | returns success => cases Multiset.notMem_zero _ mine
    · have before := invariant.facts other (Multiset.mem_cons_of_mem others)
      obtain ⟨remaining, rfl⟩ := Multiset.exists_cons_of_mem others
      rw [locksOf_cons] at locks
      exact before.stable frame counted locks known

/-! ### Whole runs -/

/-- Notifications look a file up only while every slot of it owns its reference. -/
def Careful (world : World Dev) : Label Dev → Prop
  | .run thread _ => thread.Careful world.tables.book
  | _ => True

theorem Invariant.step {before after : World Dev} {label : Label Dev}
    (invariant : Invariant before) (careful : Careful before label)
    (stepped : World.Step before label after) : Invariant after := by
  cases stepped with
  | @ioctl _ call file =>
      refine invariant.join ?_ ?_ ⟨?_, ?_⟩
      · cases call <;> rfl
      · cases call <;> rfl
      · intro dev own
        have same : call.dev = dev ∨ call.thread.ioctlDev = none := by
          cases call with
          | notify => exact Or.inr rfl
          | _ => exact Or.inl (Option.some.inj own)
        rcases same with rfl | none_
        · exact file
        · rw [none_] at own
          cases own
      · cases call <;> trivial
  | notify =>
      refine invariant.join rfl rfl ⟨?_, trivial⟩
      intro dev impossible
      cases impossible
  | closeFd file returned => exact invariant.closeFd file returned
  | run ran => exact invariant.run careful ran

theorem invariant_of_reachable {world : World Dev}
    (reached : (sessionMachine.restrict Careful).Reachable world) : Invariant world := by
  refine Machine.Reachable.invariant ?_ ?_ reached
  · intro _ same
    subst same
    exact .initial
  · intro before label after invariant given
    obtain ⟨careful, stepped⟩ := given
    exact invariant.step careful stepped

end TzDriver.Session
