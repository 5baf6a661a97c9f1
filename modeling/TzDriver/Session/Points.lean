/-
What a move of `Requests` does to the threads and to the session lists.

A move takes one thread from its point and puts at most one new point in.  The facts
about threads that later proofs rely on follow from where a new point can come from.
-/

import TzDriver.Session.Registers

namespace TzDriver.Session

/-! ### Sections -/

section Threads

variable {Dev : Type} [DecidableEq Dev] {tables after : Tables Dev} {choice : Choice}
  {thread next : Thread Dev}

/-- The file whose ioctl or close the thread runs. -/
def Thread.file {Dev : Type} : Thread Dev → Option Dev
  | .fdScan dev _ | .fdLock dev _ _ | .fdClosing dev _ _ _ _ | .fdUnlinked dev _ _ _ _ _
  | .fdPut dev _ _ _ => some dev
  | thread => thread.ioctlDev

/-- The file and the session of a send that has found it and not put it. -/
def Thread.uses {Dev : Type} : Thread Dev → Option (Dev × Nat)
  | .findPut .ioctl dev _ (some session) | .findUsing .ioctl dev session => some (dev, session)
  | _ => none

theorem stepThread_file (ran : stepThread tables choice thread = some (after, .goes next)) :
    next.file = thread.file := by
  cases thread with
  | findHasService finder dev service sessionId =>
      cases ran
      cases finder <;> rfl
  | findPut finder dev service session =>
      cases session with
      | none => cases ran
      | some session =>
          cases ran
          cases finder <;> rfl
  | findStart finder dev uuid sessionId =>
      simp only [stepThread, findStartSection] at ran
      repeat' split at ran
      all_goals cases ran
      cases finder <;> rfl
  | fdClosing dev index service remaining count =>
      cases remaining with
      | nil =>
          cases ran
          rfl
      | cons session rest =>
          simp only [stepThread, fdClosingSection] at ran
          split at ran
          all_goals
            cases ran
            rfl
  | _ =>
      simp only [stepThread, openStartSection, openFindAllSection, openAddDevSection,
        openReferencedSection, openLockedSection, openUndoSection, closeStartSection,
        closeHasServiceSection, closeLockedSection, closeDelSection, fdScanSection,
        fdLockSection] at ran
      repeat' split at ran
      all_goals
        cases ran
        try rfl

theorem stepThread_uses {dev : Dev} {session : Nat}
    (ran : stepThread tables choice thread = some (after, .goes next))
    (uses : next.uses = some (dev, session)) :
    thread.uses = some (dev, session) ∨
      thread.ioctlDev = some dev ∧ (∃ service, session ∈ tables.registers.list service) ∧
        tables.registers.owner session = some dev := by
  cases thread with
  | findHasService finder other service sessionId =>
      cases ran
      cases finder with
      | notify => cases uses
      | ioctl =>
          right
          cases found : tables.tcFindSessionWithowner service sessionId other with
          | none =>
              simp only [found] at uses
              cases uses
          | some target =>
              simp only [found] at uses
              cases uses
              have known := Tables.tcFindSessionWithowner_eq_some found
              exact ⟨rfl, ⟨service, known.1⟩, known.2⟩
  | findPut finder other service target =>
      cases target with
      | none => cases ran
      | some target =>
          cases ran
          cases finder with
          | notify => cases uses
          | ioctl => exact Or.inl uses
  | findStart finder dev uuid sessionId =>
      simp only [stepThread, findStartSection] at ran
      repeat' split at ran
      all_goals cases ran
      cases uses
  | fdClosing dev index service remaining count =>
      cases remaining with
      | nil =>
          cases ran
          cases uses
      | cons session rest =>
          simp only [stepThread, fdClosingSection] at ran
          split at ran
          all_goals
            cases ran
            cases uses
  | _ =>
      simp only [stepThread, openStartSection, openFindAllSection, openAddDevSection,
        openReferencedSection, openLockedSection, openUndoSection, closeStartSection,
        closeHasServiceSection, closeLockedSection, closeDelSection, fdScanSection,
        fdLockSection] at ran
      repeat' split at ran
      all_goals
        cases ran
        try cases uses

omit [DecidableEq Dev] in
theorem Thread.ioctlDev_of_uses {thread : Thread Dev} {dev : Dev} {session : Nat}
    (uses : thread.uses = some (dev, session)) : thread.ioctlDev = some dev := by
  cases thread with
  | findPut finder other service target =>
      cases finder with
      | notify => cases uses
      | ioctl =>
          cases target with
          | none => cases uses
          | some target => cases uses; rfl
  | findUsing finder other target =>
      cases finder with
      | notify => cases uses
      | ioctl => cases uses; rfl
  | _ => cases uses

theorem Thread.file_alive {thread : Thread Dev} {book : Book Dev} (facts : thread.Local book)
    {dev : Dev} (own : thread.file = some dev) : book.phase dev ≠ .freed := by
  have opened (ioctl : thread.ioctlDev = some dev) : book.phase dev ≠ .freed := by
    rw [facts.opened dev ioctl]
    exact Phase.noConfusion
  have specific := facts.facts
  cases thread with
  | fdScan other index =>
      cases own
      rw [specific.1]
      exact Phase.noConfusion
  | fdLock other index service =>
      cases own
      rw [specific.phase]
      exact Phase.noConfusion
  | fdPut other index service count =>
      cases own
      rw [specific.phase]
      exact Phase.noConfusion
  | fdClosing other index service remaining count =>
      cases own
      rw [specific.1.phase]
      exact Phase.noConfusion
  | fdUnlinked other index service session remaining count =>
      cases own
      rw [specific.1.phase]
      exact Phase.noConfusion
  | _ => exact opened own

end Threads

/-! ### Points -/

/-- The point that the move takes its thread from. -/
def Move.point {Dev : Type} : Move Dev → Option (Point Dev)
  | .start _ | .closeFd _ => none
  | .run thread _ | .closeAnswer thread => some (.before thread)
  | .openAnswer dev service _ => some (.before (.openLocked dev service))
  | .openEnd dev service sessionId _ => some (.opened dev service sessionId)
  | .unlink point => some point

section Points

variable {Dev : Type} [DecidableEq Dev]

/-- The points that a move may add. -/
inductive Comes (before : Requests Dev) : Move Dev → Point Dev → Prop where
  | start (call : Start Dev) : Comes before (.start call) (.before call.thread)
  | closeFd (dev : Dev) : Comes before (.closeFd dev) (.before (.fdScan dev 0))
  | run {thread next : Thread Dev} {choice : Choice} {after : Tables Dev}
      (stepped : stepThread before.tables choice thread = some (after, .goes next)) :
      Comes before (.run thread choice) (.before next)
  | opened (dev : Dev) (service : Nat) (sessionId : UInt32) :
      Comes before (.openAnswer dev service (.success sessionId)) (.opened dev service sessionId)
  | pended (dev : Dev) (service : Nat) (sessionId : UInt32) :
      Comes before (.openAnswer dev service (.pending sessionId))
        (.openPended dev service sessionId)
  | openEnd {dev : Dev} {service : Nat} {sessionId : UInt32} {copied : Bool} {next : Thread Dev}
      {after : Tables Dev}
      (stepped : stepThread before.tables ⟨copied, sessionId⟩ (.openLocked dev service) =
        some (after, .goes next)) :
      Comes before (.openEnd dev service sessionId copied) (.before next)
  | closes {thread : Thread Dev} {closed : Point Dev} {session : Nat}
      (closes : thread.closes before.tables.book.owner = some (closed, session)) :
      Comes before (.closeAnswer thread) closed
  | unlink {point : Point Dev} {next : Thread Dev} {after : Tables Dev}
      (stepped : stepThread before.tables ⟨true, 0⟩ point.thread = some (after, .goes next)) :
      Comes before (.unlink point) (.before next)

variable {before after : Requests Dev} {move : Move Dev} {point : Point Dev}

theorem Requests.mem_ran {state : Requests Dev} {old : Point Dev} {result : Tables Dev × Next Dev}
    (member : point ∈ (state.ran old result).points) :
    point ∈ state.points ∨ ∃ next, result.2 = .goes next ∧ point = .before next := by
  rcases Multiset.mem_add.mp member with new | kept
  · obtain ⟨next, mine, rfl⟩ := Multiset.mem_map.mp new
    obtain ⟨tables, rest⟩ := result
    cases rest with
    | goes thread =>
        rw [Next.threads, Multiset.mem_singleton] at mine
        exact Or.inr ⟨thread, rfl, by rw [mine]⟩
    | returns success => cases Multiset.notMem_zero _ mine
  · exact Or.inl (Multiset.mem_of_mem_erase kept)

theorem Requests.exec_comes (ran : before.exec move = some after) (member : point ∈ after.points) :
    point ∈ before.points ∨ Comes before move point := by
  have goes {old : Point Dev} {result : Tables Dev × Next Dev}
      (there : point ∈ (before.ran old result).points)
      (comes : ∀ {next}, result = (result.1, .goes next) → point = .before next →
        Comes before move point) : point ∈ before.points ∨ Comes before move point := by
    rcases Requests.mem_ran there with kept | ⟨next, goes, here⟩
    · exact Or.inl kept
    · exact Or.inr (comes (Prod.ext rfl goes) here)
  cases Requests.exec_cases ran with
  | @start call =>
      rcases Multiset.mem_cons.mp member with rfl | old
      · exact Or.inr (.start call)
      · exact Or.inl old
  | @closeFd dev =>
      rcases Multiset.mem_cons.mp member with rfl | old
      · exact Or.inr (.closeFd dev)
      · exact Or.inl old
  | run _ _ _ stepped =>
      refine goes member ?_
      rintro next same rfl
      exact .run (stepped.trans (congrArg some same))
  | @openAnswer dev service answer =>
      cases answer with
      | success sessionId =>
          rcases Multiset.mem_cons.mp member with rfl | old
          · exact Or.inr (.opened dev service sessionId)
          · exact Or.inl (Multiset.mem_of_mem_erase old)
      | pending sessionId =>
          rcases Multiset.mem_cons.mp member with rfl | old
          · exact Or.inr (.pended dev service sessionId)
          · exact Or.inl (Multiset.mem_of_mem_erase old)
  | openEnd _ stepped =>
      refine goes member ?_
      rintro next same rfl
      exact .openEnd (stepped.trans (congrArg some same))
  | @closeAnswer _ closing _ closes =>
      rcases Multiset.mem_cons.mp member with rfl | old
      · exact Or.inr (.closes closes)
      · exact Or.inl (Multiset.mem_of_mem_erase old)
  | unlink _ _ stepped =>
      refine goes member ?_
      rintro next same rfl
      exact .unlink (stepped.trans (congrArg some same))

theorem Requests.exec_stays (ran : before.exec move = some after) (present : point ∈ before.points)
    (other : move.point ≠ some point) : point ∈ after.points := by
  have apart {old : Point Dev} (moved : move.point = some old) :
      point ∈ before.points.erase old := by
    refine (Multiset.mem_erase_of_ne ?_).mpr present
    intro same
    subst same
    exact other moved
  cases Requests.exec_cases ran with
  | start => exact Multiset.mem_cons_of_mem present
  | closeFd => exact Multiset.mem_cons_of_mem present
  | run => exact Multiset.mem_add.mpr (Or.inr (apart rfl))
  | @openAnswer _ _ answer =>
      cases answer with
      | success sessionId => exact Multiset.mem_cons_of_mem (apart rfl)
      | pending sessionId => exact Multiset.mem_cons_of_mem (apart rfl)
  | openEnd => exact Multiset.mem_add.mpr (Or.inr (apart rfl))
  | closeAnswer => exact Multiset.mem_cons_of_mem (apart rfl)
  | unlink => exact Multiset.mem_add.mpr (Or.inr (apart rfl))

theorem Requests.exec_point (ran : before.exec move = some after)
    (moved : move.point = some point) : point ∈ before.points := by
  cases Requests.exec_cases ran with
  | start | closeFd => cases moved
  | run present | openAnswer present | openEnd present | closeAnswer present | unlink present =>
      cases moved
      exact present

/-- Every thread of a file comes from an earlier one of it, or begins. -/
theorem Requests.exec_file {dev : Dev} (ran : before.exec move = some after)
    (member : point ∈ after.points) (own : point.thread.file = some dev) :
    (∃ old ∈ before.points, old.thread.file = some dev) ∨
      (∃ call, move = .start call ∧ call.dev = dev) ∨ move = .closeFd dev := by
  rcases Requests.exec_comes ran member with old | comes
  · exact Or.inl ⟨point, old, own⟩
  · have moved {old : Point Dev} (taken : move.point = some old)
        (same : point.thread.file = old.thread.file) :
        ∃ old ∈ before.points, old.thread.file = some dev :=
      ⟨old, Requests.exec_point ran taken, same ▸ own⟩
    cases comes with
    | start call =>
        refine Or.inr (Or.inl ⟨call, rfl, ?_⟩)
        cases call with
        | notify => cases own
        | _ => exact Option.some.inj own
    | closeFd =>
        cases own
        exact Or.inr (Or.inr rfl)
    | run stepped => exact Or.inl (moved rfl (stepThread_file stepped))
    | opened => exact Or.inl (moved rfl rfl)
    | pended => exact Or.inl (moved rfl rfl)
    | openEnd stepped => exact Or.inl (moved rfl (stepThread_file stepped))
    | closes closes => exact Or.inl (moved rfl (congrArg Thread.file (Thread.closes_thread closes)))
    | unlink stepped => exact Or.inl (moved rfl (stepThread_file stepped))

/-- A send that goes on with a session goes on with it since it found it on a list. -/
theorem Requests.exec_uses {dev : Dev} {session : Nat} (ran : before.exec move = some after)
    (member : point ∈ after.points) (uses : point.thread.uses = some (dev, session)) :
    (∃ old ∈ before.points, old.thread.uses = some (dev, session)) ∨
      (∃ old ∈ before.points, old.thread.ioctlDev = some dev) ∧
        (∃ service, session ∈ before.tables.registers.list service) ∧
          before.tables.registers.owner session = some dev := by
  rcases Requests.exec_comes ran member with old | comes
  · exact Or.inl ⟨point, old, uses⟩
  · have moved {old : Point Dev} (taken : move.point = some old)
        (found : old.thread.uses = some (dev, session) ∨
          old.thread.ioctlDev = some dev ∧
            (∃ service, session ∈ before.tables.registers.list service) ∧
              before.tables.registers.owner session = some dev) :
        (∃ old ∈ before.points, old.thread.uses = some (dev, session)) ∨
          (∃ old ∈ before.points, old.thread.ioctlDev = some dev) ∧
            (∃ service, session ∈ before.tables.registers.list service) ∧
              before.tables.registers.owner session = some dev := by
      have present := Requests.exec_point ran taken
      exact found.imp (fun same => ⟨old, present, same⟩)
        (fun facts => ⟨⟨old, present, facts.1⟩, facts.2⟩)
    cases comes with
    | start call => cases call <;> cases uses
    | closeFd => cases uses
    | run stepped => exact moved rfl (stepThread_uses stepped uses)
    | opened => cases uses
    | pended => cases uses
    | openEnd stepped => exact moved rfl (stepThread_uses stepped uses)
    | closes closes =>
        rw [Thread.closes_thread closes] at uses
        exact moved rfl (Or.inl uses)
    | unlink stepped => exact moved rfl (stepThread_uses stepped uses)

end Points

/-! ### Session lists -/

section Lists

variable {Dev : Type}

theorem Registers.mem_list_link {registers : Registers Dev} {place session : Nat}
    (listed : session ∈ registers.list place) (dev : Dev) (service : Nat) (sessionId : UInt32) :
    session ∈ (registers.link dev service sessionId).list place := by
  change session ∈ Function.update registers.list service _ place
  by_cases here : place = service
  · subst here
    rw [Function.update_self]
    exact List.mem_append_left _ listed
  · rw [Function.update_of_ne here]
    exact listed

theorem Registers.mem_list_unlink {registers : Registers Dev} {place session target : Nat}
    (listed : session ∈ registers.list place) (different : session ≠ target) (service : Nat) :
    session ∈ (registers.unlink service target).list place := by
  change session ∈ Function.update registers.list service _ place
  by_cases here : place = service
  · subst here
    rw [Function.update_self]
    exact (List.mem_erase_of_ne different).mpr listed
  · rw [Function.update_of_ne here]
    exact listed

variable [DecidableEq Dev]

/-- Only the end of an open adds to a list, and only a close takes from one. -/
inductive MoveEffect (before : Requests Dev) (move : Move Dev) (after : Requests Dev) : Prop where
  | same (kept : after.tables.registers = before.tables.registers)
  | links (dev : Dev) (service : Nat) (sessionId : UInt32)
      (here : move = .openEnd dev service sessionId true)
      (linked : after.tables.registers = before.tables.registers.link dev service sessionId)
  | fails (point : Point Dev) (service session : Nat) (thread : Thread Dev) (choice : Choice)
      (here : move = .run thread choice)
      (closes : thread.closes before.tables.book.owner = some (point, session))
      (leaves : point.leaves = some (service, session))
      (unlinked : after.tables.registers = before.tables.registers.unlink service session)
  | unlinks (point : Point Dev) (service session : Nat) (here : move = .unlink point)
      (closes : point.thread.closes before.tables.book.owner = some (point, session))
      (leaves : point.leaves = some (service, session))
      (unlinked : after.tables.registers = before.tables.registers.unlink service session)

theorem Point.eq_of_closes {owner : Nat → Option Dev} {point other : Point Dev} {session : Nat}
    (leaving : point.leaves.isSome = true)
    (closes : point.thread.closes owner = some (other, session)) : other = point := by
  cases point with
  | closed => cases closes; rfl
  | fdClosed =>
      rw [Point.thread, Thread.closes] at closes
      split at closes
      · cases closes
        rfl
      · cases closes
  | _ => cases leaving

theorem Requests.exec_effect [Fintype Dev] {before after : Requests Dev} {move : Move Dev}
    (invariant : Invariant before.world) (ran : before.exec move = some after) :
    MoveEffect before move after := by
  have fresh := invariant.counted.sessions.fresh before.tables.serviceCount (Nat.le_refl _)
  cases Requests.exec_cases ran with
  | start => exact .same rfl
  | @closeFd dev => exact .same (before.tables.registers_setPhase dev (.closing 0))
  | @run thread choice _ _ unanswered _ stepped =>
      cases stepThread_effect fresh stepped with
      | same kept => exact .same kept
      | links dev service here works linked =>
          subst here
          rw [Thread.unanswered, works] at unanswered
          cases unanswered
      | unlinks point service session closes leaves unlinked =>
          exact .fails point service session thread choice rfl closes leaves unlinked
  | @openAnswer _ _ answer =>
      cases answer with
      | success => exact .same rfl
      | pending => exact .same rfl
  | @openEnd dev service sessionId copied _ _ stepped =>
      cases copied with
      | true =>
          cases stepped
          exact .links dev service sessionId rfl (by simp [Requests.ran])
      | false =>
          cases stepped
          exact .same (by simp [Requests.ran])
  | closeAnswer => exact .same rfl
  | @unlink point _ _ leaving stepped =>
      cases stepThread_effect fresh stepped with
      | same kept => exact .same kept
      | links dev service here works linked =>
          cases point with
          | closed | fdClosed => cases here
          | _ => cases leaving
      | unlinks other service session closes leaves unlinked =>
          have same := Point.eq_of_closes leaving closes
          subst same
          exact .unlinks other service session rfl closes leaves unlinked

end Lists

end TzDriver.Session
