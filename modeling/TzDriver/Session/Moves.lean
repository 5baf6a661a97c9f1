/-
One lemma for each operation on the book: it keeps the counts when the account of
the threads moves with it.
-/

import TzDriver.Session.SessionMoves

namespace TzDriver.Session

variable {Dev : Type}

section Account

variable (holds : Holds Dev)

@[simp] theorem holdService_services (service : Nat) :
    (holdService service + holds).1 = Pi.single service 1 + holds.1 := rfl

@[simp] theorem holdService_refs (service : Nat) :
    (holdService service + holds).2.1 = holds.2.1 := zero_add _

@[simp] theorem holdService_sessions (service : Nat) :
    (holdService service + holds).2.2 = holds.2.2 := zero_add _

@[simp] theorem holdRef_services [DecidableEq Dev] (dev : Dev) (service : Nat) :
    (holdRef dev service + holds).1 = holds.1 := zero_add _

@[simp] theorem holdRef_refs [DecidableEq Dev] (dev : Dev) (service : Nat) :
    (holdRef dev service + holds).2.1 = Pi.single (dev, service) 1 + holds.2.1 := rfl

@[simp] theorem holdRef_sessions [DecidableEq Dev] (dev : Dev) (service : Nat) :
    (holdRef dev service + holds).2.2 = holds.2.2 := zero_add _

@[simp] theorem holdSession_services (session : Nat) :
    (holdSession session + holds).1 = holds.1 := zero_add _

@[simp] theorem holdSession_refs (session : Nat) :
    (holdSession session + holds).2.1 = holds.2.1 := zero_add _

@[simp] theorem holdSession_sessions (session : Nat) :
    (holdSession session + holds).2.2 = Pi.single session 1 + holds.2.2 := rfl

section Several

variable [DecidableEq Dev] (closed : Nat) (dev : Dev) (service : Nat)

theorem holdRefs_services : (closed • holdRef dev service + holds).1 = holds.1 := by
  simp [holdRef]

theorem holdRefs_refs :
    (closed • holdRef dev service + holds).2.1 = closed • Pi.single (dev, service) 1 + holds.2.1 :=
  rfl

theorem holdRefs_sessions : (closed • holdRef dev service + holds).2.2 = holds.2.2 := by
  simp [holdRef]

end Several

end Account

namespace Book.Counted

variable [Fintype Dev] [DecidableEq Dev] {book : Book Dev} {holds : Holds Dev} {dev : Dev}
  {index : Fin servicesMaxCount} {service session : Nat}

theorem usage_pos_of_hold (counted : book.Counted (holdService service + holds)) :
    0 < book.usage service := by
  rw [counted.services.usage, holdService_services, Pi.add_apply, Pi.single_eq_same]
  omega

theorem session_pos_of_hold (counted : book.Counted (holdSession session + holds)) :
    0 < book.sessionUsage session := by
  rw [counted.sessions.usage, holdSession_sessions, Pi.add_apply, Pi.single_eq_same]
  omega

theorem usage_pos_of_ref (counted : book.Counted (holdRef dev service + holds))
    (opened : book.phase dev = .opened) : 0 < book.usage service := by
  have refs := counted.refs
  rw [holdRef_refs] at refs
  obtain ⟨place, stored, _⟩ := refs.slot_of_held opened
  exact counted.services.usage_pos_of_slot stored (by rw [opened]; rfl)

theorem getService (counted : book.Counted holds) (used : 0 < book.usage service) :
    (book.getService service).Counted (holdService service + holds) := by
  refine ⟨counted.services.getService used, ?_, ?_⟩
  · rw [holdService_refs]
    exact counted.refs.congr rfl rfl rfl fun _ _ => rfl
  · rw [holdService_sessions]
    exact counted.sessions.congr rfl rfl rfl rfl rfl rfl rfl

theorem sessionsOf_newService (counted : book.Counted holds) (uuid : Uuid) (other : Dev)
    (target : Nat) :
    (book.newService uuid).sessionsOf other target = book.sessionsOf other target := by
  change (Function.update book.sessionList book.serviceCount [] target).countP _ = _
  by_cases new : target = book.serviceCount
  · subst new
    rw [Function.update_self, sessionsOf, counted.sessions.fresh _ (Nat.le_refl _)]
    rfl
  · rw [Function.update_of_ne new]
    rfl

theorem newService (counted : book.Counted holds) {uuid : Uuid}
    (missing : ∀ other ∈ book.serviceList, book.uuid other ≠ uuid) :
    (book.newService uuid).Counted (holdService book.serviceCount + holds) := by
  refine ⟨counted.services.newService missing, ?_, ?_⟩
  · rw [holdService_refs]
    refine counted.refs.congr rfl rfl rfl ?_
    intro other target
    unfold sessionNumber
    rw [counted.sessionsOf_newService]
  · rw [holdService_sessions]
    exact counted.sessions.newService uuid

theorem putService (counted : book.Counted (holdService service + holds)) :
    (book.putService service).Counted holds := by
  have refs := counted.refs
  have sessions := counted.sessions
  rw [holdService_refs] at refs
  rw [holdService_sessions] at sessions
  refine ⟨counted.services.putService, ?_, ?_⟩
  · refine refs.congr ?_ ?_ ?_ ?_ <;> unfold Book.putService <;> split
    all_goals first
      | rfl
      | exact fun _ _ => rfl
  · refine sessions.congr ?_ ?_ ?_ ?_ ?_ ?_ ?_ <;> unfold Book.putService <;> split <;> rfl

theorem refSlot (counted : book.Counted holds) (stored : book.slot dev index = some service)
    (room : book.ref dev index ≠ maxRefCount) (opened : book.phase dev = .opened) :
    (book.setRef dev index ((book.ref dev index + 1) % 256)).Counted
      (holdRef dev service + holds) := by
  refine ⟨?_, counted.refs.refSlot stored room opened, ?_⟩
  · rw [holdRef_services]
    exact counted.services.reslot fun _ => rfl
  · rw [holdRef_sessions]
    exact counted.sessions.congr rfl rfl rfl rfl rfl rfl rfl

theorem addSlot (counted : book.Counted (holdService service + holds))
    (free : book.slot dev index = none) (absent : ∀ place, book.slot dev place ≠ some service)
    (opened : book.phase dev = .opened) :
    ((book.setSlot dev index (some service)).setRef dev index 1).Counted
      (holdRef dev service + holds) := by
  have refs := counted.refs
  have sessions := counted.sessions
  rw [holdService_refs] at refs
  rw [holdService_sessions] at sessions
  refine ⟨?_, refs.addSlot free absent opened, ?_⟩
  · rw [holdRef_services]
    apply counted.services.reslot
    intro other
    have filled : (book.setSlot dev index (some service)).slotRefs other = _ :=
      slotRefs_setSlot free (show (book.phase dev).live index = true by rw [opened]; rfl) other
    change (book.setSlot dev index (some service)).slotRefs other + _ = _
    rw [filled, holdService_services, Pi.add_apply]
    omega
  · rw [holdRef_sessions]
    exact sessions.congr rfl rfl rfl rfl rfl rfl rfl

theorem unrefSlot (counted : book.Counted (holdRef dev service + holds))
    (stored : book.slot dev index = some service) (more : book.ref dev index - 1 ≠ 0)
    (opened : book.phase dev = .opened) :
    (book.setRef dev index (book.ref dev index - 1)).Counted holds := by
  have services := counted.services
  have sessions := counted.sessions
  rw [holdRef_services] at services
  rw [holdRef_sessions] at sessions
  exact ⟨services.reslot fun _ => rfl, counted.refs.unrefSlot stored more opened,
    sessions.congr rfl rfl rfl rfl rfl rfl rfl⟩

theorem clearSlot (counted : book.Counted (holdRef dev service + holds))
    (stored : book.slot dev index = some service) (last : book.ref dev index - 1 = 0)
    (opened : book.phase dev = .opened) :
    ((book.setSlot dev index none).setRef dev index 0).Counted
      (holdService service + holds) := by
  have services := counted.services
  have sessions := counted.sessions
  rw [holdRef_services] at services
  rw [holdRef_sessions] at sessions
  refine ⟨?_, ?_, ?_⟩
  · apply services.reslot
    intro other
    have cleared := slotRefs_clearSlot stored (show (book.phase dev).live index = true by
      rw [opened]; rfl) other
    change (book.setSlot dev index none).slotRefs other + _ = _
    rw [← cleared, holdService_services, Pi.add_apply]
    omega
  · rw [holdService_refs]
    exact counted.refs.clearSlot stored last opened
  · rw [holdService_sessions]
    exact sessions.congr rfl rfl rfl rfl rfl rfl rfl

theorem publish (counted : book.Counted (holdRef dev service + holds))
    (created : service < book.serviceCount) : (book.publish dev service).Counted holds := by
  have services := counted.services
  have sessions := counted.sessions
  rw [holdRef_services] at services
  rw [holdRef_sessions] at sessions
  exact ⟨⟨services.usage, services.listed, services.listedOnce, services.created, services.freed,
    services.uuidOnce⟩, counted.refs.publish sessions, sessions.publish dev created⟩

theorem getSession (counted : book.Counted holds) (used : 0 < book.sessionUsage session) :
    (book.getSession session).Counted (holdSession session + holds) := by
  refine ⟨?_, ?_, counted.sessions.getSession used⟩
  · rw [holdSession_services]
    exact ⟨counted.services.usage, counted.services.listed, counted.services.listedOnce,
      counted.services.created, counted.services.freed, counted.services.uuidOnce⟩
  · rw [holdSession_refs]
    exact counted.refs.congr rfl rfl rfl fun _ _ => rfl

theorem putSession (counted : book.Counted (holdSession session + holds)) :
    (book.putSession session).Counted holds := by
  have services := counted.services
  have refs := counted.refs
  rw [holdSession_services] at services
  rw [holdSession_refs] at refs
  exact ⟨⟨services.usage, services.listed, services.listedOnce, services.created, services.freed,
    services.uuidOnce⟩, refs.congr rfl rfl rfl fun _ _ => rfl, counted.sessions.putSession⟩

/-- `list_del` by a closer, who then holds the list's reference and the number. -/
theorem unlink (counted : book.Counted holds) (member : session ∈ book.sessionList service)
    (owned : book.owner session = some dev) :
    (book.unlink service session).Counted (holdRef dev service + (holdSession session + holds)) := by
  have services := counted.services
  refine ⟨?_, ?_, ?_⟩
  · rw [holdRef_services, holdSession_services]
    exact ⟨services.usage, services.listed, services.listedOnce, services.created, services.freed,
      services.uuidOnce⟩
  · rw [holdRef_refs, holdSession_refs]
    exact counted.refs.unlink member owned
  · rw [holdRef_sessions]
    exact counted.sessions.unlink member

theorem setPhase (counted : book.Counted holds) {phase : Phase} (notOpen : phase ≠ .opened)
    (same : ∀ place other, book.slot dev place = some other →
      phase.live place = (book.phase dev).live place) :
    (book.setPhase dev phase).Counted holds := by
  have live (place : Fin servicesMaxCount) (other : Nat)
      (stored : book.slot dev place = some other) (owned : phase.live place = true) :
      (book.phase dev).live place = true ∧ book.sessionNumber holds.2.1 dev other =
        book.sessionNumber holds.2.1 dev other :=
    ⟨(same place other stored).symm.trans owned, rfl⟩
  refine ⟨?_, counted.refs.setPhase notOpen live fun _ _ _ => rfl,
    counted.sessions.congr rfl rfl rfl rfl rfl rfl rfl⟩
  apply counted.services.reslot
  intro other
  change (book.setPhase dev phase).slotRefs other + _ = _
  rw [slotRefs_setPhase same]

theorem dropSlot {closed : Nat} (counted : book.Counted (closed • holdRef dev service + holds))
    (closing : book.phase dev = .closing index) (stored : book.slot dev index = some service) :
    (book.setPhase dev (.closing (index + 1))).Counted (holdService service + holds) := by
  have services := counted.services
  have refs := counted.refs
  have sessions := counted.sessions
  simp only [holdRefs_services, holdRefs_refs, holdRefs_sessions] at services refs sessions
  refine ⟨?_, ?_, ?_⟩
  · apply services.reslot
    intro other
    have dropped := slotRefs_dropSlot closing stored other
    change (book.setPhase dev (.closing (index + 1))).slotRefs other + _ = _
    rw [← dropped, holdService_services, Pi.add_apply]
    omega
  · rw [holdService_refs]
    exact refs.dropSlot closing stored
  · rw [holdService_sessions]
    exact sessions.congr rfl rfl rfl rfl rfl rfl rfl

end Book.Counted

end TzDriver.Session
