/-
The session side of the book, and how a session's number passes between its list
and the thread that opens or closes it.
-/

import Mathlib.Data.List.Count
import TzDriver.Session.ServiceMoves

namespace TzDriver.Session

namespace Book

variable {Dev : Type}

/-! ### Operations on sessions -/

section Sessions

variable {book : Book Dev} {held : Nat → Nat} {session : Nat} {service : Nat}

theorem SessionCounts.alive (counts : SessionCounts book held)
    (used : 0 < book.sessionUsage session) : book.sessionFreed session = false := by
  rw [Bool.eq_false_iff]
  intro freed
  have unused := ((counts.freed session).mp freed).2
  omega

theorem SessionCounts.lt_sessionCount (counts : SessionCounts book held)
    (used : 0 < book.sessionUsage session) : session < book.sessionCount := by
  by_contra above
  have unused := counts.unborn session (Nat.not_lt.mp above)
  omega

theorem SessionCounts.listed_of_mem (counts : SessionCounts book held)
    (member : session ∈ book.sessionList service) : book.Listed session := by
  have home := (counts.inList service session member).1
  unfold Listed
  rw [home]
  exact member

theorem SessionCounts.usage_pos_of_mem (counts : SessionCounts book held)
    (member : session ∈ book.sessionList service) : 0 < book.sessionUsage session := by
  rw [counts.usage, if_pos (counts.listed_of_mem member)]
  omega

theorem SessionCounts.congr (counts : SessionCounts book held) {after : Book Dev}
    (list : after.sessionList = book.sessionList) (home : after.home = book.home)
    (usage : after.sessionUsage = book.sessionUsage) (freed : after.sessionFreed = book.sessionFreed)
    (unlinked : after.unlinked = book.unlinked) (count : after.sessionCount = book.sessionCount)
    (services : after.serviceCount = book.serviceCount) : SessionCounts after held := by
  have listed (session : Nat) : after.Listed session ↔ book.Listed session := by
    unfold Listed
    rw [list, home]
  refine ⟨?_, ?_, ?_, ?_, ?_, ?_, ?_⟩
  · intro session
    simp only [usage, listed]
    exact counts.usage session
  · rw [list, home, count]
    exact counts.inList
  · rw [list]
    exact counts.once
  · rw [freed, count, usage]
    exact counts.freed
  · intro session below
    rw [count] at below
    simp only [unlinked, listed]
    exact counts.unlinked session below
  · rw [services, list]
    exact counts.fresh
  · rw [count, usage]
    exact counts.unborn

theorem SessionCounts.newService (counts : SessionCounts book held)
    (uuid : Uuid) : SessionCounts (book.newService uuid) held := by
  have same : (book.newService uuid).sessionList = book.sessionList := by
    funext other
    by_cases new : other = book.serviceCount
    · subst new
      exact (Function.update_self _ _ _).trans (counts.fresh _ (Nat.le_refl _)).symm
    · exact Function.update_of_ne new _ _
  have listed (session : Nat) : (book.newService uuid).Listed session ↔ book.Listed session := by
    unfold Listed
    rw [same]
    exact Iff.rfl
  refine ⟨?_, ?_, ?_, counts.freed, ?_, ?_, counts.unborn⟩
  · intro session
    simp only [listed]
    exact counts.usage session
  · rw [same]
    exact counts.inList
  · rw [same]
    exact counts.once
  · intro session below
    simp only [listed]
    exact counts.unlinked session below
  · intro other above
    rw [same]
    exact counts.fresh other (Nat.le_of_succ_le above)

theorem SessionCounts.getSession (counts : SessionCounts book held)
    (used : 0 < book.sessionUsage session) :
    SessionCounts (book.getSession session) (Pi.single session 1 + held) := by
  have created := counts.lt_sessionCount used
  refine ⟨?_, counts.inList, counts.once, ?_, counts.unlinked, counts.fresh, ?_⟩
  · intro other
    change Function.update book.sessionUsage session _ other =
      (if book.Listed other then 1 else 0) + _
    by_cases same : other = session
    · subst same
      rw [Function.update_self, counts.usage, Pi.add_apply, Pi.single_eq_same]
      omega
    · rw [Function.update_of_ne same, counts.usage, Pi.add_apply, Pi.single_eq_of_ne same]
      omega
  · intro other
    change book.sessionFreed other = true ↔ _ ∧ Function.update book.sessionUsage session _ other = 0
    rw [counts.freed]
    by_cases same : other = session
    · subst same
      rw [Function.update_self]
      constructor
      · intro given
        obtain ⟨_, unused⟩ := given
        omega
      · intro given
        obtain ⟨_, impossible⟩ := given
        cases impossible
    · rw [Function.update_of_ne same]
      exact Iff.rfl
  · intro other above
    have different : other ≠ session := fun same => Nat.not_lt.mpr above (same ▸ created)
    exact (Function.update_of_ne different _ _).trans (counts.unborn other above)

theorem SessionCounts.putSession
    (counts : SessionCounts book (Pi.single session 1 + held)) :
    SessionCounts (book.putSession session) held := by
  have balance := counts.usage session
  rw [Pi.add_apply, Pi.single_eq_same] at balance
  have created : session < book.sessionCount := counts.lt_sessionCount (by omega)
  refine ⟨?_, counts.inList, counts.once, ?_, counts.unlinked, counts.fresh, ?_⟩
  · intro other
    change Function.update book.sessionUsage session _ other =
      (if book.Listed other then 1 else 0) + _
    by_cases same : other = session
    · subst same
      rw [Function.update_self]
      omega
    · rw [Function.update_of_ne same, counts.usage, Pi.add_apply, Pi.single_eq_of_ne same]
      omega
  · intro other
    change Function.update book.sessionFreed session _ other = true ↔
      other < book.sessionCount ∧ Function.update book.sessionUsage session _ other = 0
    by_cases same : other = session
    · subst same
      have alive : book.sessionFreed other = false := counts.alive (by omega)
      rw [Function.update_self, Function.update_self, alive, Bool.false_or, beq_iff_eq]
      exact ⟨fun last => ⟨created, last⟩, fun both => both.2⟩
    · rw [Function.update_of_ne same, Function.update_of_ne same]
      exact counts.freed other
  · intro other above
    have different : other ≠ session := fun same => Nat.not_lt.mpr above (same ▸ created)
    exact (Function.update_of_ne different _ _).trans (counts.unborn other above)

theorem SessionCounts.unlink (counts : SessionCounts book held)
    (member : session ∈ book.sessionList service) :
    SessionCounts (book.unlink service session) (Pi.single session 1 + held) := by
  have home := (counts.inList service session member).1
  have inAfter (other target : Nat) : other ∈ (book.unlink service session).sessionList target ↔
      other ∈ book.sessionList target ∧ ¬(other = session ∧ target = service) := by
    change other ∈ Function.update book.sessionList service _ target ↔ _
    by_cases same : target = service
    · subst same
      rw [Function.update_self, (counts.once target).mem_erase_iff]
      simp only [and_true]
      exact and_comm
    · rw [Function.update_of_ne same]
      simp [same]
  have gone : ¬(book.unlink service session).Listed session := by
    intro listed
    exact ((inAfter _ _).mp listed).2 ⟨rfl, home⟩
  have stays (other : Nat) (different : other ≠ session) :
      (book.unlink service session).Listed other ↔ book.Listed other := by
    unfold Listed
    rw [inAfter]
    exact and_iff_left fun both => different both.1
  refine ⟨?_, ?_, ?_, counts.freed, ?_, ?_, counts.unborn⟩
  · intro other
    change book.sessionUsage other = _
    rw [counts.usage]
    by_cases same : other = session
    · subst same
      rw [if_pos (counts.listed_of_mem member), if_neg gone, Pi.add_apply, Pi.single_eq_same]
      omega
    · simp only [stays other same, Pi.add_apply, Pi.single_eq_of_ne same]
      omega
  · intro target other inside
    exact counts.inList target other ((inAfter other target).mp inside).1
  · intro target
    change (Function.update book.sessionList service _ target).Nodup
    by_cases same : target = service
    · subst same
      rw [Function.update_self]
      exact (counts.once target).erase session
    · rw [Function.update_of_ne same]
      exact counts.once target
  · intro other below
    change Function.update book.unlinked session _ other + _ = 1
    have before := counts.unlinked other below
    by_cases same : other = session
    · subst same
      rw [Function.update_self, if_neg gone]
      rw [if_pos (counts.listed_of_mem member)] at before
      exact before
    · rw [Function.update_of_ne same]
      simp only [stays other same]
      exact before
  · intro target above
    have empty := counts.fresh target above
    rw [List.eq_nil_iff_forall_not_mem] at empty ⊢
    intro other inside
    exact empty other ((inAfter other target).mp inside).1

theorem SessionCounts.publish (counts : SessionCounts book held) (dev : Dev)
    (created : service < book.serviceCount) : SessionCounts (book.publish dev service) held := by
  have newUnused := counts.unborn book.sessionCount (Nat.le_refl _)
  have newUnlisted : ¬book.Listed book.sessionCount := fun listed =>
    Nat.lt_irrefl _ (counts.inList _ _ listed).2
  have newFree : held book.sessionCount = 0 := by
    have balance := counts.usage book.sessionCount
    omega
  have inAfter (other target : Nat) : other ∈ (book.publish dev service).sessionList target ↔
      other ∈ book.sessionList target ∨ (other = book.sessionCount ∧ target = service) := by
    change other ∈ Function.update book.sessionList service _ target ↔ _
    by_cases same : target = service
    · subst same
      rw [Function.update_self, List.mem_append, List.mem_singleton]
      simp
    · rw [Function.update_of_ne same]
      simp [same]
  have newHome : (book.publish dev service).home book.sessionCount = service :=
    Function.update_self _ _ _
  have oldHome (other : Nat) (different : other ≠ book.sessionCount) :
      (book.publish dev service).home other = book.home other :=
    Function.update_of_ne different _ _
  have newListed : (book.publish dev service).Listed book.sessionCount := by
    unfold Listed
    rw [newHome, inAfter]
    exact Or.inr ⟨rfl, rfl⟩
  have oldListed (other : Nat) (different : other ≠ book.sessionCount) :
      (book.publish dev service).Listed other ↔ book.Listed other := by
    unfold Listed
    rw [oldHome other different, inAfter]
    exact or_iff_left fun both => different both.1
  refine ⟨?_, ?_, ?_, ?_, ?_, ?_, ?_⟩
  · intro other
    change Function.update book.sessionUsage book.sessionCount 1 other = _
    by_cases new : other = book.sessionCount
    · subst new
      rw [Function.update_self, if_pos newListed, newFree]
    · rw [Function.update_of_ne new]
      simp only [oldListed other new]
      exact counts.usage other
  · intro target other inside
    change _ ∧ other < book.sessionCount + 1
    rcases (inAfter other target).mp inside with old | ⟨new, here⟩
    · obtain ⟨home, below⟩ := counts.inList target other old
      exact ⟨(oldHome other (Nat.ne_of_lt below)).trans home, Nat.lt_succ_of_lt below⟩
    · rw [new, here]
      exact ⟨newHome, Nat.lt_succ_self _⟩
  · intro target
    change (Function.update book.sessionList service _ target).Nodup
    by_cases same : target = service
    · subst same
      rw [Function.update_self]
      refine List.nodup_append.mpr ⟨counts.once target, List.nodup_singleton _, ?_⟩
      intro first inside second isNew equal
      rw [List.mem_singleton] at isNew
      rw [equal, isNew] at inside
      exact Nat.lt_irrefl _ (counts.inList target _ inside).2
    · rw [Function.update_of_ne same]
      exact counts.once target
  · intro other
    change Function.update book.sessionFreed book.sessionCount false other = true ↔
      other < book.sessionCount + 1 ∧
        Function.update book.sessionUsage book.sessionCount 1 other = 0
    by_cases new : other = book.sessionCount
    · subst new
      simp
    · rw [Function.update_of_ne new, Function.update_of_ne new, counts.freed]
      constructor
      · intro given
        obtain ⟨below, unused⟩ := given
        exact ⟨Nat.lt_succ_of_lt below, unused⟩
      · intro given
        obtain ⟨below, unused⟩ := given
        exact ⟨by omega, unused⟩
  · intro other below
    change Function.update book.unlinked book.sessionCount 0 other + _ = 1
    by_cases new : other = book.sessionCount
    · subst new
      rw [Function.update_self, if_pos newListed]
    · rw [Function.update_of_ne new]
      simp only [oldListed other new]
      apply counts.unlinked other
      change other < book.sessionCount + 1 at below
      omega
  · intro target above
    have different : target ≠ service := fun same => Nat.not_lt.mpr above (same ▸ created)
    exact (Function.update_of_ne different _ _).trans (counts.fresh target above)
  · intro other above
    change book.sessionCount + 1 ≤ other at above
    have different : other ≠ book.sessionCount := by omega
    exact (Function.update_of_ne different _ _).trans (counts.unborn other (by omega))

end Sessions

/-! ### Sessions and the numbers of a slot -/

section Numbers

variable [DecidableEq Dev] {book : Book Dev} {held : Dev × Nat → Nat} {kept : Nat → Nat}
  {dev : Dev} {service session : Nat}

theorem sessionsOf_publish (counts : SessionCounts book kept) (other : Dev) (target : Nat) :
    (book.publish dev service).sessionsOf other target =
      book.sessionsOf other target + if other = dev ∧ target = service then 1 else 0 := by
  have oldOwner (number : Nat) (inside : number ∈ book.sessionList target) :
      (book.publish dev service).owner number = book.owner number :=
    Function.update_of_ne (Nat.ne_of_lt (counts.inList target number inside).2) _ _
  have old : (book.sessionList target).countP (fun number =>
      (book.publish dev service).owner number = some other) = book.sessionsOf other target := by
    unfold sessionsOf
    apply List.countP_congr
    intro number inside
    rw [oldOwner number inside]
  have newOwner : (book.publish dev service).owner book.sessionCount = some dev :=
    Function.update_self _ _ _
  change (Function.update book.sessionList service _ target).countP _ = _
  by_cases same : target = service
  · subst same
    rw [Function.update_self, List.countP_append, old, List.countP_singleton]
    simp only [newOwner, Option.some.injEq, decide_eq_true_eq, and_true, eq_comm (b := other)]
  · rw [Function.update_of_ne same, old, if_neg (fun both => same both.2), Nat.add_zero]

/-- The number that an opener held passes to its published session. -/
theorem RefCounts.publish (counts : RefCounts book (Pi.single (dev, service) 1 + held))
    (sessions : SessionCounts book kept) : RefCounts (book.publish dev service) held := by
  refine counts.congr rfl rfl rfl ?_
  intro other target
  rw [sessionNumber_single]
  unfold sessionNumber
  rw [sessionsOf_publish sessions]
  omega

theorem sessionsOf_unlink (member : session ∈ book.sessionList service)
    (owned : book.owner session = some dev) (other : Dev) (target : Nat) :
    (book.unlink service session).sessionsOf other target +
        (if other = dev ∧ target = service then 1 else 0) = book.sessionsOf other target := by
  change (Function.update book.sessionList service _ target).countP _ + _ = _
  by_cases same : target = service
  · subst same
    rw [Function.update_self]
    change ((book.sessionList target).erase session).countP
      (fun number => book.owner number = some other) + _ = _
    rw [List.countP_erase]
    by_cases sameDev : other = dev
    · subst sameDev
      have positive : 0 < (book.sessionList target).countP
          (fun number => book.owner number = some other) :=
        List.countP_pos_iff.mpr ⟨session, member, by simpa using owned⟩
      rw [if_pos (show session ∈ book.sessionList target ∧
        decide (book.owner session = some other) = true from ⟨member, by simpa using owned⟩),
        if_pos ⟨rfl, rfl⟩]
      unfold sessionsOf
      omega
    · have notOwned : ¬(session ∈ book.sessionList target ∧
          decide (book.owner session = some other) = true) := by
        intro given
        obtain ⟨_, owner⟩ := given
        rw [owned] at owner
        exact sameDev (Option.some.inj (of_decide_eq_true owner)).symm
      rw [if_neg notOwned, if_neg (fun both => sameDev both.1)]
      rfl
  · rw [Function.update_of_ne same, if_neg (fun both => same both.2)]
    rfl

/-- The closer of an unlinked session takes over its number. -/
theorem RefCounts.unlink (counts : RefCounts book held)
    (member : session ∈ book.sessionList service) (owned : book.owner session = some dev) :
    RefCounts (book.unlink service session) (Pi.single (dev, service) 1 + held) := by
  refine counts.congr rfl rfl rfl ?_
  intro other target
  rw [sessionNumber_single]
  have moved := sessionsOf_unlink member owned other target
  unfold sessionNumber
  omega

end Numbers

end Book

end TzDriver.Session
