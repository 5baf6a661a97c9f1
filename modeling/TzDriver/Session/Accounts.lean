/-
The reference counts of services and sessions in every reached state.
-/

import TzDriver.Session.Invariant

namespace TzDriver.Session

open TzDriver.Lib

/-! ### Running the system -/

section Replay

variable {Dev : Type} [DecidableEq Dev]

def Start.isNotify : Start Dev → Bool
  | .notify .. => true
  | _ => false

def World.exec (world : World Dev) : Label Dev → Option (World Dev)
  | .start call =>
      if (world.tables.devs call.dev).phase = .opened ∨ call.isNotify = true then
        some ⟨world.tables, call.thread ::ₘ world.threads⟩
      else none
  | .closeFd dev =>
      if (world.tables.devs dev).phase = .opened ∧
          ∀ thread ∈ world.threads, thread.ioctlDev ≠ some dev then
        some ⟨world.tables.setPhase dev (.closing 0), .fdScan dev 0 ::ₘ world.threads⟩
      else none
  | .run thread choice =>
      if thread ∈ world.threads then
        (stepThread world.tables choice thread).map fun result =>
          ⟨result.1, result.2.threads + world.threads.erase thread⟩
      else none

theorem World.exec_sound {before after : World Dev} {label : Label Dev}
    (ran : before.exec label = some after) : World.Step before label after := by
  cases label with
  | start call =>
      rw [World.exec] at ran
      split at ran
      · next allowed =>
          cases ran
          rcases allowed with file | notify
          · exact .ioctl file
          · cases call with
            | notify => exact .notify
            | _ => cases notify
      · cases ran
  | closeFd dev =>
      rw [World.exec] at ran
      split at ran
      · next allowed =>
          cases ran
          exact .closeFd allowed.1 allowed.2
      · cases ran
  | run thread choice =>
      rw [World.exec] at ran
      split at ran
      · next member =>
          obtain ⟨result, stepped, same⟩ := Option.map_eq_some_iff.mp ran
          subst same
          obtain ⟨tables, threads⟩ := before
          have split : threads = thread ::ₘ threads.erase thread :=
            (Multiset.cons_erase member).symm
          rw [split]
          simpa using World.Step.run stepped
      · cases ran

/-- A label of a notification's start or lookup. -/
def Label.isNotify : Label Dev → Bool
  | .start (.notify ..) | .run (.findStart .notify ..) _ => true
  | _ => false

/-- The runs without notifications. -/
def ioctlMachine : Machine (World Dev) (Label Dev) :=
  sessionMachine.restrict fun _ label => label.isNotify = false

def World.execIoctl (world : World Dev) (label : Label Dev) : Option (World Dev) :=
  if label.isNotify then none else world.exec label

theorem World.execIoctl_sound {before after : World Dev} {label : Label Dev}
    (ran : before.execIoctl label = some after) : ioctlMachine.step before label after := by
  rw [World.execIoctl] at ran
  split at ran
  · cases ran
  · next quiet => exact ⟨Bool.eq_false_iff.mpr quiet, World.exec_sound ran⟩

/-- Without notifications every lookup is careful. -/
theorem careful_of_ioctlMachine {world : World Dev} (reached : ioctlMachine.Reachable world) :
    (sessionMachine.restrict Careful).Reachable world := by
  apply reached.restrict_mono
  intro world label quiet
  cases label with
  | run thread choice =>
      cases thread with
      | findStart finder dev uuid sessionId =>
          cases finder with
          | ioctl => trivial
          | notify => cases quiet
      | _ => trivial
  | _ => trivial

end Replay

/-! ### Services -/

section Services

variable {Dev : Type} [DecidableEq Dev] [Fintype Dev]

def World.openSlots (world : World Dev) (service : Nat) : Nat :=
  (Finset.univ.filter fun place : Dev × Fin servicesMaxCount =>
    (world.tables.devs place.1).services place.2 = some service ∧
      (world.tables.devs place.1).phase = .opened).card

/-- The slots of files under close whose reference the close thread has still to
put. -/
def World.closerSlots (world : World Dev) (service : Nat) : Nat :=
  (Finset.univ.filter fun place : Dev × Fin servicesMaxCount =>
    (world.tables.devs place.1).services place.2 = some service ∧
      (world.tables.devs place.1).phase ≠ .opened ∧
      (world.tables.devs place.1).phase.live place.2 = true).card

/-- What the counters of services and slots say.  The transient holders of a
service are the threads, each with the references it has, and the close threads
with the slots they have not reached. -/
structure ServiceAccount (world : World Dev) : Prop where
  usage : ∀ service, (world.tables.services service).usage =
    world.openSlots service + (world.closerSlots service + (holdsOf world.threads).1 service)
  listed : ∀ service,
    service ∈ world.tables.serviceList ↔ 0 < (world.tables.services service).usage
  freed : ∀ service, (world.tables.services service).freed = true ↔
    service < world.tables.serviceCount ∧ service ∉ world.tables.serviceList
  uuidOnce : ∀ first ∈ world.tables.serviceList, ∀ second ∈ world.tables.serviceList,
    (world.tables.services first).uuid = (world.tables.services second).uuid → first = second
  number : ∀ dev index service, (world.tables.devs dev).services index = some service →
    (world.tables.devs dev).phase.live index = true →
      (world.tables.devs dev).serviceRef index =
        ((world.tables.services service).sessionList.countP fun session =>
          (world.tables.sessions session).owner = some dev) +
          (holdsOf world.threads).2.1 (dev, service)
  width : ∀ dev index, (world.tables.devs dev).serviceRef index ≤ maxRefCount
  untouched : world.tables.fault = false

theorem slotRefs_split (world : World Dev) (service : Nat) :
    world.tables.book.slotRefs service = world.openSlots service + world.closerSlots service := by
  have parts : world.tables.book.owningSlots service =
      (Finset.univ.filter fun place : Dev × Fin servicesMaxCount =>
        (world.tables.devs place.1).services place.2 = some service ∧
          (world.tables.devs place.1).phase = .opened) ∪
      Finset.univ.filter fun place : Dev × Fin servicesMaxCount =>
        (world.tables.devs place.1).services place.2 = some service ∧
          (world.tables.devs place.1).phase ≠ .opened ∧
          (world.tables.devs place.1).phase.live place.2 = true := by
    ext ⟨dev, index⟩
    rw [Book.mem_owningSlots]
    simp only [Finset.mem_union, Finset.mem_filter, Finset.mem_univ, true_and]
    change (world.tables.devs dev).services index = some service ∧
      (world.tables.devs dev).phase.live index = true ↔ _
    by_cases opened : (world.tables.devs dev).phase = .opened
    · rw [opened]
      simp [Phase.live]
    · simp [opened]
  rw [Book.slotRefs, parts, Finset.card_union_of_disjoint]
  · rfl
  · rw [Finset.disjoint_left]
    intro place opened closing
    exact (Finset.mem_filter.mp closing).2.2.1 (Finset.mem_filter.mp opened).2.2

theorem Invariant.serviceAccount {world : World Dev} (invariant : Invariant world) :
    ServiceAccount world := by
  obtain ⟨services, refs, _⟩ := invariant.counted
  refine ⟨?_, services.listed, services.freed, services.uuidOnce, refs.owning, refs.bounded,
    invariant.fault⟩
  intro service
  have usage := services.usage service
  rw [slotRefs_split] at usage
  change (world.tables.services service).usage = _ at usage
  omega

end Services

end TzDriver.Session
