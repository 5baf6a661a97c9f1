/-
The session requests of the threads, with the answers of the TEE between the
sections.

`Threads` has a request and the change of the session list after it in one
section.  Here an open that the TEE has answered links its session in a later step,
and so does a close unlink its own: an id is in use in the TEE before the driver
links it, and it may be in use again before the driver unlinks it.

A PENDING answer to a close makes the thread wait and ask again.  An open waits
for the `send_wait_flag` of the session it makes, and `tc_notify_timer_fn` raises
that flag only in a session it finds on a session list: such an open stays where it
is.
-/

import TzDriver.Session.Accounts
import TzDriver.Session.SessionKeys

namespace TzDriver.Session

open TzDriver.Lib

/-! ### The machine -/

/-- Past `before`, the thread is inside `operation_lock` and its OPEN_SESSION or
CLOSE_SESSION request has an answer. -/
inductive Point (Dev : Type) where
  | before (thread : Thread Dev)
  | openPended (dev : Dev) (service : Nat) (sessionId : UInt32)
  | opened (dev : Dev) (service : Nat) (sessionId : UInt32)
  | closed (dev : Dev) (service session : Nat)
  | fdClosed (dev : Dev) (index service session : Nat) (remaining : List Nat) (count : Nat)
deriving DecidableEq

/-- Where the thread is for `Threads`. -/
def Point.thread {Dev : Type} : Point Dev → Thread Dev
  | .before thread => thread
  | .openPended dev service _ | .opened dev service _ => .openLocked dev service
  | .closed dev service session => .closeCalling dev service session
  | .fdClosed dev index service session remaining count =>
      .fdClosing dev index service (session :: remaining) count

/-- The service and the session whose close the TEE has answered. -/
def Point.leaves {Dev : Type} : Point Dev → Option (Nat × Nat)
  | .closed _ service session | .fdClosed _ _ service session _ _ => some (service, session)
  | _ => none

/-- `live` are the ids that the TEE has opened through the driver and for which it
has not answered a CLOSE_SESSION request since. -/
structure Requests (Dev : Type) where
  tables : Tables Dev
  points : Multiset (Point Dev)
  live : Finset UInt32

/-- An answer to OPEN_SESSION; `reset_session_id` keeps the id of either. -/
inductive OpenAnswer where
  | success (sessionId : UInt32)
  | pending (sessionId : UInt32)

inductive Move (Dev : Type) where
  | start (call : Start Dev)
  | closeFd (dev : Dev)
  | run (thread : Thread Dev) (choice : Choice)
  | openAnswer (dev : Dev) (service : Nat) (answer : OpenAnswer)
  | openEnd (dev : Dev) (service : Nat) (sessionId : UInt32) (copied : Bool)
  | closeAnswer (thread : Thread Dev)
  | unlink (point : Point Dev)

section Steps

variable {Dev : Type} [DecidableEq Dev]

/-- The point after the answer, and the session, of a thread in `close_session`. -/
def Thread.closes (owner : Nat → Option Dev) : Thread Dev → Option (Point Dev × Nat)
  | .closeCalling dev service session => some (.closed dev service session, session)
  | .fdClosing dev index service (session :: remaining) count =>
      if owner session = some dev then
        some (.fdClosed dev index service session remaining count, session)
      else none
  | _ => none

/-- An open gets its session from an answer of the TEE. -/
def Thread.unanswered (choice : Choice) : Thread Dev → Bool
  | .openLocked .. => !choice.succeeds
  | _ => true

namespace Requests

variable (state : Requests Dev)

def world : World Dev := ⟨state.tables, state.points.map Point.thread⟩

def ran (point : Point Dev) (result : Tables Dev × Next Dev) : Requests Dev :=
  { state with
    tables := result.1
    points := result.2.threads.map .before + state.points.erase point }

def openAnswered (dev : Dev) (service : Nat) : OpenAnswer → Requests Dev
  | .success sessionId =>
      { state with
        points := .opened dev service sessionId ::ₘ
          state.points.erase (.before (.openLocked dev service))
        live := insert sessionId state.live }
  | .pending sessionId =>
      { state with
        points := .openPended dev service sessionId ::ₘ
          state.points.erase (.before (.openLocked dev service)) }

def closeAnswered (thread : Thread Dev) (closing : Point Dev × Nat) : Requests Dev :=
  { state with
    points := closing.1 ::ₘ state.points.erase (.before thread)
    live := state.live.erase (state.tables.sessions closing.2).sessionId }

/-- `run` is a section without an answer: it makes no request, or the request failed
before it reached the TEE, or the TEE refused the open. -/
def exec : Move Dev → Option (Requests Dev)
  | .start call =>
      if (state.tables.devs call.dev).phase = .opened ∧ call.isNotify = false then
        some { state with points := .before call.thread ::ₘ state.points }
      else none
  | .closeFd dev =>
      if (state.tables.devs dev).phase = .opened ∧
          ∀ point ∈ state.points, point.thread.ioctlDev ≠ some dev then
        some
          { state with
            tables := state.tables.setPhase dev (.closing 0)
            points := .before (.fdScan dev 0) ::ₘ state.points }
      else none
  | .run thread choice =>
      if .before thread ∈ state.points ∧ thread.unanswered choice = true ∧
          (Label.run thread choice).isNotify = false then
        (stepThread state.tables choice thread).map (state.ran (.before thread))
      else none
  | .openAnswer dev service answer =>
      if .before (.openLocked dev service) ∈ state.points then
        some (state.openAnswered dev service answer)
      else none
  | .openEnd dev service sessionId copied =>
      -- the results of the call may still fail to reach the client
      if .opened dev service sessionId ∈ state.points then
        (openLockedSection state.tables ⟨copied, sessionId⟩ dev service).map
          (state.ran (.opened dev service sessionId))
      else none
  | .closeAnswer thread =>
      if .before thread ∈ state.points then
        (thread.closes state.tables.book.owner).map (state.closeAnswered thread)
      else none
  | .unlink point =>
      if point ∈ state.points ∧ point.leaves.isSome = true then
        (stepThread state.tables ⟨true, 0⟩ point.thread).map (state.ran point)
      else none

end Requests

def requestMachine : Machine (Requests Dev) (Move Dev) :=
  { init := fun state => state = ⟨Tables.initial, 0, ∅⟩
    step := fun before move after => before.exec move = some after }

end Steps

/-! ### What a move does -/

section Inversion

variable {Dev : Type} [DecidableEq Dev]

inductive Ran (before : Requests Dev) : Move Dev → Requests Dev → Prop where
  | start {call : Start Dev} (opened : (before.tables.devs call.dev).phase = .opened)
      (asked : call.isNotify = false) :
      Ran before (.start call) { before with points := .before call.thread ::ₘ before.points }
  | closeFd {dev : Dev} (opened : (before.tables.devs dev).phase = .opened)
      (returned : ∀ point ∈ before.points, point.thread.ioctlDev ≠ some dev) :
      Ran before (.closeFd dev)
        { before with
          tables := before.tables.setPhase dev (.closing 0)
          points := .before (.fdScan dev 0) ::ₘ before.points }
  | run {thread : Thread Dev} {choice : Choice} {result : Tables Dev × Next Dev}
      (present : .before thread ∈ before.points) (unanswered : thread.unanswered choice = true)
      (quiet : (Label.run thread choice).isNotify = false)
      (stepped : stepThread before.tables choice thread = some result) :
      Ran before (.run thread choice) (before.ran (.before thread) result)
  | openAnswer {dev : Dev} {service : Nat} {answer : OpenAnswer}
      (present : .before (.openLocked dev service) ∈ before.points) :
      Ran before (.openAnswer dev service answer) (before.openAnswered dev service answer)
  | openEnd {dev : Dev} {service : Nat} {sessionId : UInt32} {copied : Bool}
      {result : Tables Dev × Next Dev} (present : .opened dev service sessionId ∈ before.points)
      (stepped : openLockedSection before.tables ⟨copied, sessionId⟩ dev service = some result) :
      Ran before (.openEnd dev service sessionId copied)
        (before.ran (.opened dev service sessionId) result)
  | closeAnswer {thread : Thread Dev} {closing : Point Dev × Nat}
      (present : .before thread ∈ before.points)
      (closes : thread.closes before.tables.book.owner = some closing) :
      Ran before (.closeAnswer thread) (before.closeAnswered thread closing)
  | unlink {point : Point Dev} {result : Tables Dev × Next Dev} (present : point ∈ before.points)
      (leaving : point.leaves.isSome = true)
      (stepped : stepThread before.tables ⟨true, 0⟩ point.thread = some result) :
      Ran before (.unlink point) (before.ran point result)

theorem Requests.exec_cases {before after : Requests Dev} {move : Move Dev}
    (ran : before.exec move = some after) : Ran before move after := by
  cases move with
  | start call =>
      rw [Requests.exec] at ran
      split at ran
      · next allowed =>
          cases ran
          exact .start allowed.1 allowed.2
      · cases ran
  | closeFd dev =>
      rw [Requests.exec] at ran
      split at ran
      · next allowed =>
          cases ran
          exact .closeFd allowed.1 allowed.2
      · cases ran
  | run thread choice =>
      rw [Requests.exec] at ran
      split at ran
      · next allowed =>
          obtain ⟨result, stepped, rfl⟩ := Option.map_eq_some_iff.mp ran
          exact .run allowed.1 allowed.2.1 allowed.2.2 stepped
      · cases ran
  | openAnswer dev service answer =>
      rw [Requests.exec] at ran
      split at ran
      · next present =>
          cases ran
          exact .openAnswer present
      · cases ran
  | openEnd dev service sessionId copied =>
      rw [Requests.exec] at ran
      split at ran
      · next present =>
          obtain ⟨result, stepped, rfl⟩ := Option.map_eq_some_iff.mp ran
          exact .openEnd present stepped
      · cases ran
  | closeAnswer thread =>
      rw [Requests.exec] at ran
      split at ran
      · next present =>
          obtain ⟨closing, closes, rfl⟩ := Option.map_eq_some_iff.mp ran
          exact .closeAnswer present closes
      · cases ran
  | unlink point =>
      rw [Requests.exec] at ran
      split at ran
      · next allowed =>
          obtain ⟨result, stepped, rfl⟩ := Option.map_eq_some_iff.mp ran
          exact .unlink allowed.1 allowed.2 stepped
      · cases ran

end Inversion

/-! ### The sections as before -/

section Simulation

variable {Dev : Type} [DecidableEq Dev]

theorem Requests.world_ran {state : Requests Dev} {point : Point Dev} (present : point ∈ state.points)
    {choice : Choice} {result : Tables Dev × Next Dev}
    (stepped : stepThread state.tables choice point.thread = some result) :
    World.Step state.world (.run point.thread choice) (state.ran point result).world := by
  obtain ⟨tables, points, live⟩ := state
  obtain ⟨rest, rfl⟩ := Multiset.exists_cons_of_mem present
  have threads : (result.2.threads.map Point.before + rest).map Point.thread =
      result.2.threads + rest.map Point.thread := by
    rw [Multiset.map_add, Multiset.map_map]
    change Multiset.map (fun thread => thread) _ + _ = _
    rw [Multiset.map_id']
  change World.Step ⟨tables, (point ::ₘ rest).map Point.thread⟩ _
    ⟨result.1, (result.2.threads.map Point.before + (point ::ₘ rest).erase point).map Point.thread⟩
  rw [Multiset.erase_cons_head, threads, Multiset.map_cons]
  exact .run stepped

theorem Requests.threads_replaced {points : Multiset (Point Dev)} {before after : Point Dev}
    (present : before ∈ points) (same : after.thread = before.thread) :
    (after ::ₘ points.erase before).map Point.thread = points.map Point.thread := by
  rw [Multiset.map_cons, same, ← Multiset.map_cons, Multiset.cons_erase present]

theorem Thread.closes_thread {owner : Nat → Option Dev} {thread : Thread Dev}
    {closing : Point Dev × Nat} (closes : thread.closes owner = some closing) :
    closing.1.thread = thread := by
  cases thread with
  | closeCalling dev service session =>
      cases closes
      rfl
  | fdClosing dev index service remaining closed =>
      cases remaining with
      | nil => cases closes
      | cons session rest =>
          rw [Thread.closes] at closes
          split at closes
          · cases closes
            rfl
          · cases closes
  | _ => cases closes

/-- A step is a step of `Threads` or no step there. -/
theorem Requests.exec_world {before after : Requests Dev} {move : Move Dev}
    (ran : before.exec move = some after) :
    after.world = before.world ∨ ∃ label, ioctlMachine.step before.world label after.world := by
  cases Requests.exec_cases ran with
  | @start call opened asked =>
      refine Or.inr ⟨.start call, ?_, ?_⟩
      · cases call with
        | notify => cases asked
        | _ => rfl
      · change World.Step _ _ ⟨_, (_ ::ₘ _).map Point.thread⟩
        rw [Multiset.map_cons]
        exact .ioctl opened
  | @closeFd dev opened returned =>
      refine Or.inr ⟨.closeFd dev, rfl, ?_⟩
      change World.Step _ _ ⟨_, (_ ::ₘ _).map Point.thread⟩
      rw [Multiset.map_cons]
      refine .closeFd opened ?_
      intro thread member
      obtain ⟨point, present, rfl⟩ := Multiset.mem_map.mp member
      exact returned point present
  | run present _ quiet stepped => exact Or.inr ⟨_, quiet, Requests.world_ran present stepped⟩
  | @openAnswer _ _ answer present =>
      apply Or.inl
      cases answer with
      | success sessionId =>
          exact congrArg (World.mk _) (Requests.threads_replaced present rfl)
      | pending sessionId =>
          exact congrArg (World.mk _) (Requests.threads_replaced present rfl)
  | openEnd present stepped => exact Or.inr ⟨_, rfl, Requests.world_ran present stepped⟩
  | closeAnswer present closes =>
      refine Or.inl (congrArg (World.mk _) ?_)
      exact Requests.threads_replaced present (Thread.closes_thread closes)
  | @unlink point _ present leaving stepped =>
      refine Or.inr ⟨_, ?_, Requests.world_ran present stepped⟩
      cases point with
      | before | openPended | opened => cases leaving
      | closed | fdClosed => rfl

theorem Requests.world_reachable {state : Requests Dev}
    {allowed : Requests Dev → Move Dev → Prop}
    (reached : (requestMachine.restrict allowed).Reachable state) :
    ioctlMachine.Reachable state.world := by
  induction reached with
  | start initial =>
      subst initial
      exact .start rfl
  | next _ taken ih =>
      rcases Requests.exec_world taken.2 with same | ⟨label, stepped⟩
      · rw [same]
        exact ih
      · exact .next ih stepped

end Simulation

end TzDriver.Session
