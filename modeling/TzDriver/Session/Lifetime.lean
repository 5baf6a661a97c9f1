/-
The life of a session: on its list, held by threads, freed.
-/

import TzDriver.Session.FailedOpen

namespace TzDriver.Session

open TzDriver.Lib

variable {Dev : Type} [DecidableEq Dev] [Fintype Dev]

def World.Listed (world : World Dev) (session : Nat) : Prop :=
  session ∈ (world.tables.services (world.tables.sessions session).service).sessionList

instance (world : World Dev) (session : Nat) : Decidable (world.Listed session) :=
  inferInstanceAs (Decidable (_ ∈ _))

/-- The references to a session are one for its list and those of the threads.  A
closer has two of them between its `list_del` and its first put. -/
structure SessionLifetime (world : World Dev) : Prop where
  usage : ∀ session, (world.tables.sessions session).usage =
    (if world.Listed session then 1 else 0) + (holdsOf world.threads).2.2 session
  home : ∀ service, ∀ session ∈ (world.tables.services service).sessionList,
    (world.tables.sessions session).service = service
  freed : ∀ session, (world.tables.sessions session).freed = true ↔
    session < world.tables.sessionCount ∧ (world.tables.sessions session).usage = 0
  unlinkedOnce : ∀ session < world.tables.sessionCount,
    (world.tables.sessions session).unlinked + (if world.Listed session then 1 else 0) = 1
  untouched : world.tables.fault = false

theorem Invariant.sessionLifetime {world : World Dev} (invariant : Invariant world) :
    SessionLifetime world := by
  have sessions := invariant.counted.sessions
  exact ⟨sessions.usage, fun service session member => (sessions.inList service session member).1,
    sessions.freed, sessions.unlinked, invariant.fault⟩

/-- In every run of opens, closes, sends and file closes a session lives as long as
it is listed or held, no freed session is touched, and however many closes race for
it, it is unlinked once. -/
theorem session_lifetime {world : World Dev} (reached : ioctlMachine.Reachable world) :
    SessionLifetime world :=
  (invariant_of_reachable (careful_of_ioctlMachine reached)).sessionLifetime

/-- The session of `openOnce` is closed up to `list_del`. -/
def closeOnce (uuid : Uuid) (sessionId : UInt32) : List (Label Unit) :=
  let works : Choice := ⟨true, sessionId⟩
  openOnce uuid sessionId ++
    [.start (.closeSession () uuid sessionId), .run (.closeStart () uuid sessionId) works,
      .run (.closeHasService () 0 sessionId) works, .run (.closeLocked () 0 sessionId) works,
      .run (.closeCalling () 0 0) works]

theorem session_lifetime_close_once :
    ∃ world : World Unit, (world.tables.sessions 0).unlinked = 1 ∧ SessionLifetime world := by
  have ran : ((Machine.replay World.execIoctl ⟨Tables.initial, 0⟩ (closeOnce 7#128 5)).map
      fun world => decide ((world.tables.sessions 0).unlinked = 1)) = some true := by
    decide +kernel
  obtain ⟨world, reached, unlinked⟩ := Machine.Reachable.exists_of_replay
    (fun _ _ _ => World.execIoctl_sound) (.start rfl) ran
  exact ⟨world, of_decide_eq_true unlinked, session_lifetime reached⟩

/-- Counting the threads that hold the session misses a reference there. -/
theorem session_usage_not_thread_count :
    ∃ world : World Unit, ioctlMachine.Reachable world ∧
      (world.tables.sessions 0).usage ≠ (if world.Listed 0 then 1 else 0) +
        world.threads.countP fun thread => 0 < thread.holds.2.2 0 := by
  have ran : ((Machine.replay World.execIoctl ⟨Tables.initial, 0⟩ (closeOnce 7#128 5)).map
      fun world => decide ((world.tables.sessions 0).usage ≠ (if world.Listed 0 then 1 else 0) +
        world.threads.countP fun thread => 0 < thread.holds.2.2 0)) = some true := by
    decide +kernel
  obtain ⟨world, reached, different⟩ := Machine.Reachable.exists_of_replay
    (fun _ _ _ => World.execIoctl_sound) (.start rfl) ran
  exact ⟨world, reached, of_decide_eq_true different⟩

end TzDriver.Session
