/-
A timer notification wakes the call that waits for it.

A waiting send, close or close of a file has its session on the list of its service,
under its dev_file and the id that the notification names, so the search of
`find_notify_sess` ends at that session.  An open waits on a session that no list has.
-/

import TzDriver.Spi.Pending

namespace TzDriver.Spi

open TzDriver.Lib TzDriver.Session

/-! ### The search -/

section Search

variable {Dev : Type} {tables : Tables Dev} {dev : Dev} {service session : Nat}

/-- The first slot with the uuid of a service that the file has is that service's. -/
theorem findSlot_of_slot (apart : tables.book.SlotsApart) {index : Fin servicesMaxCount}
    (stored : tables.book.slot dev index = some service) :
    ∃ place, tables.findSlot dev (tables.book.uuid service) = some (place, service) := by
  cases search : tables.findSlot dev (tables.book.uuid service) with
  | none => exact absurd rfl (Tables.findSlot_eq_none search index stored)
  | some found =>
      obtain ⟨place, other⟩ := found
      obtain ⟨here, uuid⟩ := Tables.findSlot_eq_some search
      rw [apart.apart dev place index other service here stored uuid]
      exact ⟨place, rfl⟩

variable [DecidableEq Dev]

theorem tcFindSessionWithowner_of_mem
    (unique : ((tables.services service).sessionList.map fun session =>
      (tables.sessions session).sessionId).Nodup)
    (listed : session ∈ (tables.services service).sessionList)
    (owner : (tables.sessions session).owner = some dev) :
    tables.tcFindSessionWithowner service (tables.sessions session).sessionId dev =
      some session := by
  cases found : tables.tcFindSessionWithowner service (tables.sessions session).sessionId dev with
  | none =>
      have missing := List.find?_eq_none.mp found session listed
      exact absurd (decide_eq_true ⟨rfl, owner⟩) missing
  | some other =>
      have here := List.find?_some found
      have same := (of_decide_eq_true here).1
      exact congrArg some (List.inj_on_of_nodup_map unique (List.mem_of_find?_eq_some found) listed
        same)

theorem tcNotifyTimerFn_flag {devList : DevList Dev} {timer : NotifyContextTimer}
    {state : TimerState Dev} (found : notifySession devList timer state.tables = some session)
    (generic : timer.timerClass = timerGeneric) (callbackList : List TcNsCallback) :
    (tcNotifyTimerFn devList timer callbackList state).1.sendWaitFlag session = true := by
  have result := (findNotifySess_spec devList timer state.tables).1
  simp only [tcNotifyTimerFn, result, found, if_pos generic]
  exact Function.update_self _ _ _

end Search

/-! ### Waiting calls -/

/-- A `tc_client_call` that waits in `pend_ca_thread`, by its dev_file, its service, the
session id of its command and its session.  The session that an open makes has no number
yet. -/
inductive Pends {Dev : Type} (state : Waits Dev) : Dev → Nat → UInt32 → Option Nat → Prop where
  | opens {dev : Dev} {service : Nat} {sessionId : UInt32}
      (asked : .openPended dev service sessionId ∈ state.requests.points) :
      Pends state dev service sessionId none
  | invokes {dev : Dev} {session : Nat} {sessionId : UInt32}
      (held : state.taSessionLock session = some (.invoke dev true))
      (called : state.calledId session = some sessionId) :
      Pends state dev (state.requests.tables.sessions session).service sessionId (some session)
  | closes {dev : Dev} {service session : Nat} {sessionId : UInt32}
      (asked : .before (.closeCalling dev service session) ∈ state.requests.points)
      (held : state.taSessionLock session = some (.close true))
      (called : state.calledId session = some sessionId) :
      Pends state dev service sessionId (some session)
  | fdCloses {dev : Dev} {index service session count : Nat} {remaining : List Nat}
      {sessionId : UInt32}
      (asked : .before (.fdClosing dev index service (session :: remaining) count) ∈
        state.requests.points)
      (waits : state.fdPended dev = some session)
      (called : state.calledId session = some sessionId) :
      Pends state dev service sessionId (some session)

structure Wakeable {Dev : Type} [DecidableEq Dev] (state : Waits Dev) (dev : Dev) (service : Nat)
    (sessionId : UInt32) (session : Nat) : Prop where
  ready : state.waitReady session = true
  listed : session ∈ (state.requests.tables.services service).sessionList
  owner : (state.requests.tables.sessions session).owner = some dev
  id : (state.requests.tables.sessions session).sessionId = sessionId
  woken : ∀ timer callbackList, timer.devFileId = state.files.devFileId dev →
    timer.uuid = (state.requests.tables.services service).uuid → timer.sessionId = sessionId →
    timer.timerClass = timerGeneric →
      (tcNotifyTimerFn state.files timer callbackList
        ⟨state.requests.tables, state.sendWaitFlag⟩).1.sendWaitFlag session = true

section Wake

variable {Dev : Type} [DecidableEq Dev] [Fintype Dev] {state : Waits Dev} {dev : Dev}
  {service session : Nat} {sessionId : UInt32}

theorem Kept.wakeable (kept : Kept state) {point : Point Dev}
    (present : point ∈ state.requests.points) (file : point.thread.file = some dev)
    (listed : session ∈ state.requests.tables.book.sessionList service)
    (owner : state.requests.tables.book.owner session = some dev)
    (called : state.calledId session = some sessionId)
    (placed : ∃ index, state.requests.tables.book.slot dev index = some service) :
    Wakeable state dev service sessionId session := by
  have created := (kept.invariant.counted.sessions.inList service session listed).2
  have id : (state.requests.tables.sessions session).sessionId = sessionId :=
    (kept.named session sessionId called).2
  refine ⟨kept.ready session created, listed, owner, id, ?_⟩
  intro timer callbackList byId byUuid bySession generic
  apply tcNotifyTimerFn_flag _ generic
  obtain ⟨index, stored⟩ := placed
  obtain ⟨place, slot⟩ := findSlot_of_slot
    (slots_apart_of_reachable (Requests.world_reachable kept.reached)) stored
  change state.requests.tables.findSlot dev (state.requests.tables.services service).uuid = _ at slot
  have search := tcFindSessionWithowner_of_mem (session_ids_unique kept.reached service) listed owner
  rw [id] at search
  have here := kept.files.notifyDevFile (kept.present point present dev file) byId
  simp only [notifySession, here, byUuid, bySession, slot, search, Option.bind_eq_bind,
    Option.bind_some]

/-- An open file has a slot for the service of each of its sessions. -/
theorem Kept.slot_of_opened (kept : Kept state)
    (opened : state.requests.tables.book.phase dev = .opened)
    (listed : session ∈ state.requests.tables.book.sessionList service)
    (owner : state.requests.tables.book.owner session = some dev) :
    ∃ index, state.requests.tables.book.slot dev index = some service := by
  have some_ : 0 < state.requests.tables.book.sessionsOf dev service :=
    List.countP_pos_iff.mpr ⟨session, listed, decide_eq_true owner⟩
  exact (kept.invariant.counted.refs.opened dev opened).placed service (Nat.add_pos_left some_ _)

/-- In every run in which the TEE answers no open with PENDING, no send whose session's
close has returned, and no open with an id that is open, every waiting call can be
woken. -/
theorem pending_wakeable (reached : (waitMachine.restrict NoOrphan).Reachable state)
    {waits : Option Nat} (pends : Pends state dev service sessionId waits) :
    ∃ session, waits = some session ∧ Wakeable state dev service sessionId session := by
  have kept := kept_of_reachable reached
  cases pends with
  | opens asked => exact absurd asked (kept.answered _ _ _)
  | @invokes session _ held called =>
      obtain ⟨present, open_⟩ := kept.invokes session dev true held
      -- the closer of the session has to wait for the lock, so the session is still listed
      have uses := kept.uses _ present dev session rfl
      obtain ⟨place, listed⟩ := uses.listed (open_ rfl)
      have home : (state.requests.tables.sessions session).service = place :=
        (kept.invariant.counted.sessions.inList place session listed).1
      subst home
      refine ⟨session, rfl, kept.wakeable present rfl listed uses.owner called ?_⟩
      exact kept.slot_of_opened ((kept.local_ present).opened dev rfl) listed uses.owner
  | @closes service session _ asked held called =>
      obtain ⟨listed, owner⟩ := (kept.local_ asked).facts
      refine ⟨session, rfl, kept.wakeable asked rfl listed owner called ?_⟩
      exact kept.slot_of_opened ((kept.local_ asked).opened dev rfl) listed owner
  | @fdCloses index service session count remaining _ asked waits called =>
      obtain ⟨here, walks⟩ := (kept.local_ asked).facts
      have listed := walks.members session List.mem_cons_self
      have owner := (kept.fdOwner dev session waits).2
      refine ⟨session, rfl, kept.wakeable asked rfl listed owner called ?_⟩
      obtain ⟨place, _, stored⟩ := here.slot
      exact ⟨place, stored⟩

end Wake

/-! ### Runs -/

def openAsked (devFileId : UInt32) (uuid : Uuid) : List (Act Unit) :=
  let works : Choice := ⟨true, 0⟩
  [.clientOpen () devFileId, .request (.start (.openSession () uuid)),
    .request (.run (.openStart () uuid) works), .request (.run (.openFindAll () uuid) works),
    .request (.run (.openAddDev () 0) works), .request (.run (.openReferenced () 0) works)]

def sendFound (devFileId : UInt32) (uuid : Uuid) (sessionId : UInt32) : List (Act Unit) :=
  let works : Choice := ⟨true, 0⟩
  openAsked devFileId uuid ++
    [.request (.openAnswer () 0 (.success sessionId)), .request (.openEnd () 0 sessionId true),
      .request (.start (.sendCmd () uuid sessionId)),
      .request (.run (.findStart .ioctl () uuid sessionId) works),
      .request (.run (.findHasService .ioctl () 0 sessionId) works),
      .request (.run (.findPut .ioctl () 0 (some 0)) works)]

theorem pending_wakeable_send :
    ∃ state : Waits Unit, state.taSessionLock 0 = some (.invoke () true) ∧
      Wakeable state () (state.requests.tables.sessions 0).service 5 0 := by
  have ran : ((Machine.replay (Machine.guarded NoOrphan Waits.exec) Waits.initial
      (sendFound 3 7#128 5 ++ [.lockInvoke () 0, .pends 0])).map fun state =>
        decide (state.taSessionLock 0 = some (.invoke () true) ∧ state.calledId 0 = some 5)) =
      some true := by
    decide +kernel
  obtain ⟨state, reached, facts⟩ := Machine.Reachable.exists_of_replay
    (@Machine.guarded_sound _ _ waitMachine NoOrphan _ _ fun _ _ _ stepped => stepped)
    (.start rfl) ran
  obtain ⟨held, called⟩ := of_decide_eq_true facts
  obtain ⟨session, same, wakeable⟩ := pending_wakeable reached (.invokes held called)
  cases same
  exact ⟨state, held, wakeable⟩

/-- An open that the TEE answers PENDING waits for a session that no notification
finds. -/
theorem pending_open_unwakeable :
    ∃ state : Waits Unit, waitMachine.Reachable state ∧
      (∃ waits, Pends state () 0 5 waits ∧
        ¬∃ session, waits = some session ∧ Wakeable state () 0 5 session) ∧
      notifySession state.files ⟨3, 7#128, 5, 0, 0, timerGeneric⟩ state.requests.tables = none := by
  have ran : ((Machine.replay Waits.exec Waits.initial
      (openAsked 3 7#128 ++ [.request (.openAnswer () 0 (.pending 5))])).map fun state =>
        decide (.openPended () 0 5 ∈ state.requests.points ∧
          notifySession state.files ⟨3, 7#128, 5, 0, 0, timerGeneric⟩ state.requests.tables =
            none)) = some true := by
    decide +kernel
  have first : waitMachine.Reachable (Waits.initial : Waits Unit) := .start rfl
  obtain ⟨state, reached, facts⟩ := Machine.Reachable.exists_of_replay
    (fun _ _ _ stepped => stepped) first ran
  obtain ⟨asked, missing⟩ := of_decide_eq_true facts
  refine ⟨state, reached, ⟨none, .opens asked, ?_⟩, missing⟩
  intro given
  obtain ⟨session, impossible, _⟩ := given
  cases impossible

/-- A send that gets `ta_session_lock` after the closer of its session may wait for a
session that is on no list any more. -/
theorem late_send_unwakeable :
    ∃ state : Waits Unit, waitMachine.Reachable state ∧
      Pends state () (state.requests.tables.sessions 0).service 5 (some 0) ∧
      ¬Wakeable state () (state.requests.tables.sessions 0).service 5 0 := by
  have ran : ((Machine.replay Waits.exec Waits.initial
      (sendFound 3 7#128 5 ++
        [.request (.start (.closeSession () 7#128 5)),
          .request (.run (.closeStart () 7#128 5) ⟨true, 0⟩),
          .request (.run (.closeHasService () 0 5) ⟨true, 0⟩),
          .request (.run (.closeLocked () 0 5) ⟨true, 0⟩), .lockClose () 0 0,
          .request (.closeAnswer (.closeCalling () 0 0)), .lockInvoke () 0, .pends 0,
          .request (.unlink (.closed () 0 0))])).map fun state =>
        decide (state.taSessionLock 0 = some (.invoke () true) ∧ state.calledId 0 = some 5 ∧
          0 ∉ (state.requests.tables.services
            (state.requests.tables.sessions 0).service).sessionList)) = some true := by
    decide +kernel
  have first : waitMachine.Reachable (Waits.initial : Waits Unit) := .start rfl
  obtain ⟨state, reached, facts⟩ := Machine.Reachable.exists_of_replay
    (fun _ _ _ stepped => stepped) first ran
  obtain ⟨held, called, missing⟩ := of_decide_eq_true facts
  exact ⟨state, reached, .invokes held called, fun wakeable => missing wakeable.listed⟩

end TzDriver.Spi
