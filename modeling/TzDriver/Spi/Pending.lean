/-
Calls that wait in `pend_ca_thread`, and the notification that wakes them.

A call that the TEE answers PENDING sleeps on the wait queue of its session until
`tc_notify_timer_fn` raises the session's `send_wait_flag`.  The notification names a
dev_file, a uuid and a session id and finds the session through `dev_file_list`, the
slots of the file and the session list.  Sends and `tc_ns_close_session` make their
calls inside `ta_session_lock`; the close thread of a file and an open take no such
lock.
-/

import TzDriver.Session.Points
import TzDriver.Session.SlotUuids
import TzDriver.Session.UniqueIds
import TzDriver.Spi.Timer

namespace TzDriver.Spi

open TzDriver.Lib TzDriver.Session

/-! ### The machine -/

/-- Who is inside `ta_session_lock` of a session; `pended` tells that the call sleeps
in `pend_ca_thread`. -/
inductive Caller (Dev : Type) where
  | invoke (dev : Dev) (pended : Bool)
  | close (pended : Bool)
deriving DecidableEq

def Caller.pended {Dev : Type} : Caller Dev → Bool
  | .invoke _ pended | .close pended => pended

def Caller.isInvoke {Dev : Type} : Caller Dev → Bool
  | .invoke .. => true
  | .close _ => false

def Caller.setPended {Dev : Type} (pended : Bool) : Caller Dev → Caller Dev
  | .invoke dev _ => .invoke dev pended
  | .close _ => .close pended

/-- The sessions' requests with what a waiting call depends on.  `devBitMap` are the ids
that are handed out.  `closeReturned` tells that `close_session` of a
`tc_ns_close_session` has come back with the session; `fdPended` is the session that the
close thread of a file waits for.  `calledId` is the session id in the last command that
was made with a session, and `waitReady` tells that its wait queue is initialised; these
and `sendWaitFlag` are by session. -/
structure Waits (Dev : Type) where
  requests : Requests Dev
  files : DevList Dev
  devBitMap : Finset UInt32
  taSessionLock : Nat → Option (Caller Dev)
  closeReturned : Nat → Bool
  fdPended : Dev → Option Nat
  calledId : Nat → Option UInt32
  waitReady : Nat → Bool
  sendWaitFlag : Nat → Bool

inductive Act (Dev : Type) where
  -- `tc_ns_client_open` and `free_dev`
  | clientOpen (dev : Dev) (devFileId : UInt32)
  | freeDev (dev : Dev)
  | request (move : Move Dev)
  -- a send
  | lockInvoke (dev : Dev) (session : Nat)
  -- `tc_ns_close_session`
  | lockClose (dev : Dev) (service session : Nat)
  | closeFails (session : Nat)
  -- PENDING answers, and the end of the wait
  | pends (session : Nat)
  | fdPends (dev : Dev) (index service session : Nat) (remaining : List Nat) (count : Nat)
  | wakes (session : Nat)
  | fdWakes (dev : Dev) (session : Nat)
  | notify (timer : NotifyContextTimer)

def devFileIdMax : UInt32 := 32768

/-- The session whose `ta_session_lock` the move gives back. -/
def unlocks {Dev : Type} : Move Dev → Option Nat
  | .run (.findUsing .ioctl _ session) _ | .closeAnswer (.closeCalling _ _ session) => some session
  | _ => none

/-- The session whose close the move answers for `tc_ns_close_session`. -/
def closeReturns {Dev : Type} : Move Dev → Option Nat
  | .closeAnswer (.closeCalling _ _ session) => some session
  | _ => none

def initsNode {Dev : Type} : Move Dev → Bool
  | .openEnd _ _ _ copied => copied
  | _ => false

def mark {Value : Type} (values : Nat → Value) (place : Option Nat) (value : Value) :
    Nat → Value :=
  match place with
  | none => values
  | some number => Function.update values number value

section Steps

variable {Dev : Type} [DecidableEq Dev]

namespace Waits

variable (state : Waits Dev)

/-- A call needs its file, a send goes on as the holder of `ta_session_lock`, and no
thread goes on while it waits. -/
def admits : Move Dev → Bool
  | .start call => call.dev ∈ state.files.devFileList
  | .closeFd dev => dev ∈ state.files.devFileList
  | .run (.findUsing .ioctl dev session) _ =>
      state.taSessionLock session = some (.invoke dev false)
  | .run (.closeCalling _ _ session) _ => state.closeReturned session
  | .closeAnswer (.closeCalling _ _ session) => state.taSessionLock session = some (.close false)
  | .run (.fdClosing dev _ _ _ _) _ | .closeAnswer (.fdClosing dev _ _ _ _) =>
      state.fdPended dev = none
  | _ => true

/-- The state after a move of the requests. -/
def moved (move : Move Dev) (requests : Requests Dev) : Waits Dev :=
  let node := if initsNode move then some state.requests.tables.sessionCount else none
  { state with
    requests := requests
    taSessionLock := mark state.taSessionLock (unlocks move) none
    closeReturned := mark state.closeReturned (closeReturns move) true
    waitReady := mark state.waitReady node true
    sendWaitFlag := mark state.sendWaitFlag node false }

/-- A command for the session.  `close_session_in_service_list` puts the id of the session
in it; the others put the id there that their lookup has found the session by. -/
def call (session : Nat) : Waits Dev :=
  { state with
    calledId := Function.update state.calledId session
      (some (state.requests.tables.sessions session).sessionId) }

def setPended (session : Nat) (pended : Bool) : Waits Dev :=
  { state with
    taSessionLock := Function.update state.taSessionLock session
      ((state.taSessionLock session).map (Caller.setPended pended)) }

/-- A notification gives the references it takes back within its step. -/
def exec : Act Dev → Option (Waits Dev)
  | .clientOpen dev devFileId =>
      -- `bitmap_find_free_region` gives some free id
      if (state.requests.tables.devs dev).phase = .opened ∧ dev ∉ state.files.devFileList ∧
          devFileId < devFileIdMax ∧ devFileId ∉ state.devBitMap then
        some
          { state with
            files :=
              { devFileList := state.files.devFileList ++ [dev]
                devFileId := Function.update state.files.devFileId dev devFileId }
            devBitMap := insert devFileId state.devBitMap }
      else none
  | .freeDev dev =>
      if dev ∈ state.files.devFileList ∧ (state.requests.tables.devs dev).phase = .freed then
        some
          { state with
            files := { state.files with devFileList := state.files.devFileList.erase dev }
            devBitMap := state.devBitMap.erase (state.files.devFileId dev) }
      else none
  | .request move =>
      if state.admits move then (state.requests.exec move).map (state.moved move) else none
  | .lockInvoke dev session =>
      if .before (.findUsing .ioctl dev session) ∈ state.requests.points ∧
          state.taSessionLock session = none then
        some
          { state.call session with
            taSessionLock :=
              Function.update state.taSessionLock session (some (.invoke dev false)) }
      else none
  | .lockClose dev service session =>
      if .before (.closeCalling dev service session) ∈ state.requests.points ∧
          state.taSessionLock session = none ∧ state.closeReturned session = false then
        some
          { state.call session with
            taSessionLock := Function.update state.taSessionLock session (some (.close false)) }
      else none
  | .closeFails session =>
      -- `tc_client_call` came back before it asked the TEE
      if state.taSessionLock session = some (.close false) then
        some
          { state with
            taSessionLock := Function.update state.taSessionLock session none
            closeReturned := Function.update state.closeReturned session true }
      else none
  | .pends session =>
      if (state.taSessionLock session).any (fun caller => !caller.pended) then
        some (state.setPended session true)
      else none
  | .fdPends dev index service session remaining count =>
      if .before (.fdClosing dev index service (session :: remaining) count) ∈
          state.requests.points ∧ state.requests.tables.book.owner session = some dev ∧
          state.fdPended dev = none then
        some
          { state.call session with
            fdPended := Function.update state.fdPended dev (some session) }
      else none
  | .wakes session =>
      -- `pend_ca_thread` clears the flag, and the command is sent again
      if (state.taSessionLock session).any Caller.pended ∧ state.sendWaitFlag session = true then
        some
          { state.setPended session false with
            sendWaitFlag := Function.update state.sendWaitFlag session false }
      else none
  | .fdWakes dev session =>
      if state.fdPended dev = some session ∧ state.sendWaitFlag session = true then
        some
          { state with
            fdPended := Function.update state.fdPended dev none
            sendWaitFlag := Function.update state.sendWaitFlag session false }
      else none
  | .notify timer =>
      some
        { state with
          sendWaitFlag := (tcNotifyTimerFn state.files timer []
            ⟨state.requests.tables, state.sendWaitFlag⟩).1.sendWaitFlag }

def initial : Waits Dev :=
  { requests := ⟨Tables.initial, 0, ∅⟩
    files := ⟨[], fun _ => 0⟩
    devBitMap := ∅
    taSessionLock := fun _ => none
    closeReturned := fun _ => false
    fdPended := fun _ => none
    calledId := fun _ => none
    waitReady := fun _ => false
    sendWaitFlag := fun _ => false }

end Waits

def waitMachine : Machine (Waits Dev) (Act Dev) :=
  { init := fun state => state = Waits.initial
    step := fun before act after => before.exec act = some after }

end Steps

/-! ### The dev_file list -/

/-- The files on the list are different and so are their ids, which are handed out. -/
structure FilesApart {Dev : Type} (files : DevList Dev) (devBitMap : Finset UInt32) : Prop where
  once : files.devFileList.Nodup
  apart : ∀ first ∈ files.devFileList, ∀ second ∈ files.devFileList,
    files.devFileId first = files.devFileId second → first = second
  taken : ∀ dev ∈ files.devFileList, files.devFileId dev ∈ devBitMap

section Files

variable {Dev : Type} [DecidableEq Dev] {files : DevList Dev} {devBitMap : Finset UInt32} {dev : Dev}

theorem FilesApart.clientOpen (files_ : FilesApart files devBitMap) (new : dev ∉ files.devFileList)
    {devFileId : UInt32} (free : devFileId ∉ devBitMap) :
    FilesApart ⟨files.devFileList ++ [dev], Function.update files.devFileId dev devFileId⟩
      (insert devFileId devBitMap) := by
  have old {other : Dev} (listed : other ∈ files.devFileList) :
      Function.update files.devFileId dev devFileId other = files.devFileId other := by
    apply Function.update_of_ne
    intro same
    rw [same] at listed
    exact new listed
  have different {other : Dev} (listed : other ∈ files.devFileList) :
      files.devFileId other ≠ devFileId := fun same => free (same ▸ files_.taken other listed)
  refine ⟨List.nodup_append.mpr ⟨files_.once, List.nodup_singleton dev, ?_⟩, ?_, ?_⟩
  · intro first listed second member same
    rw [List.mem_singleton] at member
    rw [same, member] at listed
    exact new listed
  · intro first firstListed second secondListed same
    change Function.update files.devFileId dev devFileId first =
      Function.update files.devFileId dev devFileId second at same
    rcases List.mem_append.mp firstListed with one | one
    · rcases List.mem_append.mp secondListed with other | other
      · rw [old one, old other] at same
        exact files_.apart first one second other same
      · rw [List.mem_singleton] at other
        rw [other, old one, Function.update_self] at same
        exact absurd same (different one)
    · rw [List.mem_singleton] at one
      rcases List.mem_append.mp secondListed with other | other
      · rw [one, old other, Function.update_self] at same
        exact absurd same.symm (different other)
      · rw [List.mem_singleton] at other
        rw [one, other]
  · intro other listed
    change Function.update files.devFileId dev devFileId other ∈ _
    rcases List.mem_append.mp listed with one | one
    · rw [old one]
      exact Finset.mem_insert_of_mem (files_.taken other one)
    · rw [List.mem_singleton] at one
      rw [one, Function.update_self]
      exact Finset.mem_insert_self _ _

theorem FilesApart.freeDev (files_ : FilesApart files devBitMap) (listed : dev ∈ files.devFileList) :
    FilesApart { files with devFileList := files.devFileList.erase dev }
      (devBitMap.erase (files.devFileId dev)) := by
  have still {other : Dev} (member : other ∈ files.devFileList.erase dev) :
      other ≠ dev ∧ other ∈ files.devFileList := files_.once.mem_erase_iff.mp member
  refine ⟨files_.once.erase dev, ?_, ?_⟩
  · intro first firstListed second secondListed same
    exact files_.apart first (still firstListed).2 second (still secondListed).2 same
  · intro other member
    obtain ⟨different, old⟩ := still member
    refine Finset.mem_erase.mpr ⟨?_, files_.taken other old⟩
    intro same
    exact different (files_.apart other old dev listed same)

omit [DecidableEq Dev] in
theorem FilesApart.notifyDevFile (files_ : FilesApart files devBitMap)
    (listed : dev ∈ files.devFileList) {timer : NotifyContextTimer}
    (named : timer.devFileId = files.devFileId dev) : notifyDevFile files timer = some dev := by
  cases found : Spi.notifyDevFile files timer with
  | none =>
      have missing := List.find?_eq_none.mp found dev listed
      exact absurd (decide_eq_true named.symm) missing
  | some other =>
      have here := List.find?_some found
      have same : files.devFileId other = timer.devFileId := of_decide_eq_true here
      rw [files_.apart other (List.mem_of_find?_eq_some found) dev listed (same.trans named)]

end Files

/-! ### The invariant -/

/-- What a send knows of the session it has found: unless a closer is done with the TEE,
it is on a list. -/
structure Uses {Dev : Type} (registers : Registers Dev) (closeReturned : Nat → Bool) (dev : Dev)
    (session : Nat) : Prop where
  created : session < registers.count
  owner : registers.owner session = some dev
  listed : closeReturned session = false → ∃ service, session ∈ registers.list service

structure Kept {Dev : Type} [DecidableEq Dev] (state : Waits Dev) : Prop where
  reached : (requestMachine.restrict FreshIds).Reachable state.requests
  answered : ∀ dev service sessionId,
    .openPended dev service sessionId ∉ state.requests.points
  files : FilesApart state.files state.devBitMap
  present : ∀ point ∈ state.requests.points, ∀ dev, point.thread.file = some dev →
    dev ∈ state.files.devFileList
  ready : ∀ session < state.requests.tables.registers.count, state.waitReady session = true
  uses : ∀ point ∈ state.requests.points, ∀ dev session,
    point.thread.uses = some (dev, session) →
      Uses state.requests.tables.registers state.closeReturned dev session
  closed : ∀ dev service session, .closed dev service session ∈ state.requests.points →
    state.closeReturned session = true
  invokes : ∀ session dev pended, state.taSessionLock session = some (.invoke dev pended) →
    .before (.findUsing .ioctl dev session) ∈ state.requests.points ∧
      (pended = true → state.closeReturned session = false)
  fdOwner : ∀ dev session, state.fdPended dev = some session →
    session < state.requests.tables.registers.count ∧
      state.requests.tables.registers.owner session = some dev
  named : ∀ session sessionId, state.calledId session = some sessionId →
    session < state.requests.tables.registers.count ∧
      state.requests.tables.registers.ids session = sessionId

/-- The TEE answers no OPEN_SESSION with PENDING, no send whose session's close has
returned, and no open with an id that is open. -/
def NoOrphan {Dev : Type} (state : Waits Dev) : Act Dev → Prop
  | .request (.openAnswer _ _ (.pending _)) => False
  | .request move => FreshIds state.requests move
  | .pends session =>
      (state.taSessionLock session).any Caller.isInvoke = true → state.closeReturned session = false
  | _ => True

instance decidableNoOrphan {Dev : Type} (state : Waits Dev) (act : Act Dev) :
    Decidable (NoOrphan state act) :=
  match act with
  | .request (.openAnswer _ _ (.pending _)) => isFalse id
  | .request (.openAnswer dev service (.success sessionId)) =>
      inferInstanceAs
        (Decidable (FreshIds state.requests (.openAnswer dev service (.success sessionId))))
  | .request (.start _) | .request (.closeFd _) | .request (.run ..) | .request (.openEnd ..)
  | .request (.closeAnswer _) | .request (.unlink _) => isTrue trivial
  | .pends session =>
      inferInstanceAs (Decidable ((state.taSessionLock session).any Caller.isInvoke = true →
        state.closeReturned session = false))
  | .clientOpen .. | .freeDev _ | .lockInvoke .. | .lockClose .. | .closeFails _ | .fdPends ..
  | .wakes _ | .fdWakes .. | .notify _ => isTrue trivial

section Kept

variable {Dev : Type} [DecidableEq Dev] [Fintype Dev] {state : Waits Dev}

theorem Kept.invariant (kept : Kept state) : Invariant state.requests.world :=
  invariant_of_reachable (careful_of_ioctlMachine (Requests.world_reachable kept.reached))

theorem Kept.local_ (kept : Kept state) {point : Point Dev} (present : point ∈ state.requests.points) :
    point.thread.Local state.requests.tables.book :=
  kept.invariant.facts _ (Multiset.mem_map_of_mem Point.thread present)

/-- The close thread of a file runs only after the file's last ioctl. -/
theorem Kept.no_closer (kept : Kept state) {point other : Point Dev}
    (present : point ∈ state.requests.points) {dev : Dev} {index service count : Nat}
    {remaining : List Nat} (closing : point.thread = .fdClosing dev index service remaining count)
    (member : other ∈ state.requests.points) : other.thread.ioctlDev ≠ some dev := by
  intro own
  have facts := (kept.local_ present).facts
  rw [closing] at facts
  have opened := (kept.local_ member).opened dev own
  rw [facts.1.phase] at opened
  cases opened

/-- Who takes a session off its list that a send uses has its close behind it. -/
theorem Kept.closer_returned (kept : Kept state) {point : Point Dev} {dev : Dev} {session : Nat}
    (user : ∃ point ∈ state.requests.points, point.thread.ioctlDev = some dev)
    (owner : state.requests.tables.registers.owner session = some dev)
    (present : point ∈ state.requests.points) {closed : Point Dev}
    (closes : point.thread.closes state.requests.tables.book.owner = some (closed, session))
    (called : ∀ other service, point.thread = .closeCalling other service session →
      state.closeReturned session = true) : state.closeReturned session = true := by
  obtain ⟨other, member, own⟩ := user
  cases here : point.thread with
  | closeCalling target service number =>
      rw [here] at closes
      cases closes
      exact called target service here
  | fdClosing target index service remaining count =>
      rw [here] at closes
      cases remaining with
      | nil => cases closes
      | cons number rest =>
          rw [Thread.closes] at closes
          split at closes
          · next mine =>
              cases closes
              have same : some target = some dev := mine.symm.trans owner
              cases same
              exact absurd own (kept.no_closer present here member)
          · cases closes
  | _ =>
      rw [here] at closes
      cases closes

end Kept

section Requests

variable {Dev : Type} [DecidableEq Dev] [Fintype Dev] {state : Waits Dev} {move : Move Dev}
  {after : Requests Dev} {dev : Dev} {session : Nat}

theorem mark_cases {Value : Type} (values : Nat → Value) (place : Option Nat) (value : Value)
    (number : Nat) : mark values place value number = values number ∧ place ≠ some number ∨
      mark values place value number = value ∧ place = some number := by
  cases place with
  | none =>
      refine Or.inl ⟨rfl, ?_⟩
      intro impossible
      cases impossible
  | some other =>
      by_cases same : number = other
      · subst same
        exact Or.inr ⟨Function.update_self _ _ _, rfl⟩
      · refine Or.inl ⟨Function.update_of_ne same _ _, ?_⟩
        intro equal
        exact same (Option.some.inj equal).symm

omit [DecidableEq Dev] [Fintype Dev] in
theorem Waits.closeReturned_moved :
    (state.moved move after).closeReturned session = true ↔
      state.closeReturned session = true ∨ closeReturns move = some session := by
  change mark state.closeReturned (closeReturns move) true session = true ↔ _
  rcases mark_cases state.closeReturned (closeReturns move) true session with
    ⟨same, other⟩ | ⟨set, here⟩
  · rw [same]
    simp only [other, or_false]
  · rw [set]
    simp only [here, or_true]

omit [DecidableEq Dev] [Fintype Dev] in
theorem Waits.taSessionLock_moved {caller : Caller Dev}
    (held : (state.moved move after).taSessionLock session = some caller) :
    state.taSessionLock session = some caller ∧ unlocks move ≠ some session := by
  change mark state.taSessionLock (unlocks move) none session = some caller at held
  rcases mark_cases state.taSessionLock (unlocks move) none session with
    ⟨same, other⟩ | ⟨clear, _⟩
  · rw [same] at held
    exact ⟨held, other⟩
  · rw [clear] at held
    cases held

/-- A session that a send uses stays on its list until its close has returned. -/
theorem Uses.moved (kept : Kept state) (admitted : state.admits move = true)
    (ran : state.requests.exec move = some after)
    (uses : Uses state.requests.tables.registers state.closeReturned dev session)
    (user : ∃ point ∈ state.requests.points, point.thread.ioctlDev = some dev) :
    Uses after.tables.registers (state.moved move after).closeReturned dev session := by
  have before (open_ : (state.moved move after).closeReturned session = false) :
      state.closeReturned session = false := by
    rw [← Bool.not_eq_true] at open_ ⊢
    exact fun returned => open_ (Waits.closeReturned_moved.mpr (Or.inl returned))
  -- what a close takes off the list is another session
  have unlinked {service target : Nat}
      (same : after.tables.registers = state.requests.tables.registers.unlink service target)
      (returned : target = session → state.closeReturned session = true) :
      Uses after.tables.registers (state.moved move after).closeReturned dev session := by
    rw [same]
    refine ⟨uses.created, uses.owner, ?_⟩
    intro open_
    have different : session ≠ target := by
      intro equal
      have closed := returned equal.symm
      rw [before open_] at closed
      cases closed
    obtain ⟨place, listed⟩ := uses.listed (before open_)
    exact ⟨place, Registers.mem_list_unlink listed different service⟩
  cases Requests.exec_effect kept.invariant ran with
  | same registers =>
      rw [registers]
      exact ⟨uses.created, uses.owner, fun open_ => uses.listed (before open_)⟩
  | links other service sessionId _ linked =>
      have old : session ≠ state.requests.tables.registers.count := Nat.ne_of_lt uses.created
      rw [linked]
      refine ⟨Nat.lt_succ_of_lt uses.created, (Function.update_of_ne old _ _).trans uses.owner, ?_⟩
      intro open_
      obtain ⟨place, listed⟩ := uses.listed (before open_)
      exact ⟨place, Registers.mem_list_link listed other service sessionId⟩
  | fails point service target thread choice here closes _ registers =>
      apply unlinked registers
      intro same
      subst same here
      refine kept.closer_returned user uses.owner (Requests.exec_point ran rfl) closes ?_
      intro other place calling
      change thread = _ at calling
      subst calling
      exact admitted
  | unlinks point service target here closes leaves registers =>
      apply unlinked registers
      intro same
      subst same here
      have present := Requests.exec_point ran rfl
      refine kept.closer_returned user uses.owner present closes ?_
      intro other place calling
      cases point with
      | closed owner_ home number =>
          cases calling
          exact kept.closed _ _ _ present
      | fdClosed => cases calling
      | _ => cases leaves

theorem Kept.ready_moved (kept : Kept state) (ran : state.requests.exec move = some after)
    (created : session < after.tables.registers.count) :
    (state.moved move after).waitReady session = true := by
  change mark state.waitReady (if initsNode move = true then _ else none) true session = true
  rcases mark_cases state.waitReady
    (if initsNode move = true then some state.requests.tables.sessionCount else none) true
    session with ⟨same, other⟩ | ⟨set, _⟩
  · rw [same]
    apply kept.ready
    cases Requests.exec_effect kept.invariant ran with
    | same registers =>
        rw [registers] at created
        exact created
    | links dev service sessionId here linked =>
        subst here
        rw [linked] at created
        rcases Nat.lt_succ_iff_lt_or_eq.mp created with old | new
        · exact old
        · subst new
          exact absurd rfl other
    | fails _ _ _ _ _ _ _ _ registers =>
        rw [registers] at created
        exact created
    | unlinks _ _ _ _ _ _ registers =>
        rw [registers] at created
        exact created
  · exact set

theorem Kept.session_moved (kept : Kept state) (ran : state.requests.exec move = some after)
    (created : session < state.requests.tables.registers.count) :
    session < after.tables.registers.count ∧
      after.tables.registers.owner session = state.requests.tables.registers.owner session ∧
      after.tables.registers.ids session = state.requests.tables.registers.ids session := by
  cases Requests.exec_effect kept.invariant ran with
  | same registers =>
      rw [registers]
      exact ⟨created, rfl, rfl⟩
  | links dev service sessionId _ linked =>
      have old : session ≠ state.requests.tables.registers.count := Nat.ne_of_lt created
      rw [linked]
      exact ⟨Nat.lt_succ_of_lt created, Function.update_of_ne old _ _,
        Function.update_of_ne old _ _⟩
  | fails _ _ _ _ _ _ _ _ registers =>
      rw [registers]
      exact ⟨created, rfl, rfl⟩
  | unlinks _ _ _ _ _ _ registers =>
      rw [registers]
      exact ⟨created, rfl, rfl⟩

omit [Fintype Dev] in
theorem unlocks_of_findUsing (ran : state.requests.exec move = some after)
    (moved : move.point = some (.before (.findUsing .ioctl dev session))) :
    unlocks move = some session := by
  cases Requests.exec_cases ran with
  | start | closeFd | openAnswer | openEnd => cases moved
  | run => cases moved; rfl
  | closeAnswer _ closes =>
      cases moved
      cases closes
  | unlink _ leaving =>
      cases moved
      cases leaving

theorem Kept.request (kept : Kept state) (admitted : state.admits move = true)
    (allowed : NoOrphan state (.request move)) (ran : state.requests.exec move = some after) :
    Kept (state.moved move after) := by
  have fresh : FreshIds state.requests move := by
    cases move with
    | openAnswer dev service answer =>
        cases answer with
        | success => exact allowed
        | pending => cases allowed
    | _ => exact allowed
  refine ⟨.next kept.reached ⟨fresh, ran⟩, ?_, kept.files, ?_, fun _ => kept.ready_moved ran, ?_,
    ?_, ?_, ?_, ?_⟩
  · intro dev service sessionId member
    rcases Requests.exec_comes ran member with old | comes
    · exact kept.answered dev service sessionId old
    · cases comes with
      | pended => cases allowed
      | closes closes =>
          obtain ⟨_, ⟨_, leaves⟩, _⟩ := Thread.closes_cases closes
          cases leaves
  · intro point member dev own
    rcases Requests.exec_file ran member own with ⟨old, present, same⟩ | ⟨call, rfl, rfl⟩ | rfl
    · exact kept.present old present dev same
    · exact of_decide_eq_true admitted
    · exact of_decide_eq_true admitted
  · intro point member dev session uses
    rcases Requests.exec_uses ran member uses with ⟨old, present, same⟩ | ⟨user, listed, owner⟩
    · exact (kept.uses old present dev session same).moved kept admitted ran
        ⟨old, present, Thread.ioctlDev_of_uses same⟩
    · obtain ⟨service, here⟩ := listed
      have created := (kept.invariant.counted.sessions.inList service session here).2
      have found : Uses state.requests.tables.registers state.closeReturned dev session :=
        ⟨created, owner, fun _ => ⟨service, here⟩⟩
      exact found.moved kept admitted ran user
  · intro dev service session member
    apply Waits.closeReturned_moved.mpr
    rcases Requests.exec_comes ran member with old | comes
    · exact Or.inl (kept.closed dev service session old)
    · cases comes with
      | @closes thread closed number closes =>
          right
          have thread_ := Thread.closes_thread closes
          change Thread.closeCalling dev service session = thread at thread_
          subst thread_
          rfl
  · intro session dev pended held
    obtain ⟨before, locked⟩ := Waits.taSessionLock_moved held
    obtain ⟨using_, open_⟩ := kept.invokes session dev pended before
    refine ⟨Requests.exec_stays ran using_ fun moved => locked (unlocks_of_findUsing ran moved), ?_⟩
    intro sleeps
    rw [← Bool.not_eq_true]
    intro returned
    rcases Waits.closeReturned_moved.mp returned with earlier | here
    · rw [open_ sleeps] at earlier
      cases earlier
    · cases move with
      | closeAnswer thread =>
          cases thread with
          | closeCalling target service number =>
              cases here
              have caller := of_decide_eq_true admitted
              rw [before] at caller
              cases caller
          | _ => cases here
      | _ => cases here
  · intro dev session waits
    obtain ⟨created, owner⟩ := kept.fdOwner dev session waits
    obtain ⟨still, same, _⟩ := kept.session_moved ran created
    exact ⟨still, same.trans owner⟩
  · intro session sessionId called
    obtain ⟨created, id⟩ := kept.named session sessionId called
    obtain ⟨still, _, same⟩ := kept.session_moved ran created
    exact ⟨still, same.trans id⟩

end Requests

/-! ### Whole runs -/

section Runs

variable {Dev : Type} [DecidableEq Dev] [Fintype Dev] {state : Waits Dev} {dev : Dev} {session : Nat}

omit [Fintype Dev] in
theorem Kept.initial : Kept (Waits.initial : Waits Dev) := by
  refine ⟨.start rfl, ?_, ⟨List.nodup_nil, ?_, ?_⟩, ?_, ?_, ?_, ?_, ?_, ?_, ?_⟩
  · intro _ _ _ impossible
    cases Multiset.notMem_zero _ impossible
  · intro first impossible
    cases impossible
  · intro dev impossible
    cases impossible
  · intro _ impossible
    cases Multiset.notMem_zero _ impossible
  · intro session impossible
    cases impossible
  · intro _ impossible
    cases Multiset.notMem_zero _ impossible
  · intro _ _ _ impossible
    cases Multiset.notMem_zero _ impossible
  · intro _ _ _ impossible
    cases impossible
  · intro _ _ impossible
    cases impossible
  · intro _ _ impossible
    cases impossible

omit [Fintype Dev] in
theorem Kept.setLock (kept : Kept state) {caller : Option (Caller Dev)}
    (invokes : ∀ dev pended, caller = some (.invoke dev pended) →
      .before (.findUsing .ioctl dev session) ∈ state.requests.points ∧
        (pended = true → state.closeReturned session = false)) :
    Kept { state with taSessionLock := Function.update state.taSessionLock session caller } := by
  refine ⟨kept.reached, kept.answered, kept.files, kept.present, kept.ready, kept.uses, kept.closed,
    ?_, kept.fdOwner, kept.named⟩
  intro other dev pended held
  change Function.update state.taSessionLock session caller other = _ at held
  by_cases same : other = session
  · subst same
    rw [Function.update_self] at held
    exact invokes dev pended held
  · rw [Function.update_of_ne same] at held
    exact kept.invokes other dev pended held

omit [Fintype Dev] in
theorem Kept.setPended (kept : Kept state) {pended : Bool}
    (allowed : pended = true → NoOrphan state (.pends session)) :
    Kept (state.setPended session pended) := by
  apply kept.setLock
  intro dev after held
  obtain ⟨caller, here, same⟩ := Option.map_eq_some_iff.mp held
  cases caller with
  | close => cases same
  | invoke other before =>
      cases same
      obtain ⟨using_, _⟩ := kept.invokes session _ before here
      refine ⟨using_, fun sleeps => allowed sleeps ?_⟩
      rw [here]
      rfl

omit [Fintype Dev] in
theorem Kept.closeFails (kept : Kept state) (held : state.taSessionLock session = some (.close false)) :
    Kept
      { state with
        taSessionLock := Function.update state.taSessionLock session none
        closeReturned := Function.update state.closeReturned session true } := by
  refine ⟨kept.reached, kept.answered, kept.files, kept.present, kept.ready, ?_, ?_, ?_,
    kept.fdOwner, kept.named⟩
  · intro point member dev other uses
    have before := kept.uses point member dev other uses
    refine ⟨before.created, before.owner, ?_⟩
    intro open_
    change Function.update state.closeReturned session true other = false at open_
    by_cases same : other = session
    · subst same
      rw [Function.update_self] at open_
      cases open_
    · rw [Function.update_of_ne same] at open_
      exact before.listed open_
  · intro dev service other member
    change Function.update state.closeReturned session true other = true
    by_cases same : other = session
    · subst same
      exact Function.update_self _ _ _
    · rw [Function.update_of_ne same]
      exact kept.closed dev service other member
  · intro other dev pended locked
    change Function.update state.taSessionLock session none other = _ at locked
    by_cases same : other = session
    · subst same
      rw [Function.update_self] at locked
      cases locked
    · rw [Function.update_of_ne same] at locked
      refine ⟨(kept.invokes other dev pended locked).1, ?_⟩
      change _ → Function.update state.closeReturned session true other = false
      rw [Function.update_of_ne same]
      exact (kept.invokes other dev pended locked).2

omit [Fintype Dev] in
theorem Kept.setFdPended (kept : Kept state) {waits : Option Nat}
    (owned : ∀ session, waits = some session →
      session < state.requests.tables.registers.count ∧
        state.requests.tables.registers.owner session = some dev) :
    Kept { state with fdPended := Function.update state.fdPended dev waits } := by
  refine ⟨kept.reached, kept.answered, kept.files, kept.present, kept.ready, kept.uses,
    kept.closed, kept.invokes, ?_, kept.named⟩
  intro other session set
  change Function.update state.fdPended dev waits other = some session at set
  by_cases here : other = dev
  · subst here
    rw [Function.update_self] at set
    exact owned session set
  · rw [Function.update_of_ne here] at set
    exact kept.fdOwner other session set

omit [Fintype Dev] in
theorem Kept.setFlags (kept : Kept state) (flags : Nat → Bool) :
    Kept { state with sendWaitFlag := flags } :=
  ⟨kept.reached, kept.answered, kept.files, kept.present, kept.ready, kept.uses, kept.closed,
    kept.invokes, kept.fdOwner, kept.named⟩

omit [Fintype Dev] in
theorem Kept.call (kept : Kept state)
    (created : session < state.requests.tables.registers.count) : Kept (state.call session) := by
  refine ⟨kept.reached, kept.answered, kept.files, kept.present, kept.ready, kept.uses,
    kept.closed, kept.invokes, kept.fdOwner, ?_⟩
  intro other sessionId called
  change Function.update state.calledId session _ other = some sessionId at called
  by_cases here : other = session
  · subst here
    rw [Function.update_self] at called
    exact ⟨created, Option.some.inj called⟩
  · rw [Function.update_of_ne here] at called
    exact kept.named other sessionId called

theorem Kept.freeDev (kept : Kept state) (listed : dev ∈ state.files.devFileList)
    (freed : (state.requests.tables.devs dev).phase = .freed) :
    Kept
      { state with
        files := { state.files with devFileList := state.files.devFileList.erase dev }
        devBitMap := state.devBitMap.erase (state.files.devFileId dev) } := by
  refine ⟨kept.reached, kept.answered, kept.files.freeDev listed, ?_, kept.ready, kept.uses,
    kept.closed, kept.invokes, kept.fdOwner, kept.named⟩
  intro point member other own
  have alive := Thread.file_alive (kept.local_ member) own
  have different : other ≠ dev := by
    intro same
    subst same
    exact alive freed
  exact (List.mem_erase_of_ne different).mpr (kept.present point member other own)

theorem Kept.step {act : Act Dev} {after : Waits Dev} (kept : Kept state)
    (allowed : NoOrphan state act) (ran : state.exec act = some after) : Kept after := by
  cases act with
  | clientOpen dev devFileId =>
      rw [Waits.exec] at ran
      split at ran
      · next allowed =>
          cases ran
          refine ⟨kept.reached, kept.answered, kept.files.clientOpen allowed.2.1 allowed.2.2.2, ?_,
            kept.ready, kept.uses, kept.closed, kept.invokes, kept.fdOwner, kept.named⟩
          intro point member other own
          exact List.mem_append_left _ (kept.present point member other own)
      · cases ran
  | freeDev dev =>
      rw [Waits.exec] at ran
      split at ran
      · next allowed =>
          cases ran
          exact kept.freeDev allowed.1 allowed.2
      · cases ran
  | request move =>
      rw [Waits.exec] at ran
      split at ran
      · next admitted =>
          obtain ⟨requests, stepped, rfl⟩ := Option.map_eq_some_iff.mp ran
          exact kept.request admitted allowed stepped
      · cases ran
  | lockInvoke dev session =>
      rw [Waits.exec] at ran
      split at ran
      · next given =>
          cases ran
          have uses := kept.uses _ given.1 dev session rfl
          apply (kept.call uses.created).setLock
          intro other pended held
          cases held
          exact ⟨given.1, fun impossible => by cases impossible⟩
      · cases ran
  | lockClose dev service session =>
      rw [Waits.exec] at ran
      split at ran
      · next given =>
          cases ran
          have listed := (kept.local_ given.1).facts.1
          have created := (kept.invariant.counted.sessions.inList service session listed).2
          apply (kept.call created).setLock
          intro other pended held
          cases held
      · cases ran
  | closeFails session =>
      rw [Waits.exec] at ran
      split at ran
      · next held =>
          cases ran
          exact kept.closeFails held
      · cases ran
  | pends session =>
      rw [Waits.exec] at ran
      split at ran
      · cases ran
        exact kept.setPended fun _ => allowed
      · cases ran
  | fdPends dev index service session remaining count =>
      rw [Waits.exec] at ran
      split at ran
      · next given =>
          cases ran
          have listed := (kept.local_ given.1).facts.2.members session List.mem_cons_self
          have created := (kept.invariant.counted.sessions.inList service session listed).2
          apply (kept.call created).setFdPended
          intro target waits
          cases waits
          exact ⟨created, given.2.1⟩
      · cases ran
  | wakes session =>
      rw [Waits.exec] at ran
      split at ran
      · cases ran
        exact (kept.setPended (fun impossible => by cases impossible)).setFlags _
      · cases ran
  | fdWakes dev session =>
      rw [Waits.exec] at ran
      split at ran
      · cases ran
        refine (kept.setFdPended ?_).setFlags _
        intro target impossible
        cases impossible
      · cases ran
  | notify timer =>
      cases ran
      exact kept.setFlags _

theorem kept_of_reachable (reached : (waitMachine.restrict NoOrphan).Reachable state) :
    Kept state := by
  refine Machine.Reachable.invariant ?_ ?_ reached
  · intro first initial
    subst initial
    exact .initial
  · intro before act after kept taken
    exact kept.step taken.1 taken.2

end Runs

end TzDriver.Spi
