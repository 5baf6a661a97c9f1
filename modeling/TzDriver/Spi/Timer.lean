/-
Timer and RTC notifications: the lookup of the session they name, and what
`tc_notify_timer_fn` does with it (`linux/core/tz_spi_notify.c`).
-/

import TzDriver.Session.Lookups
import TzDriver.Session.Threads
import TzDriver.Spi.Notify

namespace TzDriver.Spi

open TzDriver.Session

/-! ### The entry -/

/-- `struct notify_context_timer`, less `reserved2` and `expire_time`. -/
structure NotifyContextTimer where
  devFileId : UInt32
  uuid : Uuid
  sessionId : UInt32
  timerType : UInt32
  timerId : UInt32
  timerClass : UInt32
deriving DecidableEq

def timerGeneric : UInt32 := 0
def timerRtc : UInt32 := 1

/-- `context.timer`; the sixteen bytes of the uuid are words 1 to 4. -/
def NotifyContext.timer (context : NotifyContext) : NotifyContextTimer :=
  { devFileId := context.words 0
    uuid := (context.words 4).toBitVec ++ (context.words 3).toBitVec ++
      (context.words 2).toBitVec ++ (context.words 1).toBitVec
    sessionId := context.words 5
    timerType := context.words 6
    timerId := context.words 7
    timerClass := context.words 8 }

/-! ### Callbacks -/

/-- A registered `struct tc_ns_callback`; the function is kernel code outside the
driver, named by a number. -/
structure TcNsCallback where
  uuid : Uuid
  callbackFunc : Nat
deriving DecidableEq

/-- `walk_callback_list`: the functions it calls, in order. -/
def walkCallbackList (callbackList : List TcNsCallback) (timer : NotifyContextTimer) : List Nat :=
  callbackList.filterMap fun callback =>
    if callback.uuid = timer.uuid ∧ timer.timerClass = timerRtc then some callback.callbackFunc
    else none

/-! ### The session -/

/-- `dev_file_list` with the ids of its files. -/
structure DevList (Dev : Type) where
  devFileList : List Dev
  devFileId : Dev → UInt32

/-- What `tc_notify_timer_fn` reads and changes; `sendWaitFlag` is by session. -/
structure TimerState (Dev : Type) where
  tables : Tables Dev
  sendWaitFlag : Nat → Bool

section Timer

variable {Dev : Type} [DecidableEq Dev] (devList : DevList Dev) (timer : NotifyContextTimer)

/-- The first file on the list with the id of the entry. -/
def notifyDevFile : Option Dev :=
  devList.devFileList.find? fun dev => devList.devFileId dev = timer.devFileId

/-- The session that the entry names: the first of the list with its id and its owner. -/
def notifySession (tables : Tables Dev) : Option Nat := do
  let dev ← notifyDevFile devList timer
  let (_, service) ← tables.findSlot dev timer.uuid
  tables.tcFindSessionWithowner service timer.sessionId dev

/-- `find_notify_sess`, with the reference to the session it found. -/
def findNotifySess (tables : Tables Dev) : Tables Dev × Option Nat :=
  match notifyDevFile devList timer with
  | none => (tables, none)
  | some dev =>
      match tables.tcFindServiceInDev dev timer.uuid with
      | (touched, none) => (touched, none)
      | (touched, some service) =>
          let found := (touched.getServiceStruct service).getSession service timer.sessionId dev
          (found.1.putServiceStruct service, found.2)

/-- `tc_notify_timer_fn`, with the callbacks it calls. -/
def tcNotifyTimerFn (callbackList : List TcNsCallback) (state : TimerState Dev) :
    TimerState Dev × List Nat :=
  let calls := walkCallbackList callbackList timer
  let found := findNotifySess devList timer state.tables
  if timer.timerClass = timerGeneric then
    match found.2 with
    | none => ({ state with tables := found.1 }, calls)
    | some session =>
        ({ tables := found.1.putSessionStruct session
           sendWaitFlag := Function.update state.sendWaitFlag session true }, calls)
  else ({ state with tables := found.1 }, calls)

/-- The timer handlers among the calls of `tc_notify_fn`, each with the timer of its copy. -/
def runTimerFns (callbackList : List TcNsCallback) (calls : List Call) (state : TimerState Dev) :
    TimerState Dev :=
  calls.foldl
    (fun state call =>
      match call with
      | .timerFn copy => (tcNotifyTimerFn devList copy.context.timer callbackList state).1
      | _ => state)
    state

end Timer

/-! ### References -/

section References

variable {Dev : Type}

structure SameUsage (before after : Tables Dev) : Prop where
  services : ∀ service, (after.services service).usage = (before.services service).usage
  sessions : ∀ session, (after.sessions session).usage = (before.sessions session).usage

theorem SameUsage.refl (tables : Tables Dev) : SameUsage tables tables :=
  ⟨fun _ => rfl, fun _ => rfl⟩

theorem SameUsage.trans {first second third : Tables Dev} (one : SameUsage first second)
    (two : SameUsage second third) : SameUsage first third :=
  ⟨fun service => (two.services service).trans (one.services service),
    fun session => (two.sessions session).trans (one.sessions session)⟩

theorem update_succ_pred (usage : Nat → Nat) (object : Nat) :
    Function.update (Function.update usage object (usage object + 1)) object
      (Function.update usage object (usage object + 1) object - 1) = usage := by
  rw [Function.update_self, Function.update_idem, Nat.add_sub_cancel, Function.update_eq_self]

theorem mem_of_delivered {affinity : Bool} {entries : List NotifyDataEntry}
    {copy : NotifyDataEntry} (member : .timerFn copy ∈ (delivery affinity entries).1) :
    copy ∈ entries := by
  induction entries with
  | nil => cases member
  | cons entry rest ih =>
      rw [delivery] at member
      split at member
      · exact .tail entry (ih member)
      · split at member
        · cases member
        · next type _ =>
            rcases List.mem_cons.mp member with here | later
            · cases type <;> cases here <;> exact .head rest
            · exact .tail entry (ih later)

variable [DecidableEq Dev] (devList : DevList Dev) (timer : NotifyContextTimer)

/-- `find_notify_sess` gives its reference to the service back and keeps the one to
the session. -/
theorem findNotifySess_spec (tables : Tables Dev) :
    (findNotifySess devList timer tables).2 = notifySession devList timer tables ∧
      (findNotifySess devList timer tables).1.book.usage = tables.book.usage ∧
      (findNotifySess devList timer tables).1.book.sessionUsage =
        match notifySession devList timer tables with
        | none => tables.book.sessionUsage
        | some session => (tables.book.getSession session).sessionUsage := by
  unfold findNotifySess notifySession
  cases notifyDevFile devList timer with
  | none => exact ⟨rfl, rfl, rfl⟩
  | some dev =>
      cases search : tables.findSlot dev timer.uuid with
      | none =>
          simp only [Tables.tcFindServiceInDev, search, Option.map_none, Option.bind_eq_bind,
            Option.bind_some, Option.bind_none]
          exact ⟨trivial, rfl, rfl⟩
      | some place =>
          obtain ⟨index, service⟩ := place
          simp only [Tables.tcFindServiceInDev, search, Option.map_some, Option.bind_eq_bind,
            Option.bind_some]
          generalize touchedEq : (tables.touchServices (tables.scanSlots timer.uuid
            (tables.slotList dev))).getServiceStruct service = touched
          have list : touched.services service = { tables.services service with
              usage := (tables.services service).usage + 1 } := by
            rw [← touchedEq]
            exact Function.update_self _ _ _
          have sessions : touched.sessions = tables.sessions := by rw [← touchedEq]; rfl
          have book : touched.book = tables.book.getService service := by
            rw [← touchedEq, Tables.book_getServiceStruct]
            rfl
          have found : touched.tcFindSessionWithowner service timer.sessionId dev =
              tables.tcFindSessionWithowner service timer.sessionId dev := by
            rw [Tables.tcFindSessionWithowner, list, sessions]
            rfl
          rw [Tables.getSession, found]
          cases tables.tcFindSessionWithowner service timer.sessionId dev with
          | none =>
              simp only [Tables.book_putServiceStruct, Tables.book_touchSessions,
                Tables.book_touchServices, book, Book.usage_putService,
                Book.sessionUsage_putService, true_and]
              exact ⟨update_succ_pred _ _, rfl⟩
          | some session =>
              simp only [Tables.book_putServiceStruct, Tables.book_getSessionStruct,
                Tables.book_touchSessions, Tables.book_touchServices, book,
                Book.usage_putService, Book.sessionUsage_putService, true_and]
              exact ⟨update_succ_pred _ _, rfl⟩

/-- A notification keeps the counts exactly when it is a timer's, or names no session:
the reference to the session of an RTC notification is not put. -/
theorem timer_keeps_usage_iff (callbackList : List TcNsCallback) (state : TimerState Dev) :
    SameUsage state.tables (tcNotifyTimerFn devList timer callbackList state).1.tables ↔
      timer.timerClass = timerGeneric ∨ notifySession devList timer state.tables = none := by
  obtain ⟨result, services, sessions⟩ := findNotifySess_spec devList timer state.tables
  simp only [tcNotifyTimerFn, result]
  cases found : notifySession devList timer state.tables with
  | none =>
      rw [found] at sessions
      have same : SameUsage state.tables (findNotifySess devList timer state.tables).1 :=
        ⟨congrFun services, congrFun sessions⟩
      refine iff_of_true ?_ (Or.inr rfl)
      split <;> exact same
  | some session =>
      rw [found] at sessions
      by_cases generic : timer.timerClass = timerGeneric
      · refine iff_of_true ?_ (Or.inl generic)
        rw [if_pos generic]
        refine ⟨congrFun services, congrFun ?_⟩
        change (Tables.putSessionStruct _ session).book.sessionUsage = state.tables.book.sessionUsage
        rw [Tables.book_putSessionStruct, Book.putSession, sessions]
        exact update_succ_pred _ _
      · rw [if_neg generic]
        refine iff_of_false ?_ (fun either => either.elim generic (fun none => by cases none))
        intro same
        have kept := same.sessions session
        have grown := congrFun sessions session
        change _ = Function.update state.tables.book.sessionUsage session
          (state.tables.book.sessionUsage session + 1) session at grown
        rw [Function.update_self] at grown
        exact absurd (kept.symm.trans grown) (Nat.ne_of_lt (Nat.lt_succ_self _))

theorem runTimerFns_keeps_usage (callbackList : List TcNsCallback) {calls : List Call}
    (generic : ∀ copy, .timerFn copy ∈ calls → copy.context.timer.timerClass = timerGeneric)
    (state : TimerState Dev) :
    SameUsage state.tables (runTimerFns devList callbackList calls state).tables := by
  induction calls generalizing state with
  | nil => exact .refl state.tables
  | cons call rest ih =>
      have later := fun next => ih (fun copy member => generic copy (.tail call member)) next
      cases call with
      | timerFn copy =>
          have first := (timer_keeps_usage_iff devList copy.context.timer callbackList state).mpr
            (Or.inl (generic copy (.head rest)))
          exact first.trans (later _)
      | _ => exact later state

/-- A run of `tc_notify_fn` over a table without RTC timers keeps all the counts. -/
theorem tcNotifyFn_keeps_usage (callbackList : List TcNsCallback) (affinity : Bool)
    (data : NotifyDataStruct) (state : TimerState Dev)
    (generic : ∀ entry ∈ data.entry, entry.context.timer.timerClass = timerGeneric) :
    ∃ fuel calls after, tcNotifyFn affinity fuel data = some (calls, after) ∧
      SameUsage state.tables (runTimerFns devList callbackList calls state).tables := by
  obtain ⟨calls, after, ran, delivers, _⟩ :=
    tcNotifyFn_spec affinity data (Nat.lt_succ_self data.entry.length)
  refine ⟨_, calls, after, ran, runTimerFns_keeps_usage devList callbackList ?_ state⟩
  intro copy member
  have delivered : .timerFn copy ∈ (delivery affinity data.entry).1 := by
    rw [← delivers]
    exact List.mem_filter.mpr ⟨member, rfl⟩
  exact generic copy (mem_of_delivered delivered)

end References

def oneSession : Tables Unit :=
  let slots : DevSlots :=
    { services := Function.update (fun _ => none) ⟨0, by decide⟩ (some 0)
      serviceRef := Function.update (fun _ => 0) ⟨0, by decide⟩ 1
      serviceLock := false, phase := .opened }
  (((Tables.initial.tcNsServiceInit 7#128).1).setDev () slots).initNewSessNode () 0 5

/-- An RTC notification for the session leaves a reference behind. -/
theorem rtc_keeps_session_reference :
    ¬SameUsage oneSession (tcNotifyTimerFn ⟨[()], fun _ => 3⟩
      ⟨3, 7#128, 5, 0, 0, timerRtc⟩ [] ⟨oneSession, fun _ => false⟩).1.tables := by
  intro same
  exact absurd (same.sessions 0) (by decide)

end TzDriver.Spi
