/-
The answers of the drivers to the TEE (`send_tui_msg_config`, `add_tui_msg` and
`process_tui_msg` of `linux/tui/tui.c`).

A driver that was switched over sends a message with its result.  The agent's thread takes the
first result of DSS or of the touch panel off the list when the TEE polls for it, and sleeps on
`g_tui_msg_flag` as long as there is none.
-/

import TzDriver.Lib.Runs
import TzDriver.Tui.Drivers

namespace TzDriver.Tui

open TzDriver.Lib

/-! ### The list -/

def tuiPollCfgOk : Nat := 0
def tuiPollCfgFail : Nat := 1
def tuiPollMax : Nat := 27

/-- `tui_poll_class` returns `CLASS_POLL_RUNNING`: touch panel, tick and delayed work. -/
def pollRunning (type : Nat) : Bool := type == 2 || type == 3 || type == 4

/-- `struct tui_msg_node`; the value is not read. -/
structure TuiMsg where
  type : Nat
  data : List Char
deriving DecidableEq, Repr

def TuiMsg.named (msg : TuiMsg) (name : List Char) : Bool :=
  strncmpSame msg.data name tuiDrvNameMax

def TuiMsg.isResult (msg : TuiMsg) : Bool :=
  msg.type == tuiPollCfgOk || msg.type == tuiPollCfgFail

def getCfgState (name : List Char) : List TuiMsg → Int
  | [] => 0
  | msg :: rest =>
      if msg.named name = true then
        if msg.type = tuiPollCfgOk then 1
        else if msg.type = tuiPollCfgFail then -1
        else getCfgState name rest
      else getCfgState name rest

def tuiMsgDel (name : List Char) (msgs : List TuiMsg) : List TuiMsg :=
  msgs.filter fun msg => !msg.named name

/-! ### The parties -/

inductive PollPlace where
  | idle
  /-- about to look at the list under `g_tui_msg_lock` -/
  | looks (name : List Char)
  /-- about to look once more, whatever is there (`process_tui_msg_dss` on MTK) -/
  | decides (name : List Char)
  | waits (name : List Char)
deriving DecidableEq, Repr

/-- The history of the list; nothing of it is in the driver. -/
inductive MsgEvent where
  | added (msg : TuiMsg)
  /-- `init_tui_dss_msg` has dropped what DSS had sent -/
  | dropped
  /-- what the TEE was told -/
  | answered (name : List Char) (type : Nat)
deriving DecidableEq, Repr

/-- `sending` has the messages that have passed the checks and are not yet on the list. -/
structure MsgQueue where
  tuiState : TuiState
  msgs : List TuiMsg
  msgFlag : Bool
  sending : List TuiMsg
  place : PollPlace
  /-- the newest first -/
  history : List MsgEvent
deriving DecidableEq, Repr

inductive MsgLabel where
  /-- a command of the TEE sets the state -/
  | setTuiState (state : TuiState)
  /-- `TUI_CMD_ENABLE` comes to DSS, which has power -/
  | initTuiDssMsg
  /-- `TUI_CMD_POLL` -/
  | processTuiMsg (value : Nat)
  /-- a step of the agent's thread in `process_tui_msg`; a signal ends the wait -/
  | poll (signal : Bool)
  /-- `registered`: `tui_cfg_filter` finds a driver with the name -/
  | sendTuiMsgConfig (msg : TuiMsg) (registered : Bool)
  | addTuiMsg (msg : TuiMsg) (kzalloc : Bool)

namespace MsgQueue

variable (queue : MsgQueue)

def initial : MsgQueue := ⟨.unused, [], false, [], .idle, []⟩

def initTuiDssMsg : MsgQueue :=
  { queue with msgs := tuiMsgDel tuiDssName queue.msgs, history := .dropped :: queue.history }

/-- The checks of `send_tui_msg_config`. -/
def sendTuiMsgConfig (msg : TuiMsg) (registered : Bool) : MsgQueue :=
  if msg.type ≥ tuiPollMax then queue
  else if queue.tuiState ≠ .config then queue
  else if pollRunning msg.type = true then queue
  else if msg.isResult = true ∧ registered = false then queue
  else { queue with sending := msg :: queue.sending }

def addTuiMsg (msg : TuiMsg) (kzalloc : Bool) : MsgQueue :=
  if kzalloc = false then { queue with sending := queue.sending.erase msg }
  else
    { queue with
      msgs := queue.msgs ++ [msg]
      msgFlag := true
      sending := queue.sending.erase msg
      history := .added msg :: queue.history }

/-- The end of `process_tui_msg_dss` and `process_tui_msg_tp`. -/
def answer (name : List Char) : MsgQueue :=
  let type := if getCfgState name queue.msgs = -1 then tuiPollCfgFail else tuiPollCfgOk
  { queue with
    msgs := tuiMsgDel name queue.msgs
    place := .idle
    history := .answered name type :: queue.history }

def poll (mtk signal : Bool) : Option MsgQueue :=
  match queue.place with
  | .idle => none
  | .looks name =>
      if getCfgState name queue.msgs = 0 then
        let next := if mtk = true ∧ name = tuiDssName then .decides name else .waits name
        some { queue with msgFlag := false, place := next }
      else some (queue.answer name)
  | .decides name => some (queue.answer name)
  -- on MTK `wait_tui_msg` does not wait
  | .waits name =>
      if queue.msgFlag = true ∨ signal = true ∨ mtk = true then
        some { queue with place := .looks name }
      else none

def processTuiMsg (value : Nat) : MsgQueue :=
  if value = 1 then { queue with place := .looks tuiDssName }
  else if value = 2 then { queue with place := .looks tuiTpName }
  else queue

end MsgQueue

def MsgQueue.exec (mtk : Bool) (queue : MsgQueue) : MsgLabel → Option MsgQueue
  | .setTuiState state =>
      if queue.place = .idle then some { queue with tuiState := state } else none
  | .initTuiDssMsg => if queue.place = .idle then some queue.initTuiDssMsg else none
  | .processTuiMsg value => if queue.place = .idle then some (queue.processTuiMsg value) else none
  | .poll signal => queue.poll mtk signal
  | .sendTuiMsgConfig msg registered => some (queue.sendTuiMsgConfig msg registered)
  | .addTuiMsg msg kzalloc =>
      if msg ∈ queue.sending then some (queue.addTuiMsg msg kzalloc) else none

/-- `mtk` is `CONFIG_TEE_TUI_MTK`. -/
def msgMachine (mtk : Bool) : Machine MsgQueue MsgLabel :=
  { init := fun queue => queue = .initial
    step := fun before label after => before.exec mtk label = some after }

/-! ### What the history calls for -/

/-- What a driver has sent since its messages were last dropped or taken, the oldest first. -/
def pending (name : List Char) : List MsgEvent → List TuiMsg
  | [] => []
  | .added msg :: older =>
      if msg.named name = true then pending name older ++ [msg] else pending name older
  | .dropped :: older => if name = tuiDssName then [] else pending name older
  | .answered other _ :: older => if name = other then [] else pending name older

/-- The first result decides; only on MTK is a DSS that has sent none taken to be ready. -/
def Settles (mtk : Bool) (name : List Char) (sent : List TuiMsg) (type : Nat) : Prop :=
  match sent.find? TuiMsg.isResult with
  | some msg => type = msg.type
  | none => mtk = true ∧ name = tuiDssName ∧ type = tuiPollCfgOk

/-- Every answer is the one that the history before it calls for. -/
def AnswersFollow (mtk : Bool) : List MsgEvent → Prop
  | [] => True
  | .answered name type :: older =>
      Settles mtk name (pending name older) type ∧ AnswersFollow mtk older
  | _ :: older => AnswersFollow mtk older

/-! ### The list by names -/

def Polled (name : List Char) : Prop := name = tuiDssName ∨ name = tuiTpName

def sentBy (name : List Char) (msgs : List TuiMsg) : List TuiMsg :=
  msgs.filter fun msg => msg.named name

theorem TuiMsg.named_iff {msg : TuiMsg} {name : List Char} :
    msg.named name = true ↔ msg.data.take tuiDrvNameMax = name.take tuiDrvNameMax := by
  unfold TuiMsg.named
  exact strncmpSame_iff

theorem Polled.unique {name other : List Char} (polled : Polled name) (asked : Polled other)
    {msg : TuiMsg} (one : msg.named name = true) (two : msg.named other = true) :
    name = other := by
  have same : name.take tuiDrvNameMax = other.take tuiDrvNameMax :=
    (TuiMsg.named_iff.mp one).symm.trans (TuiMsg.named_iff.mp two)
  have apart : tuiDssName.take tuiDrvNameMax ≠ tuiTpName.take tuiDrvNameMax := by decide
  rcases polled with rfl | rfl
  · rcases asked with rfl | rfl
    · rfl
    · exact absurd same apart
  · rcases asked with rfl | rfl
    · exact absurd same.symm apart
    · rfl

@[simp] theorem sentBy_append_single (name : List Char) (msgs : List TuiMsg) (msg : TuiMsg) :
    sentBy name (msgs ++ [msg]) =
      if msg.named name = true then sentBy name msgs ++ [msg] else sentBy name msgs := by
  unfold sentBy
  rw [List.filter_append, List.filter_singleton]
  split
  · next named =>
      rw [named]
      rfl
  · next other =>
      rw [eq_false_of_ne_true other]
      exact List.append_nil _

theorem sentBy_tuiMsgDel_self (name : List Char) (msgs : List TuiMsg) :
    sentBy name (tuiMsgDel name msgs) = [] := by
  apply List.filter_eq_nil_iff.mpr
  intro msg member named
  have kept := (List.mem_filter.mp member).2
  rw [named] at kept
  cases kept

theorem sentBy_tuiMsgDel_other {name other : List Char} (polled : Polled name)
    (asked : Polled other) (apart : name ≠ other) (msgs : List TuiMsg) :
    sentBy name (tuiMsgDel other msgs) = sentBy name msgs := by
  unfold sentBy tuiMsgDel
  rw [List.filter_filter]
  apply List.filter_congr
  intro msg _member
  cases named : msg.named name with
  | false => rfl
  | true =>
      have spared : msg.named other = false :=
        eq_false_of_ne_true fun taken => apart (polled.unique asked named taken)
      rw [spared]
      rfl

theorem getCfgState_eq (name : List Char) (msgs : List TuiMsg) :
    getCfgState name msgs =
      match (sentBy name msgs).find? TuiMsg.isResult with
      | some msg => if msg.type = tuiPollCfgOk then 1 else -1
      | none => 0 := by
  induction msgs with
  | nil => rfl
  | cons msg rest ih =>
      unfold getCfgState
      by_cases named : msg.named name = true
      · have here : sentBy name (msg :: rest) = msg :: sentBy name rest :=
          List.filter_cons_of_pos named
        rw [if_pos named, here]
        by_cases ok : msg.type = tuiPollCfgOk
        · have result : msg.isResult = true := by rw [TuiMsg.isResult, ok]; rfl
          rw [if_pos ok, List.find?_cons_of_pos result]
          exact (if_pos ok).symm
        · rw [if_neg ok]
          by_cases fail : msg.type = tuiPollCfgFail
          · have result : msg.isResult = true := by rw [TuiMsg.isResult, fail]; rfl
            rw [if_pos fail, List.find?_cons_of_pos result]
            exact (if_neg ok).symm
          · have other : ¬ msg.isResult = true := by
              rw [TuiMsg.isResult, Bool.or_eq_true, beq_iff_eq, beq_iff_eq]
              exact not_or.mpr ⟨ok, fail⟩
            rw [if_neg fail, List.find?_cons_of_neg other, ih]
      · have elsewhere : sentBy name (msg :: rest) = sentBy name rest :=
          List.filter_cons_of_neg named
        rw [if_neg named, elsewhere, ih]

theorem getCfgState_zero_iff {name : List Char} {msgs : List TuiMsg} :
    getCfgState name msgs = 0 ↔ (sentBy name msgs).find? TuiMsg.isResult = none := by
  rw [getCfgState_eq]
  cases (sentBy name msgs).find? TuiMsg.isResult with
  | none => exact ⟨fun _ => rfl, fun _ => rfl⟩
  | some msg =>
      constructor
      · intro zero
        dsimp only at zero
        split at zero
        · cases zero
        · cases zero
      · intro none
        cases none

theorem settles_answer {mtk : Bool} {name : List Char} {msgs : List TuiMsg}
    (ready : getCfgState name msgs = 0 → mtk = true ∧ name = tuiDssName) :
    Settles mtk name (sentBy name msgs)
      (if getCfgState name msgs = -1 then tuiPollCfgFail else tuiPollCfgOk) := by
  have value := getCfgState_eq name msgs
  unfold Settles
  cases found : (sentBy name msgs).find? TuiMsg.isResult with
  | none =>
      have zero : getCfgState name msgs = 0 := getCfgState_zero_iff.mpr found
      have notFailed : getCfgState name msgs ≠ -1 := by rw [zero]; decide
      rw [if_neg notFailed]
      exact ⟨(ready zero).1, (ready zero).2, rfl⟩
  | some msg =>
      simp only [found] at value
      have result := List.find?_some found
      rw [TuiMsg.isResult, Bool.or_eq_true, beq_iff_eq, beq_iff_eq] at result
      rcases result with ok | fail
      · have one : getCfgState name msgs = 1 := by rw [value, if_pos ok]
        have notFailed : getCfgState name msgs ≠ -1 := by rw [one]; decide
        rw [if_neg notFailed]
        exact ok.symm
      · have notOk : msg.type ≠ tuiPollCfgOk := by rw [fail]; decide
        have failed : getCfgState name msgs = -1 := by rw [value, if_neg notOk]
        rw [if_pos failed]
        exact fail.symm

/-! ### Every run -/

/-- What is on the list is what the history has left there, and the thread sleeps only where
no result waits for it. -/
structure MsgQueue.Sound (mtk : Bool) (queue : MsgQueue) : Prop where
  follow : AnswersFollow mtk queue.history
  sent : ∀ name, Polled name → sentBy name queue.msgs = pending name queue.history
  polled : ∀ name, queue.place = .looks name ∨ queue.place = .decides name ∨
    queue.place = .waits name → Polled name
  decides : ∀ name, queue.place = .decides name → mtk = true ∧ name = tuiDssName
  waits : ∀ name, queue.place = .waits name → queue.msgFlag = false →
    getCfgState name queue.msgs = 0

namespace MsgQueue

variable {mtk : Bool} {queue after : MsgQueue}

theorem initial_sound : MsgQueue.initial.Sound mtk := by
  constructor
  · trivial
  · intro name _polled
    rfl
  · rintro name (looks | decides | waits)
    · cases looks
    · cases decides
    · cases waits
  · rintro name ⟨⟩
  · rintro name ⟨⟩

theorem Sound.congr (sound : queue.Sound mtk) (msgs : after.msgs = queue.msgs)
    (history : after.history = queue.history) (flag : after.msgFlag = queue.msgFlag)
    (place : after.place = queue.place) : after.Sound mtk := by
  constructor
  · rw [history]
    exact sound.follow
  · rw [msgs, history]
    exact sound.sent
  · rw [place]
    exact sound.polled
  · rw [place]
    exact sound.decides
  · rw [place, flag, msgs]
    exact sound.waits

theorem sendTuiMsgConfig_sound (sound : queue.Sound mtk) (msg : TuiMsg) (registered : Bool) :
    (queue.sendTuiMsgConfig msg registered).Sound mtk := by
  unfold sendTuiMsgConfig
  split
  · exact sound
  · split
    · exact sound
    · split
      · exact sound
      · split
        · exact sound
        · exact sound.congr rfl rfl rfl rfl

theorem addTuiMsg_sound (sound : queue.Sound mtk) (msg : TuiMsg) (kzalloc : Bool) :
    (queue.addTuiMsg msg kzalloc).Sound mtk := by
  unfold addTuiMsg
  split
  · exact sound.congr rfl rfl rfl rfl
  · constructor
    · exact sound.follow
    · intro name polled
      rw [sentBy_append_single, sound.sent name polled]
      rfl
    · exact sound.polled
    · exact sound.decides
    · rintro name _waits ⟨⟩

theorem initTuiDssMsg_sound (sound : queue.Sound mtk) (idle : queue.place = .idle) :
    queue.initTuiDssMsg.Sound mtk := by
  constructor
  · exact sound.follow
  · intro name polled
    show sentBy name (tuiMsgDel tuiDssName queue.msgs) =
      if name = tuiDssName then [] else pending name queue.history
    split
    · next same =>
        subst same
        exact sentBy_tuiMsgDel_self _ _
    · next apart =>
        rw [sentBy_tuiMsgDel_other polled (.inl rfl) apart]
        exact sound.sent name polled
  · exact sound.polled
  · exact sound.decides
  · intro name waits
    have place : queue.place = .waits name := waits
    rw [idle] at place
    cases place

theorem looks_sound (sound : queue.Sound mtk) {name : List Char} (polled : Polled name) :
    { queue with place := .looks name }.Sound mtk := by
  constructor
  · exact sound.follow
  · exact sound.sent
  · rintro other (here | ⟨⟨⟩⟩ | ⟨⟨⟩⟩)
    cases here
    exact polled
  · rintro other ⟨⟩
  · rintro other ⟨⟩

theorem processTuiMsg_sound (sound : queue.Sound mtk) (value : Nat) :
    (queue.processTuiMsg value).Sound mtk := by
  unfold processTuiMsg
  split
  · exact looks_sound sound (.inl rfl)
  · split
    · exact looks_sound sound (.inr rfl)
    · exact sound

theorem answer_sound (sound : queue.Sound mtk) {name : List Char} (polled : Polled name)
    (ready : getCfgState name queue.msgs = 0 → mtk = true ∧ name = tuiDssName) :
    (queue.answer name).Sound mtk := by
  constructor
  · refine ⟨?_, sound.follow⟩
    rw [← sound.sent name polled]
    exact settles_answer ready
  · intro other asked
    show sentBy other (tuiMsgDel name queue.msgs) =
      if other = name then [] else pending other queue.history
    split
    · next same =>
        subst same
        exact sentBy_tuiMsgDel_self _ _
    · next apart =>
        rw [sentBy_tuiMsgDel_other asked polled apart]
        exact sound.sent other asked
  · rintro other (⟨⟨⟩⟩ | ⟨⟨⟩⟩ | ⟨⟨⟩⟩)
  · rintro other ⟨⟩
  · rintro other ⟨⟩

theorem poll_sound (sound : queue.Sound mtk) {signal : Bool}
    (taken : queue.poll mtk signal = some after) : after.Sound mtk := by
  unfold poll at taken
  split at taken
  · cases taken
  · next name place =>
      have polled : Polled name := sound.polled name (.inl place)
      split at taken
      · next empty =>
          cases taken
          constructor
          · exact sound.follow
          · exact sound.sent
          · intro other place
            dsimp only at place
            split at place
            · rcases place with ⟨⟨⟩⟩ | ⟨⟨⟩⟩ | ⟨⟨⟩⟩
              exact polled
            · rcases place with ⟨⟨⟩⟩ | ⟨⟨⟩⟩ | ⟨⟨⟩⟩
              exact polled
          · intro other decides
            dsimp only at decides
            split at decides
            · next dss =>
                cases decides
                exact dss
            · cases decides
          · intro other waits _flag
            dsimp only at waits
            split at waits
            · cases waits
            · cases waits
              exact empty
      · next there =>
          cases taken
          exact answer_sound sound polled fun zero => absurd zero there
  · next name place =>
      cases taken
      exact answer_sound sound (sound.polled name (.inr (.inl place)))
        fun _ => sound.decides name place
  · next name place =>
      split at taken
      · cases taken
        exact looks_sound sound (sound.polled name (.inr (.inr place)))
      · cases taken

theorem Sound.exec (sound : queue.Sound mtk) {label : MsgLabel}
    (taken : queue.exec mtk label = some after) : after.Sound mtk := by
  cases label with
  | setTuiState state =>
      simp only [MsgQueue.exec] at taken
      split at taken
      · cases taken
        exact sound.congr rfl rfl rfl rfl
      · cases taken
  | initTuiDssMsg =>
      simp only [MsgQueue.exec] at taken
      split at taken
      · next idle =>
          cases taken
          exact initTuiDssMsg_sound sound idle
      · cases taken
  | processTuiMsg value =>
      simp only [MsgQueue.exec] at taken
      split at taken
      · cases taken
        exact processTuiMsg_sound sound value
      · cases taken
  | poll signal => exact poll_sound sound taken
  | sendTuiMsgConfig msg registered =>
      cases taken
      exact sendTuiMsgConfig_sound sound msg registered
  | addTuiMsg msg kzalloc =>
      simp only [MsgQueue.exec] at taken
      split at taken
      · cases taken
        exact addTuiMsg_sound sound msg kzalloc
      · cases taken

theorem Sound.of_reachable (reached : (msgMachine mtk).Reachable queue) : queue.Sound mtk := by
  apply reached.invariant
  · rintro _ rfl
    exact initial_sound
  · intro before label after sound taken
    exact sound.exec taken

/-- A thread that waits while a result is there is awake after one step, and answers with it
after the next. -/
theorem Sound.wakes (sound : queue.Sound mtk) {name : List Char} {msg : TuiMsg}
    (waits : queue.place = .waits name)
    (found : (pending name queue.history).find? TuiMsg.isResult = some msg) :
    ∃ looking answered, queue.poll mtk false = some looking ∧
      looking.poll mtk false = some answered ∧
      answered.history = .answered name msg.type :: queue.history := by
  have polled : Polled name := sound.polled name (.inr (.inr waits))
  rw [← sound.sent name polled] at found
  have there : getCfgState name queue.msgs ≠ 0 := by
    intro zero
    rw [getCfgState_zero_iff.mp zero] at found
    cases found
  have awake : queue.msgFlag = true := by
    cases flag : queue.msgFlag with
    | true => rfl
    | false => exact absurd (sound.waits name waits flag) there
  refine ⟨{ queue with place := .looks name }, queue.answer name, ?_, if_neg there, ?_⟩
  · unfold poll
    rw [waits]
    exact if_pos (.inl awake)
  · have settles : Settles mtk name (sentBy name queue.msgs)
        (if getCfgState name queue.msgs = -1 then tuiPollCfgFail else tuiPollCfgOk) :=
      settles_answer fun zero => absurd zero there
    unfold Settles at settles
    rw [found] at settles
    exact congrArg (fun type => .answered name type :: queue.history) settles

end MsgQueue

/-- The list has what the history has left there, every answer that the TEE gets is the first
result that its driver has sent since its messages were last taken (for DSS, or dropped), and
no result finds the agent's thread asleep for good. -/
theorem tui_answers_follow {mtk : Bool} {queue : MsgQueue}
    (reached : (msgMachine mtk).Reachable queue) :
    AnswersFollow mtk queue.history ∧
      (∀ name, Polled name → sentBy name queue.msgs = pending name queue.history) ∧
      ∀ name msg, queue.place = .waits name →
        (pending name queue.history).find? TuiMsg.isResult = some msg →
          ∃ looking answered, queue.poll mtk false = some looking ∧
            looking.poll mtk false = some answered ∧
            answered.history = .answered name msg.type :: queue.history := by
  have sound := MsgQueue.Sound.of_reachable reached
  exact ⟨sound.follow, sound.sent, fun _ _ waits found => sound.wakes waits found⟩

/-- The touch panel answers too late for one round and is asked in the next one; then DSS
answers while the thread waits for it. -/
def staleRun : List MsgLabel :=
  [.setTuiState .config, .initTuiDssMsg, .sendTuiMsgConfig ⟨tuiPollCfgFail, tuiTpName⟩ true,
    .setTuiState .unused, .addTuiMsg ⟨tuiPollCfgFail, tuiTpName⟩ true,
    .setTuiState .config, .initTuiDssMsg, .processTuiMsg 2, .poll false,
    .processTuiMsg 1, .poll false, .sendTuiMsgConfig ⟨tuiPollCfgOk, tuiDssName⟩ true,
    .addTuiMsg ⟨tuiPollCfgOk, tuiDssName⟩ true]

def staleHistory : List MsgEvent :=
  [.added ⟨tuiPollCfgOk, tuiDssName⟩, .answered tuiTpName tuiPollCfgFail, .dropped,
    .added ⟨tuiPollCfgFail, tuiTpName⟩, .dropped]

theorem staleRun_reached :
    ∃ queue, (msgMachine false).Reachable queue ∧
      decide (queue.history = staleHistory ∧ queue.place = .waits tuiDssName) = true := by
  have sound : ∀ before label after, MsgQueue.exec false before label = some after →
      (msgMachine false).step before label after := fun _ _ _ taken => taken
  have booted : (msgMachine false).Reachable .initial := .start rfl
  have ran : (Machine.replay (MsgQueue.exec false) .initial staleRun).map (fun queue =>
      decide (queue.history = staleHistory ∧ queue.place = .waits tuiDssName)) =
        some true := by decide
  exact Machine.Reachable.exists_of_replay sound booted ran

theorem tui_answers_follow_stale :
    AnswersFollow false staleHistory ∧
      ∃ queue : MsgQueue, queue.history = staleHistory ∧ sentBy tuiTpName queue.msgs = [] ∧
        ∃ looking answered, queue.poll false false = some looking ∧
          looking.poll false false = some answered ∧
          answered.history = .answered tuiDssName tuiPollCfgOk :: staleHistory := by
  obtain ⟨queue, reached, both⟩ := staleRun_reached
  obtain ⟨history, waits⟩ := of_decide_eq_true both
  obtain ⟨follow, sent, wakes⟩ := tui_answers_follow reached
  rw [history] at follow sent wakes
  refine ⟨follow, queue, history, sent tuiTpName (.inr rfl), ?_⟩
  exact wakes tuiDssName ⟨tuiPollCfgOk, tuiDssName⟩ waits (by decide)

end TzDriver.Tui
