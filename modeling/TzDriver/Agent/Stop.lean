/-
The end of a kernel agent (`def_tee_agent_work` and `def_tee_agent_stop` of
`linux/core/agent.c`), as `free_agent` runs it when the module is unloaded.

The agent's thread sleeps in `tc_ns_wait_event` until `ret_flag` is set.  `kthread_stop` wakes
it; whether that ends an interruptible wait whose condition does not hold depends on the kernel.
-/

import Mathlib.Data.Multiset.AddSub
import TzDriver.Agent.Node
import TzDriver.Lib.Progress

namespace TzDriver.Agent

open TzDriver.Lib

/-- Where `def_tee_agent_work` stands. -/
inductive WorkPlace where
  /-- at `kthread_should_stop` -/
  | loop
  /-- about to look the node up in `tc_ns_wait_event` -/
  | findWait
  | waitEvent
  | teeAgentWork
  /-- about to look the node up in `tc_ns_send_event_response` -/
  | findRespond
  | respond
  | ended (ret : Int)
deriving DecidableEq, Repr

/-- Where `def_tee_agent_stop` stands. -/
inductive StopPlace where
  | running
  | respond
  | findUnregister
  | allocPack
  | smcUnregister
  | freeEventControl
  | kthreadStop
  /-- in `kthread_stop`, until the thread has ended -/
  | joining
  | stopped
deriving DecidableEq, Repr

/-- Where a CA stands in `agent_process_work`. -/
inductive CallPlace where
  | findNode
  | postRequest
  | waitAgentResponse
  | clearCaRun
deriving DecidableEq, Repr

/-- `listed`: the node is on `g_agent_control.agent_list`.  `shouldStop` is what
`kthread_should_stop` returns. -/
structure KernelAgent where
  node : SmcEventData
  listed : Bool
  shouldStop : Bool
  thread : WorkPlace
  stopper : StopPlace
  calls : Multiset CallPlace

inductive KernelAgentLabel where
  /-- the TEE asks a CA to call the agent -/
  | agentProcessWork
  | call (place : CallPlace) (killed : Bool)
  | thread
  | defTeeAgentStop
  /-- a step of the stop, with what the mailbox or the TEE answers -/
  | stop (granted : Bool)

namespace KernelAgent

variable (agent : KernelAgent)

def changeNode (with_ : SmcEventData → SmcEventData) : KernelAgent :=
  { agent with node := with_ agent.node }

def moveCall (place next : CallPlace) : KernelAgent :=
  { agent with calls := next ::ₘ agent.calls.erase place }

def leaveCall (place : CallPlace) : KernelAgent :=
  { agent with calls := agent.calls.erase place }

/-- A step of `agent_process_work`; the agent of the kernel does not crash. -/
def callStep (killed : Bool) : CallPlace → Option KernelAgent
  | .findNode =>
      if agent.listed = true then some (agent.moveCall .findNode .postRequest)
      else some (agent.leaveCall .findNode)
  | .postRequest =>
      some ((agent.changeNode fun node => { node with retFlag := true }).moveCall
        .postRequest .waitAgentResponse)
  | .waitAgentResponse =>
      if agent.node.caRun = true then some (agent.moveCall .waitAgentResponse .clearCaRun)
      else if killed = true then
        some ((agent.changeNode fun node => { node with retFlag := false }).moveCall
          .waitAgentResponse .clearCaRun)
      else none
  | .clearCaRun =>
      some ((agent.changeNode fun node => { node with caRun := false }).leaveCall .clearCaRun)

/-- A step of `def_tee_agent_work`.  With `breaks`, an interruptible wait ends with
`-ERESTARTSYS` once `kthread_stop` has been called. -/
def threadStep (breaks : Bool) : Option KernelAgent :=
  match agent.thread with
  | .loop =>
      if agent.shouldStop = true then some { agent with thread := .ended 0 }
      else some { agent with thread := .findWait }
  | .findWait =>
      if agent.listed = true then
        some { agent.changeNode fun node => { node with agentReady := .ready } with
          thread := .waitEvent }
      else some { agent with thread := .ended (-eInval) }
  | .waitEvent =>
      if agent.node.retFlag = true then some { agent with thread := .teeAgentWork }
      else if breaks = true ∧ agent.shouldStop = true then
        some { agent with thread := .ended (-eRestartSys) }
      else none
  -- what `tee_agent_work` returns is only logged
  | .teeAgentWork => some { agent with thread := .findRespond }
  | .findRespond =>
      if agent.listed = true then some { agent with thread := .respond }
      else some { agent with thread := .ended (-eInval) }
  | .respond => some { agent.changeNode .processSendEventResponse with thread := .loop }
  | .ended _ => none

/-- A step of `def_tee_agent_stop`. -/
def stopStep (granted : Bool) : Option KernelAgent :=
  match agent.stopper with
  | .running | .stopped => none
  | .respond =>
      if agent.listed = true then
        some { agent.changeNode .processSendEventResponse with stopper := .findUnregister }
      else some { agent with stopper := .findUnregister }
  | .findUnregister =>
      if agent.listed = false ∨ agent.node.agentBuffKernel = 0 then
        some { agent with stopper := .kthreadStop }
      else some { agent with stopper := .allocPack }
  | .allocPack =>
      some { agent with stopper := if granted = true then .smcUnregister else .kthreadStop }
  | .smcUnregister =>
      some { agent with stopper := if granted = true then .freeEventControl else .kthreadStop }
  | .freeEventControl =>
      some { agent.changeNode fun node => { node with agentBuffUser := 0, agentBuffKernel := 0 }
        with listed := false, stopper := .kthreadStop }
  | .kthreadStop => some { agent with shouldStop := true, stopper := .joining }
  | .joining =>
      match agent.thread with
      | .ended _ => some { agent with stopper := .stopped }
      | _ => none

end KernelAgent

def KernelAgent.exec (breaks : Bool) (agent : KernelAgent) : KernelAgentLabel → Option KernelAgent
  | .agentProcessWork => some { agent with calls := .findNode ::ₘ agent.calls }
  | .call place killed =>
      if place ∈ agent.calls then agent.callStep killed place else none
  | .thread => agent.threadStep breaks
  | .defTeeAgentStop =>
      if agent.stopper = .running then some { agent with stopper := .respond } else none
  | .stop granted => agent.stopStep granted

/-- From the start of the thread in `def_tee_agent_run` on. -/
def kernelAgentMachine (breaks : Bool) : Machine KernelAgent KernelAgentLabel :=
  { init := fun agent => agent.listed = true ∧ agent.node.retFlag = false ∧
      agent.shouldStop = false ∧ agent.thread = .loop ∧ agent.stopper = .running ∧
      agent.calls = 0
    step := fun before label after => before.exec breaks label = some after }

namespace KernelAgent

variable {breaks : Bool} {agent after : KernelAgent}

/-- Nobody is left to wake the thread: no request is there, none can be posted, and no CA can
find the node any more. -/
structure Asleep (agent : KernelAgent) : Prop where
  waits : agent.thread = .waitEvent
  noRequest : agent.node.retFlag = false
  unlisted : agent.listed = false
  noCaller : .postRequest ∉ agent.calls

/-- `kthread_stop` waits for a thread that nobody wakes. -/
structure Hung (agent : KernelAgent) : Prop where
  joining : agent.stopper = .joining
  asleep : agent.Asleep

/-! ### The stop that waits for ever -/

theorem not_mem_move {calls : Multiset CallPlace} {place next sought : CallPlace}
    (absent : sought ∉ calls) (other : sought ≠ next) : sought ∉ next ::ₘ calls.erase place := by
  intro member
  rcases Multiset.mem_cons.mp member with same | inRest
  · exact other same
  · exact absent (Multiset.mem_of_mem_erase inRest)

/-- A CA changes neither the thread nor the stop. -/
theorem callStep_frame {place : CallPlace} {killed : Bool}
    (taken : agent.callStep killed place = some after) :
    ∃ node calls, after = { agent with node := node, calls := calls } := by
  cases place with
  | findNode =>
      simp only [callStep] at taken
      split at taken
      · cases taken
        exact ⟨_, _, rfl⟩
      · cases taken
        exact ⟨_, _, rfl⟩
  | postRequest =>
      cases taken
      exact ⟨_, _, rfl⟩
  | waitAgentResponse =>
      simp only [callStep] at taken
      split at taken
      · cases taken
        exact ⟨_, _, rfl⟩
      · split at taken
        · cases taken
          exact ⟨_, _, rfl⟩
        · cases taken
  | clearCaRun =>
      cases taken
      exact ⟨_, _, rfl⟩

theorem Asleep.callStep (asleep : agent.Asleep) {place : CallPlace} {killed : Bool}
    (member : place ∈ agent.calls) (taken : agent.callStep killed place = some after) :
    after.Asleep := by
  have absent := asleep.noCaller
  cases place with
  | findNode =>
      rw [KernelAgent.callStep, asleep.unlisted] at taken
      cases taken
      exact ⟨asleep.waits, asleep.noRequest, asleep.unlisted,
        fun inRest => absent (Multiset.mem_of_mem_erase inRest)⟩
  | postRequest => exact absurd member absent
  | waitAgentResponse =>
      have stays := @not_mem_move _ .waitAgentResponse .clearCaRun _ absent (by decide)
      simp only [KernelAgent.callStep] at taken
      split at taken
      · cases taken
        exact ⟨asleep.waits, asleep.noRequest, asleep.unlisted, stays⟩
      · split at taken
        · cases taken
          exact ⟨asleep.waits, rfl, asleep.unlisted, stays⟩
        · cases taken
  | clearCaRun =>
      cases taken
      exact ⟨asleep.waits, asleep.noRequest, asleep.unlisted,
        fun inRest => absent (Multiset.mem_of_mem_erase inRest)⟩

theorem Asleep.not_threadStep (asleep : agent.Asleep) : agent.threadStep false = none := by
  rw [threadStep, asleep.waits]
  simp [asleep.noRequest]

theorem Hung.exec (hung : agent.Hung) {label : KernelAgentLabel}
    (taken : agent.exec false label = some after) : after.Hung := by
  have asleep := hung.asleep
  cases label with
  | agentProcessWork =>
      cases taken
      constructor
      · exact hung.joining
      · exact ⟨asleep.waits, asleep.noRequest, asleep.unlisted,
          Multiset.mem_cons.not.mpr (not_or.mpr ⟨by decide, asleep.noCaller⟩)⟩
  | call place killed =>
      simp only [KernelAgent.exec] at taken
      split at taken
      · next member =>
          constructor
          · obtain ⟨node, calls, rfl⟩ := callStep_frame taken
            exact hung.joining
          · exact asleep.callStep member taken
      · cases taken
  | thread =>
      rw [KernelAgent.exec, asleep.not_threadStep] at taken
      cases taken
  | defTeeAgentStop =>
      rw [KernelAgent.exec, hung.joining] at taken
      cases taken
  | stop granted =>
      simp only [KernelAgent.exec, stopStep, hung.joining, asleep.waits] at taken
      cases taken

/-! ### The stop that returns -/

/-- In `kthread_stop`, with the order to stop given. -/
structure Joining (agent : KernelAgent) : Prop where
  place : agent.stopper = .joining
  told : agent.shouldStop = true

/-- Some run from the state lets `def_tee_agent_stop` return. -/
abbrev CanStop (breaks : Bool) (agent : KernelAgent) : Prop :=
  (kernelAgentMachine breaks).CanReach (fun later => later.stopper = .stopped) agent

theorem Joining.of_ended (joining : agent.Joining) {ret : Int}
    (thread : agent.thread = .ended ret) : agent.CanStop breaks := by
  have taken : agent.exec breaks (.stop true) = some { agent with stopper := .stopped } := by
    simp only [KernelAgent.exec, stopStep, joining.place, thread]
  apply Machine.CanReach.before _ taken
  exact .here rfl

theorem Joining.of_loop (joining : agent.Joining) (thread : agent.thread = .loop) :
    agent.CanStop breaks := by
  have taken : agent.exec breaks .thread = some { agent with thread := .ended 0 } := by
    simp only [KernelAgent.exec, threadStep, thread, joining.told, if_true]
  apply Machine.CanReach.before _ taken
  exact Joining.of_ended ⟨joining.place, joining.told⟩ rfl

theorem Joining.of_respond (joining : agent.Joining) (thread : agent.thread = .respond) :
    agent.CanStop breaks := by
  have taken : agent.exec breaks .thread =
      some { agent.changeNode .processSendEventResponse with thread := .loop } := by
    simp only [KernelAgent.exec, threadStep, thread]
  apply Machine.CanReach.before _ taken
  exact Joining.of_loop ⟨joining.place, joining.told⟩ rfl

theorem Joining.of_findRespond (joining : agent.Joining) (thread : agent.thread = .findRespond) :
    agent.CanStop breaks := by
  cases listed : agent.listed with
  | true =>
      have taken : agent.exec breaks .thread = some { agent with thread := .respond } := by
        simp only [KernelAgent.exec, threadStep, thread, listed, if_true]
      apply Machine.CanReach.before _ taken
      exact Joining.of_respond ⟨joining.place, joining.told⟩ rfl
  | false =>
      have taken : agent.exec breaks .thread = some { agent with thread := .ended (-eInval) } := by
        simp only [KernelAgent.exec, threadStep, thread, listed]
        rfl
      apply Machine.CanReach.before _ taken
      exact Joining.of_ended ⟨joining.place, joining.told⟩ rfl

theorem Joining.of_work (joining : agent.Joining) (thread : agent.thread = .teeAgentWork) :
    agent.CanStop breaks := by
  have taken : agent.exec breaks .thread = some { agent with thread := .findRespond } := by
    simp only [KernelAgent.exec, threadStep, thread]
  apply Machine.CanReach.before _ taken
  exact Joining.of_findRespond ⟨joining.place, joining.told⟩ rfl

theorem Joining.of_request (joining : agent.Joining) (thread : agent.thread = .waitEvent)
    (request : agent.node.retFlag = true) : agent.CanStop breaks := by
  have taken : agent.exec breaks .thread = some { agent with thread := .teeAgentWork } := by
    simp only [KernelAgent.exec, threadStep, thread, request, if_true]
  apply Machine.CanReach.before _ taken
  exact Joining.of_work ⟨joining.place, joining.told⟩ rfl

theorem Joining.of_caller (joining : agent.Joining) (thread : agent.thread = .waitEvent)
    (caller : .postRequest ∈ agent.calls) : agent.CanStop breaks := by
  have taken : agent.exec breaks (.call .postRequest false) =
      some ((agent.changeNode fun node => { node with retFlag := true }).moveCall
        .postRequest .waitAgentResponse) := by
    simp only [KernelAgent.exec, callStep, caller, if_true]
  apply Machine.CanReach.before _ taken
  exact Joining.of_request ⟨joining.place, joining.told⟩ thread rfl

theorem Joining.of_listed (joining : agent.Joining) (thread : agent.thread = .waitEvent)
    (listed : agent.listed = true) : agent.CanStop breaks := by
  have comes : agent.exec breaks .agentProcessWork =
      some { agent with calls := .findNode ::ₘ agent.calls } := rfl
  apply Machine.CanReach.before _ comes
  have finds : KernelAgent.exec breaks { agent with calls := .findNode ::ₘ agent.calls }
      (.call .findNode false) = some (KernelAgent.moveCall
        { agent with calls := .findNode ::ₘ agent.calls } .findNode .postRequest) := by
    simp only [KernelAgent.exec, callStep, Multiset.mem_cons_self, listed, if_true]
  apply Machine.CanReach.before _ finds
  apply Joining.of_caller
  · exact ⟨joining.place, joining.told⟩
  · exact thread
  · exact Multiset.mem_cons_self _ _

theorem Joining.of_breaks (joining : agent.Joining) (thread : agent.thread = .waitEvent) :
    agent.CanStop true := by
  cases request : agent.node.retFlag with
  | true => exact joining.of_request thread request
  | false =>
      have taken : agent.exec true .thread =
          some { agent with thread := .ended (-eRestartSys) } := by
        simp only [KernelAgent.exec, threadStep, thread, request, joining.told]
        rfl
      apply Machine.CanReach.before _ taken
      exact Joining.of_ended ⟨joining.place, joining.told⟩ rfl

theorem Joining.of_findWait (joining : agent.Joining) (thread : agent.thread = .findWait) :
    agent.CanStop breaks := by
  cases listed : agent.listed with
  | true =>
      have taken : agent.exec breaks .thread =
          some { agent.changeNode fun node => { node with agentReady := .ready } with
            thread := .waitEvent } := by
        simp only [KernelAgent.exec, threadStep, thread, listed, if_true]
      apply Machine.CanReach.before _ taken
      exact Joining.of_listed ⟨joining.place, joining.told⟩ rfl listed
  | false =>
      have taken : agent.exec breaks .thread = some { agent with thread := .ended (-eInval) } := by
        simp only [KernelAgent.exec, threadStep, thread, listed]
        rfl
      apply Machine.CanReach.before _ taken
      exact Joining.of_ended ⟨joining.place, joining.told⟩ rfl

theorem Joining.canStop (joining : agent.Joining) (awake : breaks = true ∨ ¬agent.Asleep) :
    agent.CanStop breaks := by
  cases thread : agent.thread with
  | loop => exact joining.of_loop thread
  | findWait => exact joining.of_findWait thread
  | teeAgentWork => exact joining.of_work thread
  | findRespond => exact joining.of_findRespond thread
  | respond => exact joining.of_respond thread
  | ended ret => exact joining.of_ended thread
  | waitEvent =>
      rcases awake with rfl | awake
      · exact joining.of_breaks thread
      · by_cases caller : .postRequest ∈ agent.calls
        · exact joining.of_caller thread caller
        · cases listed : agent.listed with
          | true => exact joining.of_listed thread listed
          | false =>
              cases request : agent.node.retFlag with
              | true => exact joining.of_request thread request
              | false => exact absurd ⟨thread, request, listed, caller⟩ awake

/-- Whoever waits in `kthread_stop` has given the order before. -/
def Told (agent : KernelAgent) : Prop :=
  agent.stopper = .joining → agent.shouldStop = true

theorem Told.threadStep (told : agent.Told) (taken : agent.threadStep breaks = some after) :
    after.Told := by
  cases thread : agent.thread with
  | ended ret =>
      simp only [KernelAgent.threadStep, thread] at taken
      cases taken
  | loop | findWait | findRespond =>
      simp only [KernelAgent.threadStep, thread] at taken
      split at taken
      · cases taken
        exact told
      · cases taken
        exact told
  | waitEvent =>
      simp only [KernelAgent.threadStep, thread] at taken
      split at taken
      · cases taken
        exact told
      · split at taken
        · cases taken
          exact told
        · cases taken
  | teeAgentWork | respond =>
      simp only [KernelAgent.threadStep, thread] at taken
      cases taken
      exact told

theorem Told.stopStep {granted : Bool} (taken : agent.stopStep granted = some after) :
    after.Told := by
  cases stopper : agent.stopper with
  | running | stopped =>
      simp only [KernelAgent.stopStep, stopper] at taken
      cases taken
  | respond | findUnregister =>
      simp only [KernelAgent.stopStep, stopper] at taken
      split at taken
      · cases taken
        rintro ⟨⟩
      · cases taken
        rintro ⟨⟩
  | allocPack | smcUnregister =>
      simp only [KernelAgent.stopStep, stopper] at taken
      cases taken
      cases granted with
      | true => rintro ⟨⟩
      | false => rintro ⟨⟩
  | freeEventControl =>
      simp only [KernelAgent.stopStep, stopper] at taken
      cases taken
      rintro ⟨⟩
  | kthreadStop =>
      simp only [KernelAgent.stopStep, stopper] at taken
      cases taken
      intro _
      rfl
  | joining =>
      simp only [KernelAgent.stopStep, stopper] at taken
      split at taken
      · cases taken
        rintro ⟨⟩
      · cases taken

theorem Told.of_reachable (reached : (kernelAgentMachine breaks).Reachable agent) :
    agent.Told := by
  apply reached.invariant
  · intro start initial waits
    rw [initial.2.2.2.2.1] at waits
    cases waits
  · intro before label after told taken
    cases label with
    | agentProcessWork =>
        cases taken
        exact told
    | call place killed =>
        simp only [kernelAgentMachine, KernelAgent.exec] at taken
        split at taken
        · obtain ⟨node, calls, rfl⟩ := callStep_frame taken
          exact told
        · cases taken
    | thread => exact told.threadStep taken
    | defTeeAgentStop =>
        simp only [kernelAgentMachine, KernelAgent.exec] at taken
        split at taken
        · cases taken
          rintro ⟨⟩
        · cases taken
    | stop granted => exact Told.stopStep taken

end KernelAgent

/-- `def_tee_agent_stop` can return exactly if the kernel lets `kthread_stop` end an interruptible
wait, or the thread is not in its wait with no request there, no CA about to post one, and the
node off the list.  The stop has itself taken the node off the list before. -/
theorem agent_stop_returns_iff {breaks : Bool} {agent : KernelAgent}
    (reached : (kernelAgentMachine breaks).Reachable agent) (waits : agent.stopper = .joining) :
    (∃ later, ((kernelAgentMachine breaks).since agent).Reachable later ∧
      later.stopper = .stopped) ↔ breaks = true ∨ ¬agent.Asleep := by
  have joining : agent.Joining := ⟨waits, KernelAgent.Told.of_reachable reached waits⟩
  constructor
  · intro returns
    cases breaks with
    | true => exact .inl rfl
    | false =>
        right
        intro asleep
        have hung : agent.Hung := ⟨waits, asleep⟩
        apply Machine.not_canReach_of_trap _ _ hung returns
        · intro before label after hung taken
          exact hung.exec taken
        · intro later hung stopped
          rw [hung.joining] at stopped
          cases stopped
  · exact joining.canStop

def idleAgent : KernelAgent :=
  { node := ⟨0x4abe6198, .registered, false, 0, 4096, 0, 4096, 1, false, [], [], []⟩
    listed := true
    shouldStop := false
    thread := .loop
    stopper := .running
    calls := 0 }

/-- The agent answers one request and is stopped while it waits for the next. -/
def stopWhileIdle : List KernelAgentLabel :=
  [.thread, .thread, .agentProcessWork, .call .findNode false, .call .postRequest false,
    .thread, .thread, .thread, .thread, .call .waitAgentResponse false,
    .call .clearCaRun false, .thread, .thread, .defTeeAgentStop, .stop true, .stop true,
    .stop true, .stop true, .stop true, .stop true]

theorem agent_stop_returns_iff_idle : ∃ agent, (kernelAgentMachine false).Reachable agent ∧
    agent.stopper = .joining ∧
    ¬∃ later, ((kernelAgentMachine false).since agent).Reachable later ∧
      later.stopper = .stopped := by
  have booted : (kernelAgentMachine false).Reachable idleAgent :=
    .start ⟨rfl, rfl, rfl, rfl, rfl, rfl⟩
  have ran : ((Machine.replay (KernelAgent.exec false) idleAgent stopWhileIdle).map
      fun agent => decide (agent.stopper = .joining ∧ agent.thread = .waitEvent ∧
        agent.node.retFlag = false ∧ agent.listed = false ∧
        .postRequest ∉ agent.calls)) = some true := by
    decide
  obtain ⟨agent, reached, shown⟩ := booted.exists_of_replay (fun _ _ _ stepped => stepped) ran
  obtain ⟨waits, thread, noRequest, unlisted, noCaller⟩ := of_decide_eq_true shown
  refine ⟨agent, reached, waits, ?_⟩
  rw [agent_stop_returns_iff reached waits]
  rintro (impossible | awake)
  · cases impossible
  · exact awake ⟨thread, noRequest, unlisted, noCaller⟩

end TzDriver.Agent
