/-
The hand-shake between the CAs and an agent over one node (`linux/core/agent.c`), one
access to the node at a time.

`ret_flag` shows the agent that a request is there, `ca_run` shows the CA that it is
answered.  Requests are numbered here, which the driver does not do: who set `ca_run`
last, and for which request, is only recorded to say whose answer a CA got.
-/

import Mathlib.Data.Multiset.AddSub
import TzDriver.Agent.Node
import TzDriver.Lib.Runs

namespace TzDriver.Agent

open TzDriver.Lib

/-- Who set `ca_run`: the agent for a request it had taken, or `send_event_response`
after a crash. -/
inductive Source where
  | agent (request : Nat)
  | crash
deriving DecidableEq, Repr

/-- Where a CA stands in `agent_process_work`. -/
inductive CaPoint where
  | checkCrashed
  | postRequest
  /-- in `wait_agent_response`, on the queue as it was initialised the `inits`-th time -/
  | waitAgentResponse (inits : Nat)
  /-- killed, about to clear `ret_flag` -/
  | withdraw
  /-- about to clear `ca_run` and return 0 -/
  | answered (source : Option Source)
  /-- about to clear `ca_run` and return `-EFAULT` -/
  | killed
deriving DecidableEq, Repr

structure Ca where
  request : Nat
  point : CaPoint
deriving DecidableEq, Repr

/-- Where a thread stands in `process_send_event_response`. -/
inductive Responding where
  | check
  | clearRetFlag
  | setCaRun
deriving DecidableEq, Repr

/-- The agent's loop of `tc_ns_wait_event` and `tc_ns_send_event_response`. -/
inductive AgentLoop where
  | dead
  | idle
  | waitEvent
  | took (request : Nat)
  | responding (request : Nat) (point : Responding)
deriving DecidableEq, Repr

/-- Where a thread stands in `send_event_response`. -/
inductive CrashPoint where
  | setCrashed
  | responding (point : Responding)
deriving DecidableEq, Repr

structure Handshake where
  node : SmcEventData
  /-- how often `init_restart_agent_node` has initialised the queues -/
  inits : Nat
  agent : AgentLoop
  cas : Multiset Ca
  crashes : Multiset CrashPoint
  /-- the request that set `ret_flag` last -/
  posted : Nat
  requests : Nat
  answer : Option Source
  /-- the requests for which `agent_process_work` returned 0, with whose answer -/
  completed : List (Nat × Option Source)

inductive HandshakeLabel where
  | request
  | ca (ca : Ca) (killed : Bool)
  | agent (interrupted : Bool)
  | die
  | crash (point : CrashPoint)
  | restart (devFile : Nat)

namespace Handshake

variable (shake : Handshake)

def changeNode (with_ : SmcEventData → SmcEventData) : Handshake :=
  { shake with node := with_ shake.node }

def move (ca : Ca) (point : CaPoint) : Handshake :=
  { shake with cas := ⟨ca.request, point⟩ ::ₘ shake.cas.erase ca }

def leave (ca : Ca) : Handshake :=
  { shake with cas := shake.cas.erase ca }

def stepCa (ca : Ca) (killed : Bool) : Option Handshake :=
  match ca.point with
  | .checkCrashed =>
      if shake.node.agentReady = .crashed then some (shake.leave ca)
      else some (shake.move ca .postRequest)
  | .postRequest =>
      some { (shake.changeNode fun node => { node with retFlag := true }).move ca
          (.waitAgentResponse shake.inits) with posted := ca.request }
  | .waitAgentResponse _ =>
      if shake.node.caRun = true then some (shake.move ca (.answered shake.answer))
      else if killed = true then some (shake.move ca .withdraw)
      else none
  | .withdraw =>
      some ((shake.changeNode fun node => { node with retFlag := false }).move ca .killed)
  | .answered source =>
      some { (shake.changeNode fun node => { node with caRun := false }).leave ca with
        completed := shake.completed ++ [(ca.request, source)] }
  | .killed => some ((shake.changeNode fun node => { node with caRun := false }).leave ca)

/-- One access of `process_send_event_response`, and where the thread goes; `none` is
its return. -/
def respond (source : Source) : Responding → Handshake × Option Responding
  | .check => (shake, if shake.node.retFlag = true then some .clearRetFlag else none)
  | .clearRetFlag => (shake.changeNode fun node => { node with retFlag := false }, some .setCaRun)
  | .setCaRun =>
      ({ shake.changeNode fun node => { node with caRun := true } with answer := some source }, none)

def stepAgent (interrupted : Bool) : Option Handshake :=
  match shake.agent with
  | .dead => none
  | .idle =>
      some { shake.changeNode fun node => { node with agentReady := .ready } with agent := .waitEvent }
  | .waitEvent =>
      if shake.node.retFlag = true then some { shake with agent := .took shake.posted }
      else if interrupted = true then some { shake with agent := .idle }
      else none
  | .took request => some { shake with agent := .responding request .check }
  | .responding request point =>
      let (after, next) := shake.respond (.agent request) point
      some { after with
        agent := match next with
          | some point => .responding request point
          | none => .idle }

def stepCrash (point : CrashPoint) : Handshake :=
  match point with
  | .setCrashed =>
      { shake.changeNode fun node => { node with agentReady := .crashed } with
        crashes := .responding .check ::ₘ shake.crashes.erase point }
  | .responding at_ =>
      let (after, next) := shake.respond .crash at_
      { after with
        crashes := match next with
          | some at_ => .responding at_ ::ₘ shake.crashes.erase point
          | none => shake.crashes.erase point }

def step : HandshakeLabel → Option Handshake
  | .request =>
      some { shake with
        cas := ⟨shake.requests, .checkCrashed⟩ ::ₘ shake.cas
        requests := shake.requests + 1 }
  | .ca ca killed => if ca ∈ shake.cas then shake.stepCa ca killed else none
  | .agent interrupted => shake.stepAgent interrupted
  | .die =>
      -- an agent dies outside the driver or in its wait, and its fd is released after that
      match shake.agent with
      | .dead => none
      | .responding _ _ => none
      | _ => some { shake with agent := .dead, crashes := .setCrashed ::ₘ shake.crashes }
  | .crash point => if point ∈ shake.crashes then some (shake.stepCrash point) else none
  | .restart devFile =>
      if shake.node.agentReady = .crashed then
        some { shake with
          node := shake.node.initRestartAgentNode devFile
          inits := shake.inits + 1
          agent := .idle }
      else none

end Handshake

/-- A registered agent, and then any CAs, crashes and restarts. -/
def handshakeMachine : Machine Handshake HandshakeLabel :=
  { init := fun shake => shake.node.agentReady = .registered ∧ shake.node.retFlag = false ∧
      shake.node.caRun = false ∧ shake.agent = .idle ∧ shake.cas = 0 ∧ shake.crashes = 0 ∧
      shake.completed = []
    step := fun before label after => before.step label = some after }

/-- The TEE issues a request only when the last one's CA has returned. -/
def TeeInTurn (shake : Handshake) : HandshakeLabel → Prop
  | .request => shake.cas = 0
  | _ => True

instance (shake : Handshake) (label : HandshakeLabel) : Decidable (TeeInTurn shake label) :=
  match label with
  | .request => inferInstanceAs (Decidable (shake.cas = 0))
  | .ca _ _ => inferInstanceAs (Decidable True)
  | .agent _ => inferInstanceAs (Decidable True)
  | .die => inferInstanceAs (Decidable True)
  | .crash _ => inferInstanceAs (Decidable True)
  | .restart _ => inferInstanceAs (Decidable True)

def newHandshake : Handshake :=
  { node := ⟨1, .registered, false, 0, 4096, 0, 4096, 1, false, [], [], []⟩
    inits := 0
    agent := .idle
    cas := 0
    crashes := 0
    posted := 0
    requests := 0
    answer := none
    completed := [] }

theorem newHandshake_init : handshakeMachine.init newHandshake :=
  ⟨rfl, rfl, rfl, rfl, rfl, rfl, rfl⟩

theorem handshake_step_sound (before : Handshake) (label : HandshakeLabel) (after : Handshake)
    (taken : before.step label = some after) : handshakeMachine.step before label after := taken

end TzDriver.Agent
