/-
The agent calls as threads (`linux/core/agent.c`), one critical section or one shared
access at a time.

A node is known by its index.  It gets one when `add_event_node_to_list` publishes
it: until then it is memory of the registering thread alone, and the thread carries
the record.
-/

import Mathlib.Data.Multiset.AddSub
import TzDriver.Agent.Node
import TzDriver.Lib.Runs

namespace TzDriver.Agent

open TzDriver.Lib

/-- The published nodes and `g_agent_control.agent_list`. -/
structure Registry where
  node : Nat → SmcEventData
  freed : Nat → Bool
  count : Nat
  agentList : List Nat

namespace Registry

variable (registry : Registry)

def change (index : Nat) (with_ : SmcEventData → SmcEventData) : Registry :=
  { registry with
    node := Function.update registry.node index (with_ (registry.node index)) }

def lookup (agentId : UInt32) : Option Nat :=
  registry.agentList.find? fun index => (registry.node index).agentId == agentId

def get (index : Nat) : Registry := registry.change index .getAgentEvent

/-- `put_agent_event`: the last reference frees the node. -/
def put (index : Nat) : Registry :=
  let after := registry.change index .putAgentEvent
  if (after.node index).usage = 0 then
    { after with freed := Function.update registry.freed index true }
  else after

def addEventNodeToList (node : SmcEventData) : Registry :=
  { node := Function.update registry.node registry.count { node with usage := 1 }
    freed := Function.update registry.freed registry.count false
    count := registry.count + 1
    agentList := registry.agentList ++ [registry.count] }

def listDel (index : Nat) : Registry :=
  { registry with agentList := registry.agentList.erase index }

end Registry

/-- The functions that look a node up, use it and put it again. -/
inductive Use where
  | agentProcessWork
  | tcNsWaitEvent
  | tcNsSendEventResponse
  | sendEventResponse
  | isAgentAlive
deriving DecidableEq, Repr

inductive Thread where
  | findEventControl (use : Use) (agentId : UInt32)
  | checkCrashed (node : Nat)
  | postRequest (node : Nat)
  | waitAgentResponse (node : Nat)
  | setReady (node : Nat)
  | waitEvent (node : Nat)
  | setCrashed (node : Nat)
  | respond (node : Nat)
  | putNode (node : Nat)
  | checkExist (request : RegisterRequest)
  | createNode (request : RegisterRequest)
  | mapNew (request : RegisterRequest) (node : SmcEventData)
  | registerToTee (request : RegisterRequest) (node : SmcEventData)
  | addNode (node : SmcEventData)
  | mapAgain (request : RegisterRequest) (node : Nat)
  | findUnregister (agentId : UInt32)
  | checkBuffer (agentId : UInt32) (node : Nat)
  | allocPack (agentId : UInt32) (node : Nat)
  | smcUnregister (agentId : UInt32) (node : Nat)
  | unlinkNode (agentId : UInt32) (node : Nat)
  | clearBuffer (node victim : Nat)
  | putVictim (node victim : Nat)
deriving DecidableEq, Repr

/-- What the world outside decides for a step: whether an allocation, a mapping or a
request to the TEE succeeds, and whether a wait ends without its condition. -/
structure Choice where
  granted : Bool
  address : Nat

/-- The mailbox buffer and the node memory that `create_new_agent_node` gets. -/
def Choice.memory (choice : Choice) : RegisterWorld :=
  { mailboxAlloc := fun _ => if choice.address = 0 then none else some choice.address
    kzalloc := choice.granted
    agentBufferMap := fun _ _ => 0
    registerAgentToTee := fun _ _ _ => 0 }

namespace Thread

/-- One step of a thread; `none` is a step it cannot take, and a thread that
returns is gone. -/
def run (registry : Registry) (choice : Choice) : Thread → Option (Registry × Option Thread)
  | .findEventControl use agentId =>
      match registry.lookup agentId with
      | none => some (registry, none)
      | some node =>
          some (registry.get node, some (match use with
            | .agentProcessWork => .checkCrashed node
            | .tcNsWaitEvent => .setReady node
            | .tcNsSendEventResponse => .respond node
            | .sendEventResponse => .setCrashed node
            | .isAgentAlive => .putNode node))
  | .checkCrashed node =>
      if (registry.node node).agentReady = .crashed then some (registry, some (.putNode node))
      else some (registry, some (.postRequest node))
  | .postRequest node =>
      some (registry.change node fun data => { data with retFlag := true },
        some (.waitAgentResponse node))
  | .waitAgentResponse node =>
      if (registry.node node).caRun = true then
        some (registry.change node fun data => { data with caRun := false },
          some (.putNode node))
      else if choice.granted = true then
        -- the CA is killed and withdraws its request
        some (registry.change node fun data => { data with retFlag := false, caRun := false },
          some (.putNode node))
      else none
  | .setReady node =>
      some (registry.change node fun data => { data with agentReady := .ready },
        some (.waitEvent node))
  | .waitEvent node =>
      if (registry.node node).retFlag = true ∨ choice.granted = true then
        some (registry, some (.putNode node))
      else none
  | .setCrashed node =>
      some (registry.change node fun data => { data with agentReady := .crashed },
        some (.respond node))
  | .respond node =>
      some (registry.change node .processSendEventResponse, some (.putNode node))
  | .putNode node => some (registry.put node, none)
  | .checkExist request =>
      if request.buffer = false ∨ isValidAgent request.bufferSize request.userAgent = false then
        some (registry, none)
      else
        match registry.lookup request.agentId with
        | none => some (registry, some (.createNode request))
        | some node =>
            if (registry.node node).agentReady ≠ .crashed then some (registry, none)
            else
              some ((registry.get node).change node fun data =>
                data.initRestartAgentNode request.devFile, some (.mapAgain request node))
  | .createNode request =>
      match createNewAgentNode choice.memory request.devFile request.agentId
          (alignSize request.bufferSize) with
      | .error _ => some (registry, none)
      | .ok node => some (registry, some (.mapNew request node))
  | .mapNew request node =>
      if request.userAgent = true ∧ isErr choice.address = true then some (registry, none)
      else
        some (registry, some (.registerToTee request
          (if request.userAgent then { node with agentBuffUser := choice.address } else node)))
  | .registerToTee _ node =>
      if choice.granted = true then some (registry, some (.addNode node)) else some (registry, none)
  | .addNode node => some (registry.addEventNodeToList node, none)
  | .mapAgain request node =>
      if request.userAgent = true then
        some (registry.change node fun data => { data with agentBuffUser := choice.address },
          some (.putNode node))
      else some (registry, some (.putNode node))
  | .findUnregister agentId =>
      match registry.lookup agentId with
      | none => some (registry, none)
      | some node => some (registry.get node, some (.checkBuffer agentId node))
  | .checkBuffer agentId node =>
      -- this exit keeps the reference that the lookup took
      if (registry.node node).agentBuffKernel = 0 then some (registry, none)
      else some (registry, some (.allocPack agentId node))
  | .allocPack agentId node =>
      if choice.granted = true then some (registry, some (.smcUnregister agentId node))
      else some (registry, some (.putNode node))
  | .smcUnregister agentId node =>
      if choice.granted = true then some (registry, some (.unlinkNode agentId node))
      else some (registry, some (.putNode node))
  | .unlinkNode agentId node =>
      match registry.lookup agentId with
      | none => some (registry, some (.putNode node))
      | some victim => some (registry.listDel victim, some (.clearBuffer node victim))
  | .clearBuffer node victim =>
      some (registry.change victim fun data =>
        { data with agentBuffUser := 0, agentBuffKernel := 0 }, some (.putVictim node victim))
  | .putVictim node victim => some (registry.put victim, some (.putNode node))

end Thread

/-! ### Runs -/

structure World where
  registry : Registry
  threads : Multiset Thread

inductive Call where
  | lookup (use : Use) (agentId : UInt32)
  | register (request : RegisterRequest)
  | unregister (agentId : UInt32)

def Call.thread : Call → Thread
  | .lookup use agentId => .findEventControl use agentId
  | .register request => .checkExist request
  | .unregister agentId => .findUnregister agentId

inductive Label where
  | start (call : Call)
  | run (thread : Thread) (choice : Choice)

def returned : Option Thread → Multiset Thread
  | none => 0
  | some thread => {thread}

inductive World.Step : World → Label → World → Prop where
  | start {world : World} (call : Call) :
      World.Step world (.start call) ⟨world.registry, call.thread ::ₘ world.threads⟩
  | run {registry after : Registry} {thread : Thread} {rest : Multiset Thread} {choice : Choice}
      {next : Option Thread} (ran : thread.run registry choice = some (after, next)) :
      World.Step ⟨registry, thread ::ₘ rest⟩ (.run thread choice) ⟨after, returned next + rest⟩

/-- Any calls in any number, from an empty agent list. -/
def agentMachine : Machine World Label :=
  { init := fun world => world.registry.agentList = [] ∧ world.registry.count = 0 ∧
      (∀ index, (world.registry.node index).usage = 0 ∧ world.registry.freed index = false) ∧
      world.threads = 0
    step := World.Step }

/-- The step function behind `World.Step`. -/
def World.exec (world : World) : Label → Option World
  | .start call => some ⟨world.registry, call.thread ::ₘ world.threads⟩
  | .run thread choice =>
      if thread ∈ world.threads then
        (thread.run world.registry choice).map fun result =>
          ⟨result.1, returned result.2 + world.threads.erase thread⟩
      else none

theorem World.exec_sound (before : World) (label : Label) (after : World)
    (ran : before.exec label = some after) : World.Step before label after := by
  cases label with
  | start call =>
      obtain rfl := Option.some.inj ran
      exact .start call
  | run thread choice =>
      rw [World.exec] at ran
      split at ran
      · next member =>
          obtain ⟨result, stepped, rfl⟩ := Option.map_eq_some_iff.mp ran
          obtain ⟨registry, threads⟩ := before
          have split : threads = thread ::ₘ threads.erase thread :=
            (Multiset.cons_erase member).symm
          rw [split]
          simpa using World.Step.run stepped
      · cases ran

/-! ### Sample runs -/

def blankNode : SmcEventData :=
  ⟨0, .crashed, false, 0, 0, 0, 0, 0, false, [], [], []⟩

def emptyWorld : World :=
  ⟨⟨fun _ => blankNode, fun _ => false, 0, []⟩, 0⟩

theorem emptyWorld_init : agentMachine.init emptyWorld :=
  ⟨rfl, rfl, fun _ => ⟨rfl, rfl⟩, rfl⟩

/-- The steps of a kernel agent's first registration, once it has passed the check. -/
def finishRegistration (request : RegisterRequest) (address : Nat) : List Label :=
  let node : SmcEventData :=
    ⟨request.agentId, .registered, false, request.devFile, address, 0,
      alignSize request.bufferSize, 0, false, [], [], []⟩
  [.run (.createNode request) ⟨true, address⟩, .run (.mapNew request node) ⟨true, 0⟩,
    .run (.registerToTee request node) ⟨true, 0⟩, .run (.addNode node) ⟨true, 0⟩]

def registerOnce (request : RegisterRequest) (address : Nat) : List Label :=
  .start (.register request) :: .run (.checkExist request) ⟨true, 0⟩ ::
    finishRegistration request address

end TzDriver.Agent
