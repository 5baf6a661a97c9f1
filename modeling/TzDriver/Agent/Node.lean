/-
Agent nodes and the calls that change them (`linux/core/agent.c`), each call run to
its end.

The agent list holds the nodes themselves; a call that looks an id up works on the
first node with it, as `list_for_each_entry` does.
-/

import TzDriver.Lib.ListWalk
import TzDriver.Mailbox.Mempool

namespace TzDriver.Agent

open TzDriver.Lib

def agentMax : Nat := 32

inductive AgentState where
  | crashed
  | registered
  | ready
deriving DecidableEq, Repr

/-- `struct smc_event_data`.  Pointers are addresses with 0 for NULL, and a wait
queue is the list of tasks that sleep on it. -/
structure SmcEventData where
  agentId : UInt32
  agentReady : AgentState
  retFlag : Bool
  owner : Nat
  agentBuffKernel : Nat
  agentBuffUser : Nat
  agentBuffSize : Nat
  usage : Nat
  caRun : Bool
  waitEventWq : List Nat
  sendResponseWq : List Nat
  caPendingWq : List Nat
deriving DecidableEq, Repr

abbrev AgentList := List SmcEventData

namespace SmcEventData

variable (node : SmcEventData)

def getAgentEvent : SmcEventData := { node with usage := node.usage + 1 }

def putAgentEvent : SmcEventData := { node with usage := node.usage - 1 }

/-- `process_send_event_response`; `wake_up` takes the sleepers off the queue. -/
def processSendEventResponse : SmcEventData :=
  if node.retFlag = false then node
  else { node with retFlag := false, caRun := true, caPendingWq := [] }

def initRestartAgentNode (devFile : Nat) : SmcEventData :=
  { node with
    retFlag := false
    owner := devFile
    agentReady := .registered
    waitEventWq := []
    sendResponseWq := []
    caPendingWq := []
    caRun := false }

end SmcEventData

/-! ### Registering -/

/-- `IS_ERR`: the last 4095 addresses are error codes. -/
def isErr (ptr : Nat) : Bool :=
  decide (2 ^ 64 - 4095 ≤ ptr)

/-- What a registration gets from the mailbox pool, `kzalloc`, `agent_buffer_map` (that of a
build without `CONFIG_LIBLINUX`) and `register_agent_to_tee`. -/
structure RegisterWorld where
  mailboxAlloc : Nat → Option Nat
  kzalloc : Bool
  agentBufferMap : Nat → Nat → Nat
  registerAgentToTee : UInt32 → Nat → Nat → Int

structure RegisterRequest where
  devFile : Nat
  agentId : UInt32
  bufferSize : Nat
  /-- `buffer` is not NULL -/
  buffer : Bool
  userAgent : Bool
deriving DecidableEq, Repr

/-- The return code, the list, what was written to `*buffer`, and the mailbox buffer
that was given back. -/
structure RegisterResult where
  ret : Int
  agents : AgentList
  buffer : Option Nat
  mailboxFreed : Option Nat

def isValidAgent (bufferSize : Nat) (userAgent : Bool) : Bool :=
  !(userAgent && decide (bufferSize > Mailbox.sz4K))

/-- `ALIGN(buffer_size, SZ_4K)` on an `unsigned int`. -/
def alignSize (bufferSize : Nat) : Nat :=
  (bufferSize + (Mailbox.sz4K - 1)) % 2 ^ 32 / Mailbox.sz4K * Mailbox.sz4K

inductive Existing where
  /-- a node that has not crashed -/
  | refused
  | absent
  /-- the node found, after `init_restart_agent_node` -/
  | restarted (node : SmcEventData) (agents : AgentList)

def isAgentAlreadyExist (agents : AgentList) (agentId : UInt32) (devFile : Nat) : Existing :=
  match agents.find? (fun node => node.agentId == agentId) with
  | none => .absent
  | some node =>
      if node.agentReady ≠ .crashed then .refused
      else
        let restart := fun node : SmcEventData =>
          node.getAgentEvent.initRestartAgentNode devFile
        .restarted (restart node)
          (updateFirst (fun node => node.agentId == agentId) restart agents)

def createNewAgentNode (world : RegisterWorld) (devFile : Nat) (agentId : UInt32)
    (agentBuffSize : Nat) : Except Int SmcEventData :=
  match world.mailboxAlloc agentBuffSize with
  | none => .error (-eNoMem)
  | some agentBuff =>
      if world.kzalloc = false then .error (-eNoMem)
      else
        .ok
          { agentId := agentId
            agentReady := .registered
            retFlag := false
            owner := devFile
            agentBuffKernel := agentBuff
            agentBuffUser := 0
            agentBuffSize := agentBuffSize
            usage := 0
            caRun := false
            waitEventWq := []
            sendResponseWq := []
            caPendingWq := [] }

/-- `get_agent_buffer`: the node with its `agent_buff_user`, and `*buffer` unless the
call failed. -/
def getAgentBuffer (world : RegisterWorld) (node : SmcEventData) (userAgent : Bool) :
    SmcEventData × Except Int Nat :=
  if userAgent then
    let mapped := world.agentBufferMap node.agentBuffKernel node.agentBuffSize
    ({ node with agentBuffUser := mapped }, if isErr mapped then .error (-eFault) else .ok mapped)
  else (node, .ok node.agentBuffKernel)

def tcNsRegisterAgent (world : RegisterWorld) (agents : AgentList) (request : RegisterRequest) :
    RegisterResult :=
  if request.buffer = false then ⟨-eInval, agents, none, none⟩
  else if isValidAgent request.bufferSize request.userAgent = false then
    ⟨-eInval, agents, none, none⟩
  else
    let sizeAlign := alignSize request.bufferSize
    let same := fun node : SmcEventData => node.agentId == request.agentId
    match isAgentAlreadyExist agents request.agentId request.devFile with
    | .refused => ⟨-eInval, agents, none, none⟩
    | .restarted node agents =>
        -- `ret` is still the `-EINVAL` it was initialised with
        let (node, mapping) := getAgentBuffer world node request.userAgent
        let agents := updateFirst same (fun _ => node.putAgentEvent) agents
        match mapping with
        | .error _ => ⟨-eInval, agents, none, none⟩
        | .ok buffer => ⟨0, agents, some buffer, none⟩
    | .absent =>
        match createNewAgentNode world request.devFile request.agentId sizeAlign with
        | .error ret => ⟨ret, agents, none, none⟩
        | .ok node =>
            -- `ret` is now the 0 that `create_new_agent_node` returned
            let agentBuff := node.agentBuffKernel
            let (node, mapping) := getAgentBuffer world node request.userAgent
            match mapping with
            | .error _ => ⟨0, agents, none, some agentBuff⟩
            | .ok buffer =>
                let ret := world.registerAgentToTee request.agentId agentBuff sizeAlign
                if ret ≠ 0 then ⟨ret, agents, some buffer, some agentBuff⟩
                else ⟨0, agents ++ [{ node with usage := 1 }], some buffer, none⟩

/-! ### Crashing and closing -/

def sendEventResponse (agents : AgentList) (agentId : UInt32) : AgentList :=
  updateFirst (fun node => node.agentId == agentId)
    (fun node => SmcEventData.processSendEventResponse { node with agentReady := .crashed }) agents

/-- `send_crashed_event_response_all`: at most `AGENT_MAX` ids are collected, and an
id of 0 is taken for an empty slot. -/
def sendCrashedEventResponseAll (agents : AgentList) (devFile : Nat) : AgentList :=
  let agentId := ((agents.filter fun node => node.owner == devFile).map
    SmcEventData.agentId).take agentMax
  (agentId.filter (· != 0)).foldl sendEventResponse agents

def teeAgentClearDevOwner (agents : AgentList) (devFile : Nat) : AgentList :=
  updateFirst (fun node => node.owner == devFile) (fun node => { node with owner := 0 }) agents

/-- What `tc_ns_client_close` does to the agents. -/
def tcNsClientClose (agents : AgentList) (dev : Nat) : AgentList :=
  if dev = 0 then agents
  else teeAgentClearDevOwner (sendCrashedEventResponseAll agents dev) dev

end TzDriver.Agent
