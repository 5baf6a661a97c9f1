/-
Registration of an agent in the LiteOS driver (`liteos/core/agent.c`).

Whether a node on the list may be reused is decided by its `pid` alone: a process
that finds its own pid is refused, any other process restarts the node, also while
the agent that registered it is alive.
-/

import TzDriver.Agent.Node

namespace TzDriver.LiteOs

open TzDriver.Lib TzDriver.Agent

/-- The LiteOS `struct smc_event_data` also holds the pid of the agent's process. -/
structure EventData extends SmcEventData where
  pid : Nat
deriving DecidableEq, Repr

namespace EventData

/-- `init_restart_agent_node`, run by the process `current`. -/
def initRestartAgentNode (node : EventData) (devFile current : Nat) : EventData :=
  { node with toSmcEventData := node.toSmcEventData.initRestartAgentNode devFile, pid := current }

end EventData

def cleanAgentPidInfo (agents : List EventData) (devFile : Nat) : List EventData :=
  agents.map fun node => if node.owner = devFile then { node with pid := 0 } else node

inductive Found where
  | refused
  | absent
  | again (node : EventData)

/-- `is_agent_already_exist`, called by the process `current`. -/
def isAgentAlreadyExist (agents : List EventData) (agentId : UInt32) (current : Nat) : Found :=
  match agents.find? (fun node => node.agentId == agentId) with
  | none => .absent
  | some node => if node.pid = current then .refused else .again node

def isErrOrNull (ptr : Nat) : Bool :=
  ptr == 0 || isErr ptr

def getAgentBuffer (world : RegisterWorld) (node : EventData) (userAgent : Bool) :
    EventData × Except Int Nat :=
  if userAgent then
    let mapped := world.agentBufferMap node.agentBuffKernel node.agentBuffSize
    ({ node with agentBuffUser := mapped },
      if isErrOrNull mapped then .error (-eFault) else .ok mapped)
  else (node, .ok node.agentBuffKernel)

structure RegisterResult where
  ret : Int
  agents : List EventData
  buffer : Option Nat
  mailboxFreed : Option Nat

/-- What follows once a new node is made.  A failed mapping returns the 0 that
`create_new_agent_node` left in `ret`. -/
def finishNew (world : RegisterWorld) (agents : List EventData) (request : RegisterRequest)
    (node : EventData) (sizeAlign : Nat) : RegisterResult :=
  let (mapped, mapping) := getAgentBuffer world node request.userAgent
  match mapping with
  | .error _ => ⟨0, agents, none, some node.agentBuffKernel⟩
  | .ok buffer =>
      let ret := world.registerAgentToTee request.agentId node.agentBuffKernel sizeAlign
      if ret ≠ 0 then ⟨ret, agents, some buffer, some node.agentBuffKernel⟩
      else ⟨0, agents ++ [{ mapped with usage := 1 }], some buffer, none⟩

/-- `tc_ns_register_agent`, called by the process `current`. -/
def tcNsRegisterAgent (world : RegisterWorld) (agents : List EventData)
    (request : RegisterRequest) (current : Nat) : RegisterResult :=
  if request.buffer = false then ⟨-eInval, agents, none, none⟩
  else if request.userAgent = true ∧ request.bufferSize > Mailbox.sz4K then
    ⟨-eInval, agents, none, none⟩
  else
    let sizeAlign := alignSize request.bufferSize
    match isAgentAlreadyExist agents request.agentId current with
    | .refused => ⟨-eInval, agents, none, none⟩
    | .again node =>
        let restarted := node.initRestartAgentNode request.devFile current
        let (mapped, mapping) := getAgentBuffer world restarted request.userAgent
        let agents := updateFirst (fun node => node.agentId == request.agentId)
          (fun _ => mapped) agents
        match mapping with
        | .error _ => ⟨-eInval, agents, none, none⟩
        | .ok buffer => ⟨0, agents, some buffer, none⟩
    | .absent =>
        match createNewAgentNode world request.devFile request.agentId sizeAlign with
        | .error ret => ⟨ret, agents, none, none⟩
        | .ok node =>
            finishNew world agents request { toSmcEventData := node, pid := current } sizeAlign

/-! ### Taking over a live agent -/

/-- The node was registered by another process, which has neither closed its
dev_file (that zeroes the pid) nor crashed. -/
structure LiveElsewhere (node : EventData) (current : Nat) : Prop where
  registered : node.pid ≠ 0
  elsewhere : node.pid ≠ current
  alive : node.agentReady ≠ .crashed

/-- Who the agent is, its request and its answer, and who waits. -/
def EventData.standing (node : EventData) :
    Nat × Nat × Bool × Bool × List Nat × List Nat × List Nat :=
  (node.owner, node.pid, node.retFlag, node.caRun, node.waitEventWq, node.sendResponseWq,
    node.caPendingWq)

/-- The call is refused and the agent stands as before. -/
def NotTakenOver (agents : List EventData) (request : RegisterRequest) (result : RegisterResult) :
    Prop :=
  result.ret ≠ 0 ∧
    (result.agents.find? fun node => node.agentId == request.agentId).map EventData.standing =
      (agents.find? fun node => node.agentId == request.agentId).map EventData.standing

theorem not_liveElsewhere_of_clean {agents : List EventData} {devFile current : Nat}
    {node : EventData} (listed : node ∈ cleanAgentPidInfo agents devFile)
    (owned : node.owner = devFile) : ¬LiveElsewhere node current := by
  intro live
  obtain ⟨before, _, rfl⟩ := List.mem_map.mp listed
  by_cases same : before.owner = devFile
  · rw [if_pos same] at live
    exact live.registered rfl
  · rw [if_neg same] at owned
    exact same owned

/-- Whatever the mapping gives, it leaves the restarted node's pid. -/
theorem getAgentBuffer_pid (world : RegisterWorld) (node : EventData) (userAgent : Bool) :
    (getAgentBuffer world node userAgent).1.pid = node.pid ∧
      (getAgentBuffer world node userAgent).1.agentId = node.agentId := by
  cases userAgent with
  | false => exact ⟨rfl, rfl⟩
  | true => exact ⟨rfl, rfl⟩

/-- A live agent of another process keeps its node exactly when the arguments of the
call are refused. -/
theorem live_agent_kept_iff (world : RegisterWorld) {agents : List EventData}
    (request : RegisterRequest) {current : Nat} {node : EventData}
    (listed : agents.find? (fun node => node.agentId == request.agentId) = some node)
    (live : LiveElsewhere node current) :
    NotTakenOver agents request (tcNsRegisterAgent world agents request current) ↔
      request.buffer = false ∨ (request.userAgent = true ∧ request.bufferSize > Mailbox.sz4K) := by
  have inval : -eInval ≠ 0 := by decide
  unfold tcNsRegisterAgent
  by_cases noBuffer : request.buffer = false
  · rw [if_pos noBuffer]
    exact iff_of_true ⟨inval, rfl⟩ (Or.inl noBuffer)
  rw [if_neg noBuffer]
  by_cases large : request.userAgent = true ∧ request.bufferSize > Mailbox.sz4K
  · rw [if_pos large]
    exact iff_of_true ⟨inval, rfl⟩ (Or.inr large)
  rw [if_neg large]
  refine iff_of_false ?_ (not_or.mpr ⟨noBuffer, large⟩)
  rcases walk (fun node => node.agentId == request.agentId) agents with
    absent | ⟨before, first, after, rfl, found, others⟩
  · rw [List.find?_eq_none.mpr (by simpa using absent)] at listed
    cases listed
  rw [find?_walk others found] at listed
  obtain rfl := Option.some.inj listed
  intro given
  obtain ⟨_, kept⟩ := given
  obtain ⟨pid, sameId⟩ := getAgentBuffer_pid world
    (first.initRestartAgentNode request.devFile current) request.userAgent
  rw [isAgentAlreadyExist, find?_walk others found] at kept
  dsimp only at kept
  rw [if_neg live.elsewhere] at kept
  dsimp only at kept
  rw [updateFirst_append others found] at kept
  generalize getAgentBuffer world (first.initRestartAgentNode request.devFile current)
    request.userAgent = outcome at kept pid sameId
  obtain ⟨mapped, mapping⟩ := outcome
  have foundAgain : (mapped.agentId == request.agentId) = true := by
    rw [sameId]
    exact found
  have standing : mapped.standing = first.standing := by
    cases mapping with
    | error code =>
        rw [find?_walk others foundAgain] at kept
        exact Option.some.inj kept
    | ok buffer =>
        rw [find?_walk others foundAgain] at kept
        exact Option.some.inj kept
  have samePid := congrArg (fun standing => standing.2.1) standing
  exact live.elsewhere (samePid.symm.trans pid)

/-- Process 9 may not have the agent of process 7 with a buffer of two pages. -/
theorem live_agent_kept_large_buffer :
    NotTakenOver [⟨⟨1, .ready, true, 8, 4096, 0, 4096, 1, false, [], [], [5]⟩, 7⟩]
      ⟨16, 1, 8192, true, true⟩
      (tcNsRegisterAgent ⟨fun _ => none, true, fun _ _ => 8192, fun _ _ _ => 0⟩
        [⟨⟨1, .ready, true, 8, 4096, 0, 4096, 1, false, [], [], [5]⟩, 7⟩]
        ⟨16, 1, 8192, true, true⟩ 9) :=
  (live_agent_kept_iff _ _ rfl ⟨by decide, by decide, by decide⟩).mpr (Or.inr (by decide))

/-- Process 9 takes the agent of process 7 over; the CA that waits on it loses its
request. -/
theorem live_agent_taken_over :
    LiveElsewhere ⟨⟨1, .ready, true, 8, 4096, 0, 4096, 1, false, [], [], [5]⟩, 7⟩ 9 ∧
      ¬NotTakenOver [⟨⟨1, .ready, true, 8, 4096, 0, 4096, 1, false, [], [], [5]⟩, 7⟩]
        ⟨16, 1, 4096, true, true⟩
        (tcNsRegisterAgent ⟨fun _ => none, true, fun _ _ => 8192, fun _ _ _ => 0⟩
          [⟨⟨1, .ready, true, 8, 4096, 0, 4096, 1, false, [], [], [5]⟩, 7⟩]
          ⟨16, 1, 4096, true, true⟩ 9) := by
  refine ⟨⟨by decide, by decide, by decide⟩, ?_⟩
  intro given
  obtain ⟨failed, _⟩ := given
  exact failed (by decide)

end TzDriver.LiteOs
