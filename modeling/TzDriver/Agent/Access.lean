/-
Who may use which agent: the agent ioctls of the two device nodes
(`linux/core/tc_client_driver.c`), from the checks to the calls of `agent.c`.

`REGISTER_AGENT` reads its arguments from user memory twice: `get_agent_id` reads the id
that is checked, `ioctl_register_agent` the id that is registered.  The other commands
carry the id in the argument itself.
-/

import TzDriver.Agent.Node
import TzDriver.Auth.Callers
import TzDriver.Lib.Runs

namespace TzDriver.Agent

open TzDriver.Lib TzDriver.Auth

/-- `g_tc_ns_client_fops` and `g_teecd_fops`. -/
inductive DevNode where
  | client
  | teecd
deriving DecidableEq

/-- The commands that `public_ioctl` runs after `ioctl_check_agent_owner`. -/
inductive OwnerCmd where
  | waitEvent
  | sendEventResponse
  | unregisterAgent
deriving DecidableEq

inductive AgentCmd where
  | registerAgent
  | ofOwner (cmd : OwnerCmd)
deriving DecidableEq

/-- How far an ioctl is.  `checked` is the id that `check_ext_agent_access` let through, if the
call went through it. -/
inductive Stage where
  | entered
  | cleared (checked : Option UInt32)
  | owned (checked : Option UInt32)
  | returned (ret : Int)
deriving DecidableEq

structure IoctlCall where
  file : Nat
  caller : Caller
  cmd : AgentCmd
  /-- `(unsigned int)arg` -/
  arg : UInt32
  stage : Stage
deriving DecidableEq

/-- A call that reached the agents: `tc_ns_register_agent` was called, or one of the other three
commands found its agent. -/
structure Effect where
  node : DevNode
  file : Nat
  caller : Caller
  cmd : AgentCmd
  checked : Option UInt32
  agentId : UInt32
deriving DecidableEq

inductive Record where
  | kernelAgent (dev : Nat) (agentId : UInt32)
  | ioctl (effect : Effect)
deriving DecidableEq

/-- `log` has its last record first. -/
structure AccessState where
  agents : AgentList
  openFile : Nat → Option DevNode
  calls : Nat → Option IoctlCall
  log : List Record

/-- What a command meets outside the driver: the second read of the arguments of a registration,
an interrupted wait, `mailbox_alloc_cmd_pack` and `tc_ns_smc` of an unregistration. -/
structure CommandWorld where
  register : RegisterWorld
  args : Option (UInt32 × Nat)
  interrupted : Bool
  cmdPack : Bool
  tcNsSmc : Int

inductive AccessLabel where
  | openNode (file : Nat) (node : DevNode) (caller : Caller) (teecd cadaemon : TaskWorld)
  | enter (task file : Nat) (caller : Caller) (cmd : AgentCmd) (arg : UInt32)
  | check (task : Nat) (teecd access : TaskWorld) (args : Option UInt32)
  | owner (task : Nat)
  | command (task : Nat) (world : CommandWorld)
  | close (file : Nat)
  | kernelAgent (dev : Nat) (agentId : UInt32) (bufferSize : Nat) (world : RegisterWorld)
  /-- `agent_process_work` and the threads of the kernel agents -/
  | work (agentId : UInt32) (retFlag caRun : Bool) (agentReady : AgentState)

/-! ### The checks -/

/-- `get_agent_id`; `args` is the id that `copy_from_user` reads. -/
def getAgentId (cmd : AgentCmd) (arg : UInt32) (args : Option UInt32) : Except Int UInt32 :=
  match cmd with
  | .registerAgent =>
      match args with
      | none => .error (-eFault)
      | some agentId => .ok agentId
  | .ofOwner _ => .ok arg

section Checks

variable (config : AuthConfig)

def mayOpen (teecd cadaemon : TaskWorld) (caller : Caller) : Bool :=
  decide (checkTeecdAuth config teecd caller = 0) ||
    config.cadaemonAuth && decide (checkCadaemonAuth config cadaemon caller = 0)

/-- What stands before `public_ioctl`: nothing on the private node, and on the client node the
default branch of `tc_client_ioctl` with `tc_client_agent_ioctl`. -/
def clearance (node : DevNode) (call : IoctlCall) (teecd access : TaskWorld)
    (args : Option UInt32) : Stage :=
  match node with
  | .teecd => .cleared none
  | .client =>
      if checkTeecdAuth config teecd call.caller = 0 then .cleared none
      else
        match getAgentId call.cmd call.arg args with
        | .error ret => .returned ret
        | .ok agentId =>
            if checkExtAgentAccess config access call.caller agentId ≠ 0 then .returned (-ePerm)
            else .cleared (some agentId)

end Checks

/-- `ioctl_check_agent_owner`, where `public_ioctl` turns both errors into `-EINVAL`. -/
def ioctlCheckAgentOwner (agents : AgentList) (devFile : Nat) (agentId : UInt32)
    (checked : Option UInt32) : Stage :=
  match agents.find? (fun node => node.agentId == agentId) with
  | none => .returned (-eInval)
  | some node => if node.owner ≠ devFile then .returned (-eInval) else .owned checked

/-! ### The commands -/

section Commands

variable (agents : AgentList) (agentId : UInt32)

/-- `tc_ns_wait_event`, from its mark on the agent to the end of its sleep. -/
def tcNsWaitEvent (interrupted : Bool) : Int × AgentList :=
  match agents.find? (fun node => node.agentId == agentId) with
  | none => (-eInval, agents)
  | some _ =>
      (if interrupted then -eRestartSys else 0,
        updateFirst (fun node => node.agentId == agentId)
          (fun node => { node with agentReady := .ready }) agents)

def tcNsSendEventResponse : Int × AgentList :=
  match agents.find? (fun node => node.agentId == agentId) with
  | none => (-eInval, agents)
  | some _ =>
      (0, updateFirst (fun node => node.agentId == agentId)
        SmcEventData.processSendEventResponse agents)

/-- `free_event_control`: the first node with the id goes. -/
def freeEventControl : AgentList :=
  agents.eraseP fun node => node.agentId == agentId

def tcNsUnregisterAgent (world : CommandWorld) : Int × AgentList :=
  match agents.find? (fun node => node.agentId == agentId) with
  | none => (-eInval, agents)
  | some node =>
      if node.agentBuffKernel = 0 then (-eInval, agents)
      else if world.cmdPack = false then (-eNoMem, agents)
      else if world.tcNsSmc = 0 then (0, freeEventControl agents agentId)
      else (-ePerm, agents)

/-- The part of `public_ioctl` that follows an owner check. -/
def ownerCommand (cmd : OwnerCmd) (world : CommandWorld) : Int × AgentList × Option UInt32 :=
  let result :=
    match cmd with
    | .waitEvent => tcNsWaitEvent agents agentId world.interrupted
    | .sendEventResponse => tcNsSendEventResponse agents agentId
    | .unregisterAgent => tcNsUnregisterAgent agents agentId world
  (result.1, result.2,
    (agents.find? fun node => node.agentId == agentId).map fun _ => agentId)

end Commands

/-- `ioctl_register_agent`, with the id it registers. -/
def ioctlRegisterAgent (agents : AgentList) (devFile : Nat) (world : CommandWorld) :
    Int × AgentList × Option UInt32 :=
  match world.args with
  | none => (-eFault, agents, none)
  | some (id, bufferSize) =>
      let result := tcNsRegisterAgent world.register agents ⟨devFile, id, bufferSize, true, true⟩
      (result.ret, result.agents, some id)

/-! ### Closing the private node -/

def isSystemAgent (agents : AgentList) (devFile : Nat) : Bool :=
  decide (devFile ≠ 0) && agents.any fun node => node.owner == devFile

/-- `send_event_response_single`; without a node of the file the id stays 0. -/
def sendEventResponseSingle (agents : AgentList) (devFile : Nat) : AgentList :=
  if devFile = 0 then agents
  else
    match agents.find? (fun node => node.owner == devFile) with
    | none => sendEventResponse agents 0
    | some node => sendEventResponse agents node.agentId

/-- What `tc_private_close` does to the agents. -/
def tcPrivateClose (agents : AgentList) (dev : Nat) : AgentList :=
  if isSystemAgent agents dev then
    teeAgentClearDevOwner (sendEventResponseSingle agents dev) dev
  else teeAgentClearDevOwner agents dev

/-! ### The system -/

namespace AccessState

variable (state : AccessState)

def setCall (task : Nat) (call : IoctlCall) : AccessState :=
  { state with calls := Function.update state.calls task (some call) }

def busy (task : Nat) : Bool :=
  match state.calls task with
  | none => false
  | some call =>
      match call.stage with
      | .returned _ => false
      | _ => true

/-- The end of a call, with its result, the agents it leaves and the agent it reached. -/
def finish (task : Nat) (node : DevNode) (call : IoctlCall) (checked : Option UInt32)
    (outcome : Int × AgentList × Option UInt32) : AccessState :=
  { state with
    agents := outcome.2.1
    calls := Function.update state.calls task (some { call with stage := .returned outcome.1 })
    log :=
      match outcome.2.2 with
      | none => state.log
      | some agentId =>
          .ioctl ⟨node, call.file, call.caller, call.cmd, checked, agentId⟩ :: state.log }

variable (config : AuthConfig)

/-- One step.  A file is closed after the calls on it have returned, which `quiet` says. -/
inductive Step : AccessState → AccessLabel → AccessState → Prop where
  | openNode {state : AccessState} {file : Nat} {node : DevNode} {caller : Caller}
      {teecd cadaemon : TaskWorld} (notNull : file ≠ 0) (fresh : state.openFile file = none)
      (passed : mayOpen config teecd cadaemon caller = true) :
      Step state (.openNode file node caller teecd cadaemon)
        { state with openFile := Function.update state.openFile file (some node) }
  | enter {state : AccessState} {task file : Nat} {caller : Caller} {cmd : AgentCmd}
      {arg : UInt32} (opened : (state.openFile file).isSome = true)
      (idle : state.busy task = false) :
      Step state (.enter task file caller cmd arg)
        (state.setCall task ⟨file, caller, cmd, arg, .entered⟩)
  | check {state : AccessState} {task : Nat} {call : IoctlCall} {node : DevNode}
      {teecd access : TaskWorld} {args : Option UInt32} (here : state.calls task = some call)
      (stage : call.stage = .entered) (opened : state.openFile call.file = some node) :
      Step state (.check task teecd access args)
        (state.setCall task
          { call with stage := clearance config node call teecd access args })
  | owner {state : AccessState} {task : Nat} {call : IoctlCall} {cmd : OwnerCmd}
      {checked : Option UInt32} (here : state.calls task = some call)
      (stage : call.stage = .cleared checked) (owns : call.cmd = .ofOwner cmd) :
      Step state (.owner task)
        (state.setCall task
          { call with stage := ioctlCheckAgentOwner state.agents call.file call.arg checked })
  | register {state : AccessState} {task : Nat} {call : IoctlCall} {node : DevNode}
      {checked : Option UInt32} {world : CommandWorld} (here : state.calls task = some call)
      (stage : call.stage = .cleared checked) (registers : call.cmd = .registerAgent)
      (opened : state.openFile call.file = some node) :
      Step state (.command task world)
        (state.finish task node call checked (ioctlRegisterAgent state.agents call.file world))
  | command {state : AccessState} {task : Nat} {call : IoctlCall} {cmd : OwnerCmd}
      {node : DevNode} {checked : Option UInt32} {world : CommandWorld}
      (here : state.calls task = some call) (stage : call.stage = .owned checked)
      (owns : call.cmd = .ofOwner cmd) (opened : state.openFile call.file = some node) :
      Step state (.command task world)
        (state.finish task node call checked (ownerCommand state.agents call.arg cmd world))
  | closeClient {state : AccessState} {file : Nat} (opened : state.openFile file = some .client)
      (quiet : ∀ task call, state.calls task = some call → call.file = file →
        state.busy task = false) :
      Step state (.close file)
        { state with
          openFile := Function.update state.openFile file none
          agents := tcNsClientClose state.agents file }
  | closeTeecd {state : AccessState} {file : Nat} (opened : state.openFile file = some .teecd)
      (quiet : ∀ task call, state.calls task = some call → call.file = file →
        state.busy task = false) :
      Step state (.close file)
        { state with
          openFile := Function.update state.openFile file none
          agents := tcPrivateClose state.agents file }
  | kernelAgent {state : AccessState} {dev : Nat} {agentId : UInt32} {bufferSize : Nat}
      {world : RegisterWorld} (notNull : dev ≠ 0) (apart : state.openFile dev = none) :
      Step state (.kernelAgent dev agentId bufferSize world)
        { state with
          agents :=
            (tcNsRegisterAgent world state.agents ⟨dev, agentId, bufferSize, true, false⟩).agents
          log := .kernelAgent dev agentId :: state.log }
  | work {state : AccessState} {agentId : UInt32} {retFlag caRun : Bool}
      {agentReady : AgentState} :
      Step state (.work agentId retFlag caRun agentReady)
        { state with
          agents := updateFirst (fun node => node.agentId == agentId)
            (fun node =>
              { node with retFlag := retFlag, caRun := caRun, agentReady := agentReady })
            state.agents }

end AccessState

def accessMachine (config : AuthConfig) : Machine AccessState AccessLabel :=
  { init := fun state => state = ⟨[], fun _ => none, fun _ => none, []⟩
    step := AccessState.Step config }

/-! ### What no step does to the nodes -/

/-- A node is nobody's, or its owner may have it. -/
def Entitled (May : UInt32 → Nat → Prop) (node : SmcEventData) : Prop :=
  node.owner ≠ 0 → May node.agentId node.owner

section Nodes

variable {May : UInt32 → Nat → Prop} {agents : AgentList} {agentId : UInt32} {dev : Nat}

theorem Entitled.same {node other : SmcEventData} (entitled : Entitled May node)
    (sameId : other.agentId = node.agentId) (sameOwner : other.owner = node.owner) :
    Entitled May other := by
  intro owned
  rw [sameId, sameOwner]
  apply entitled
  rwa [← sameOwner]

theorem processSendEventResponse_key (node : SmcEventData) :
    node.processSendEventResponse.agentId = node.agentId ∧
      node.processSendEventResponse.owner = node.owner := by
  unfold SmcEventData.processSendEventResponse
  split
  · exact ⟨rfl, rfl⟩
  · exact ⟨rfl, rfl⟩

theorem entitled_sendEventResponse (all : ∀ node ∈ agents, Entitled May node) :
    ∀ node ∈ sendEventResponse agents agentId, Entitled May node := by
  apply forall_updateFirst all
  intro node _ entitled
  obtain ⟨sameId, sameOwner⟩ :=
    processSendEventResponse_key { node with agentReady := .crashed }
  exact entitled.same sameId sameOwner

theorem entitled_clear (all : ∀ node ∈ agents, Entitled May node) :
    ∀ node ∈ teeAgentClearDevOwner agents dev, Entitled May node := by
  apply forall_updateFirst all
  intro node _ _ owned
  exact absurd rfl owned

theorem entitled_responses (ids : List UInt32) (all : ∀ node ∈ agents, Entitled May node) :
    ∀ node ∈ ids.foldl sendEventResponse agents, Entitled May node := by
  induction ids generalizing agents with
  | nil => exact all
  | cons id rest ih =>
      rw [List.foldl_cons]
      exact ih (entitled_sendEventResponse all)

theorem entitled_close (all : ∀ node ∈ agents, Entitled May node) :
    ∀ node ∈ tcNsClientClose agents dev, Entitled May node := by
  unfold tcNsClientClose sendCrashedEventResponseAll
  split
  · exact all
  · apply entitled_clear
    exact entitled_responses _ all

theorem entitled_privateClose (all : ∀ node ∈ agents, Entitled May node) :
    ∀ node ∈ tcPrivateClose agents dev, Entitled May node := by
  unfold tcPrivateClose sendEventResponseSingle
  split
  · apply entitled_clear
    split
    · exact all
    · split
      · exact entitled_sendEventResponse all
      · exact entitled_sendEventResponse all
  · exact entitled_clear all

theorem entitled_ownerCommand {cmd : OwnerCmd} {world : CommandWorld}
    (all : ∀ node ∈ agents, Entitled May node) :
    ∀ node ∈ (ownerCommand agents agentId cmd world).2.1, Entitled May node := by
  unfold ownerCommand
  cases cmd with
  | waitEvent =>
      simp only [tcNsWaitEvent]
      split
      · exact all
      · apply forall_updateFirst all
        intro node _ entitled
        exact entitled.same rfl rfl
  | sendEventResponse =>
      simp only [tcNsSendEventResponse]
      split
      · exact all
      · apply forall_updateFirst all
        intro node _ entitled
        obtain ⟨sameId, sameOwner⟩ := processSendEventResponse_key node
        exact entitled.same sameId sameOwner
  | unregisterAgent =>
      simp only [tcNsUnregisterAgent, freeEventControl]
      split
      · exact all
      split
      · exact all
      split
      · exact all
      split
      · intro node member
        exact all node (List.mem_of_mem_eraseP member)
      · exact all

theorem getAgentBuffer_key (world : RegisterWorld) (node : SmcEventData) (userAgent : Bool) :
    (getAgentBuffer world node userAgent).1.agentId = node.agentId ∧
      (getAgentBuffer world node userAgent).1.owner = node.owner := by
  unfold getAgentBuffer
  split
  · exact ⟨rfl, rfl⟩
  · exact ⟨rfl, rfl⟩

theorem isAgentAlreadyExist_restarted {node : SmcEventData} {restarted : AgentList}
    (found : isAgentAlreadyExist agents agentId dev = .restarted node restarted) :
    node.agentId = agentId ∧ node.owner = dev ∧
      restarted = updateFirst (fun node => node.agentId == agentId)
        (fun node => node.getAgentEvent.initRestartAgentNode dev) agents := by
  unfold isAgentAlreadyExist at found
  split at found
  · cases found
  · next old first =>
      split at found
      · cases found
      · cases found
        have same := List.find?_some first
        exact ⟨beq_iff_eq.mp same, rfl, rfl⟩

/-- A registration gives no node to anyone but its file, and to this one no node but those of
its id. -/
theorem entitled_register {world : RegisterWorld} {request : RegisterRequest}
    (all : ∀ node ∈ agents, Entitled May node)
    (may : request.devFile ≠ 0 → May request.agentId request.devFile) :
    ∀ node ∈ (tcNsRegisterAgent world agents request).agents, Entitled May node := by
  have named (node : SmcEventData) (sameId : node.agentId = request.agentId)
      (sameOwner : node.owner = request.devFile) : Entitled May node := by
    intro owned
    rw [sameId, sameOwner]
    apply may
    rwa [← sameOwner]
  unfold tcNsRegisterAgent
  split
  · exact all
  split
  · exact all
  cases exist : isAgentAlreadyExist agents request.agentId request.devFile with
  | refused => exact all
  | restarted node restarted =>
      obtain ⟨sameId, sameOwner, changed⟩ := isAgentAlreadyExist_restarted exist
      obtain ⟨keepsId, keepsOwner⟩ := getAgentBuffer_key world node request.userAgent
      have kept : ∀ other ∈ updateFirst (fun node => node.agentId == request.agentId)
          (fun _ => (getAgentBuffer world node request.userAgent).1.putAgentEvent) restarted,
          Entitled May other := by
        rw [changed]
        apply forall_updateFirst
        · apply forall_updateFirst all
          intro other found _
          exact named _ (beq_iff_eq.mp found) rfl
        · intro other _ _
          exact named _ (keepsId.trans sameId) (keepsOwner.trans sameOwner)
      dsimp only
      split
      · exact kept
      · exact kept
  | absent =>
      dsimp only
      cases created : createNewAgentNode world request.devFile request.agentId
          (alignSize request.bufferSize) with
      | error ret => exact all
      | ok node =>
          have key : node.agentId = request.agentId ∧ node.owner = request.devFile := by
            unfold createNewAgentNode at created
            split at created
            · cases created
            · split at created
              · cases created
              · cases created
                exact ⟨rfl, rfl⟩
          obtain ⟨keepsId, keepsOwner⟩ := getAgentBuffer_key world node request.userAgent
          dsimp only
          split
          · exact all
          · split
            · exact all
            · intro other member
              rcases List.mem_append.mp member with old | new
              · exact all other old
              · rw [List.mem_singleton.mp new]
                exact named _ (keepsId.trans key.1) (keepsOwner.trans key.2)

end Nodes

/-! ### Every effect was authorised -/

def IsTeecd (config : AuthConfig) (caller : Caller) : Prop :=
  ∃ world, checkTeecdAuth config world caller = 0

/-- The call passed: its file is one of the private node, its caller is teecd, or the white list
has its caller with the id that was checked. -/
def Authorised (config : AuthConfig) (node : DevNode) (caller : Caller) :
    Option UInt32 → Prop
  | none => node = .teecd ∨ IsTeecd config caller
  | some checked => Listed config caller checked

/-- A registration of the agent for the owner stands in the log. -/
def Granted (log : List Record) (agentId : UInt32) (owner : Nat) : Prop :=
  .kernelAgent owner agentId ∈ log ∨
    ∃ effect, .ioctl effect ∈ log ∧ effect.cmd = .registerAgent ∧ effect.file = owner ∧
      effect.agentId = agentId

/-- What `check` leaves of an ioctl: the way it passed, and for the commands of an owner the id
that was checked is the one of the argument. -/
structure Cleared (config : AuthConfig) (node : DevNode) (call : IoctlCall)
    (checked : Option UInt32) : Prop where
  authorised : Authorised config node call.caller checked
  argument : ∀ cmd, call.cmd = .ofOwner cmd → ∀ agentId ∈ checked, agentId = call.arg

/-- What an effect is owed by the log before it. -/
structure Justified (config : AuthConfig) (effect : Effect) (earlier : List Record) : Prop where
  authorised : Authorised config effect.node effect.caller effect.checked
  argument : ∀ cmd, effect.cmd = .ofOwner cmd → ∀ agentId ∈ effect.checked,
    agentId = effect.agentId
  granted : ∀ cmd, effect.cmd = .ofOwner cmd → Granted earlier effect.agentId effect.file

def JustifiedAll (config : AuthConfig) (log : List Record) : Prop :=
  ∀ effect earlier, (.ioctl effect :: earlier) <:+ log → Justified config effect earlier

def InStage (config : AuthConfig) (state : AccessState) (call : IoctlCall) : Prop :=
  match call.stage with
  | .entered => (state.openFile call.file).isSome = true
  | .cleared checked =>
      ∃ node, state.openFile call.file = some node ∧ Cleared config node call checked
  | .owned checked =>
      (∃ node, state.openFile call.file = some node ∧ Cleared config node call checked) ∧
        Granted state.log call.arg call.file
  | .returned _ => True

structure AccessInvariant (config : AuthConfig) (state : AccessState) : Prop where
  entitled : ∀ node ∈ state.agents, Entitled (Granted state.log) node
  stages : ∀ task call, state.calls task = some call → InStage config state call
  noNull : state.openFile 0 = none
  justified : JustifiedAll config state.log

section Invariant

variable {config : AuthConfig} {before after state : AccessState} {label : AccessLabel}
  {log : List Record} {agentId : UInt32} {owner : Nat}

theorem Granted.cons (granted : Granted log agentId owner) (record : Record) :
    Granted (record :: log) agentId owner := by
  rcases granted with kernel | ⟨effect, logged, named⟩
  · exact Or.inl (List.mem_cons_of_mem _ kernel)
  · exact Or.inr ⟨effect, List.mem_cons_of_mem _ logged, named⟩

theorem Entitled.cons {node : SmcEventData} (entitled : Entitled (Granted log) node)
    (record : Record) : Entitled (Granted (record :: log)) node :=
  fun owned => (entitled owned).cons record

theorem JustifiedAll.kernel (all : JustifiedAll config log) (dev : Nat) (agentId : UInt32) :
    JustifiedAll config (.kernelAgent dev agentId :: log) := by
  intro effect earlier suffix
  rcases List.suffix_cons_iff.mp suffix with same | inside
  · cases same
  · exact all effect earlier inside

theorem JustifiedAll.ioctl {effect : Effect} (all : JustifiedAll config log)
    (justified : Justified config effect log) : JustifiedAll config (.ioctl effect :: log) := by
  intro other earlier suffix
  rcases List.suffix_cons_iff.mp suffix with same | inside
  · cases same
    exact justified
  · exact all other earlier inside

/-- A call stays in its stage as long as its file stays open and the log grows. -/
theorem InStage.mono {call : IoctlCall} (stage : InStage config before call)
    (opened : ∀ node, before.openFile call.file = some node →
      after.openFile call.file = some node)
    (grown : Granted before.log call.arg call.file → Granted after.log call.arg call.file) :
    InStage config after call := by
  unfold InStage at stage ⊢
  split at stage
  · obtain ⟨node, here⟩ := Option.isSome_iff_exists.mp stage
    rw [opened node here]
    rfl
  · obtain ⟨node, here, cleared⟩ := stage
    exact ⟨node, opened node here, cleared⟩
  · obtain ⟨⟨node, here, cleared⟩, granted⟩ := stage
    exact ⟨⟨node, opened node here, cleared⟩, grown granted⟩
  · trivial

theorem inStage_of_idle {task : Nat} {call : IoctlCall} (here : before.calls task = some call)
    (idle : before.busy task = false) : InStage config after call := by
  unfold AccessState.busy at idle
  rw [here] at idle
  unfold InStage
  cases stage : call.stage with
  | returned ret => trivial
  | entered =>
      simp only [stage] at idle
      cases idle
  | cleared checked =>
      simp only [stage] at idle
      cases idle
  | owned checked =>
      simp only [stage] at idle
      cases idle

theorem stages_update {task : Nat} {call : IoctlCall}
    (stages : ∀ task call, before.calls task = some call → InStage config after call)
    (calls : after.calls = Function.update before.calls task (some call))
    (moved : InStage config after call) :
    ∀ task call, after.calls task = some call → InStage config after call := by
  intro other otherCall there
  rw [calls] at there
  by_cases same : other = task
  · subst same
    rw [Function.update_self] at there
    cases there
    exact moved
  · rw [Function.update_of_ne same] at there
    exact stages other otherCall there

theorem clearance_inStage {call : IoctlCall} {node : DevNode} {teecd access : TaskWorld}
    {args : Option UInt32} (opened : state.openFile call.file = some node) :
    InStage config state { call with stage := clearance config node call teecd access args } := by
  unfold clearance
  cases node with
  | teecd => exact ⟨.teecd, opened, Or.inl rfl, fun _ _ _ member => by cases member⟩
  | client =>
      dsimp only
      split
      · next passed =>
          exact ⟨.client, opened, Or.inr ⟨teecd, passed⟩, fun _ _ _ member => by cases member⟩
      · split
        · trivial
        · next agentId read =>
            split
            · trivial
            · next passed =>
                refine ⟨.client, opened, ?_, ?_⟩
                · exact (checkExtAgentAccess_eq_zero.mp (not_not.mp passed)).2
                · intro _ owns checked member
                  cases member
                  simp only at owns
                  rw [owns] at read
                  cases read
                  rfl

theorem owned_inStage {call : IoctlCall} {checked : Option UInt32} {node : DevNode}
    (notNull : call.file ≠ 0)
    (entitled : ∀ node ∈ state.agents, Entitled (Granted state.log) node)
    (opened : state.openFile call.file = some node) (cleared : Cleared config node call checked) :
    InStage config state
      { call with stage := ioctlCheckAgentOwner state.agents call.file call.arg checked } := by
  unfold ioctlCheckAgentOwner
  split
  · trivial
  · next found first =>
      split
      · trivial
      · next owns =>
          rw [not_not] at owns
          have named := List.find?_some first
          have granted := entitled found (List.mem_of_find?_eq_some first) (owns ▸ notNull)
          rw [owns, beq_iff_eq.mp named] at granted
          exact ⟨⟨node, opened, cleared.authorised, cleared.argument⟩, granted⟩

theorem AccessInvariant.moved {task : Nat} {call : IoctlCall}
    (invariant : AccessInvariant config before) (moved : InStage config before call) :
    AccessInvariant config (before.setCall task call) :=
  { entitled := invariant.entitled
    stages := stages_update invariant.stages rfl moved
    noNull := invariant.noNull
    justified := invariant.justified }

theorem AccessInvariant.finish {task : Nat} {node : DevNode} {call : IoctlCall}
    {checked : Option UInt32} {outcome : Int × AgentList × Option UInt32}
    (invariant : AccessInvariant config before)
    (entitled : ∀ other ∈ outcome.2.1,
      Entitled (Granted (before.finish task node call checked outcome).log) other)
    (justified : ∀ agentId ∈ outcome.2.2, Justified config
      ⟨node, call.file, call.caller, call.cmd, checked, agentId⟩ before.log) :
    AccessInvariant config (before.finish task node call checked outcome) where
  entitled := entitled
  stages := by
    apply stages_update
    · intro other otherCall there
      apply (invariant.stages other otherCall there).mono
      · exact fun _ same => same
      · intro granted
        unfold AccessState.finish
        cases outcome.2.2 with
        | none => exact granted
        | some agentId => exact granted.cons _
    · rfl
    · trivial
  noNull := invariant.noNull
  justified := by
    unfold AccessState.finish
    cases reached : outcome.2.2 with
    | none => exact invariant.justified
    | some agentId => exact invariant.justified.ioctl (justified agentId reached)

theorem entitled_finish {task : Nat} {node : DevNode} {call : IoctlCall}
    {checked : Option UInt32} {outcome : Int × AgentList × Option UInt32}
    (all : ∀ other ∈ outcome.2.1, Entitled (Granted before.log) other) :
    ∀ other ∈ outcome.2.1,
      Entitled (Granted (before.finish task node call checked outcome).log) other := by
  intro other member
  unfold AccessState.finish
  cases outcome.2.2 with
  | none => exact all other member
  | some agentId => exact (all other member).cons _

theorem AccessInvariant.close {file : Nat} {agents : AgentList}
    (invariant : AccessInvariant config before)
    (quiet : ∀ task call, before.calls task = some call → call.file = file →
      before.busy task = false)
    (entitled : ∀ node ∈ agents, Entitled (Granted before.log) node) :
    AccessInvariant config
      { before with
        openFile := Function.update before.openFile file none
        agents := agents } where
  entitled := entitled
  stages := by
    intro task call here
    by_cases closed : call.file = file
    · exact inStage_of_idle here (quiet task call here closed)
    · apply (invariant.stages task call here).mono
      · intro node opened
        exact (Function.update_of_ne closed none before.openFile).trans opened
      · exact fun granted => granted
  noNull := by
    by_cases null : file = 0
    · subst null
      simp only [Function.update_self]
    · exact (Function.update_of_ne (Ne.symm null) none before.openFile).trans invariant.noNull
  justified := invariant.justified

theorem AccessInvariant.step (invariant : AccessInvariant config before)
    (taken : AccessState.Step config before label after) : AccessInvariant config after := by
  cases taken with
  | openNode notNull fresh passed =>
      rename_i file node caller teecd cadaemon
      constructor
      · exact invariant.entitled
      · intro task call here
        apply (invariant.stages task call here).mono
        · intro other opened
          have apart : call.file ≠ file := by
            intro same
            rw [same, fresh] at opened
            cases opened
          exact (Function.update_of_ne apart (some node) before.openFile).trans opened
        · exact fun granted => granted
      · exact (Function.update_of_ne (Ne.symm notNull) (some node) before.openFile).trans
          invariant.noNull
      · exact invariant.justified
  | enter opened idle => exact invariant.moved opened
  | check here stage opened => exact invariant.moved (clearance_inStage opened)
  | owner here stage owns =>
      rename_i task call cmd checked
      have inStage := invariant.stages task call here
      simp only [InStage, stage] at inStage
      obtain ⟨node, opened, cleared⟩ := inStage
      have notNull : call.file ≠ 0 := by
        intro null
        rw [null, invariant.noNull] at opened
        cases opened
      exact invariant.moved (owned_inStage notNull invariant.entitled opened cleared)
  | register here stage registers opened =>
      rename_i task call node checked world
      have inStage := invariant.stages task call here
      simp only [InStage, stage] at inStage
      obtain ⟨other, same, cleared⟩ := inStage
      cases opened.symm.trans same
      apply invariant.finish
      · unfold ioctlRegisterAgent
        cases args : world.args with
        | none => exact invariant.entitled
        | some read =>
            apply entitled_register
            · intro other member
              exact (invariant.entitled other member).cons _
            · intro _
              exact Or.inr ⟨_, List.mem_cons_self, registers, rfl, rfl⟩
      · intro agentId _
        constructor
        · exact cleared.authorised
        · exact fun cmd owns => nomatch registers.symm.trans owns
        · exact fun cmd owns => nomatch registers.symm.trans owns
  | command here stage owns opened =>
      rename_i task call cmd node checked world
      have inStage := invariant.stages task call here
      simp only [InStage, stage] at inStage
      obtain ⟨⟨other, same, cleared⟩, granted⟩ := inStage
      cases opened.symm.trans same
      apply invariant.finish
      · exact entitled_finish (entitled_ownerCommand invariant.entitled)
      · intro agentId reached
        obtain ⟨found, _, named⟩ := Option.map_eq_some_iff.mp reached
        subst named
        exact ⟨cleared.authorised, cleared.argument, fun _ _ => granted⟩
  | closeClient opened quiet =>
      exact invariant.close quiet (entitled_close invariant.entitled)
  | closeTeecd opened quiet =>
      exact invariant.close quiet (entitled_privateClose invariant.entitled)
  | kernelAgent notNull apart =>
      rename_i dev agentId bufferSize world
      constructor
      · apply entitled_register
        · intro node member
          exact (invariant.entitled node member).cons _
        · intro _
          exact Or.inl List.mem_cons_self
      · intro task call here
        exact (invariant.stages task call here).mono (fun _ same => same) fun granted =>
          granted.cons _
      · exact invariant.noNull
      · exact invariant.justified.kernel dev agentId
  | work =>
      constructor
      · apply forall_updateFirst invariant.entitled
        intro node _ entitled
        exact entitled.same rfl rfl
      · exact invariant.stages
      · exact invariant.noNull
      · exact invariant.justified

theorem accessInvariant_of_reachable (reached : (accessMachine config).Reachable state) :
    AccessInvariant config state := by
  apply reached.invariant
  · rintro start rfl
    constructor
    · exact fun node member => by cases member
    · exact fun task call here => by cases here
    · rfl
    · exact fun effect earlier suffix => by cases List.suffix_nil.mp suffix
  · intro before label after invariant taken
    exact invariant.step taken

/-- Whatever the callers do and however their calls interleave: a wait, an answer or an
unregistration reaches an agent only where an authorised call, or the kernel, had registered it
for the same `dev_file`, and its own call was authorised for this id; a registration was
authorised for the id that was read first.  Every agent with an owner was registered so. -/
theorem agent_effects_authorised (reached : (accessMachine config).Reachable state) :
    (∀ effect earlier, (.ioctl effect :: earlier) <:+ state.log →
      Authorised config effect.node effect.caller effect.checked ∧
        ∀ cmd, effect.cmd = .ofOwner cmd →
          (∀ agentId ∈ effect.checked, agentId = effect.agentId) ∧
            Granted earlier effect.agentId effect.file) ∧
      ∀ node ∈ state.agents, node.owner ≠ 0 → Granted state.log node.agentId node.owner := by
  have invariant := accessInvariant_of_reachable reached
  constructor
  · intro effect earlier suffix
    have justified := invariant.justified effect earlier suffix
    exact ⟨justified.authorised, fun cmd owns =>
      ⟨justified.argument cmd owns, justified.granted cmd owns⟩⟩
  · exact invariant.entitled

end Invariant

/-! ### Which agents a client can register -/

/-- A registration with an id that was checked finds the same id on its second read. -/
def Steady (state : AccessState) : AccessLabel → Prop
  | .command task world =>
      ∀ call checked, state.calls task = some call → call.cmd = .registerAgent →
        call.stage = .cleared (some checked) → ∀ args ∈ world.args, args.1 = checked
  | _ => True

/-- A run of the machine ends with this agent, registered by this caller through the client
node. -/
def Registrable (machine : Machine AccessState AccessLabel) (caller : Caller)
    (agentId : UInt32) : Prop :=
  ∃ state, machine.Reachable state ∧
    ∃ effect, .ioctl effect ∈ state.log ∧ effect.node = .client ∧ effect.caller = caller ∧
      effect.cmd = .registerAgent ∧ effect.agentId = agentId ∧
      ∃ node ∈ state.agents, node.agentId = agentId ∧ node.owner = effect.file

section Registrable

variable {config : AuthConfig} {caller opener : Caller} {checked agentId : UInt32}

def grantedWorld : TaskWorld := ⟨true, true, true⟩

def registerWorld : RegisterWorld :=
  { mailboxAlloc := fun _ => some 0x1000
    kzalloc := true
    agentBufferMap := fun _ _ => 0x2000
    registerAgentToTee := fun _ _ _ => 0 }

def commandWorld (agentId : UInt32) : CommandWorld :=
  ⟨registerWorld, some (agentId, 4096), false, true, 0⟩

def opened : AccessState :=
  ⟨[], Function.update (fun _ => none) 1 (some .client), fun _ => none, []⟩

def registering (caller : Caller) (stage : Stage) : AccessState :=
  opened.setCall 0 ⟨1, caller, .registerAgent, 0, stage⟩

def registered (caller : Caller) (checked agentId : UInt32) : AccessState :=
  (registering caller (.cleared (some checked))).finish 0 .client
    ⟨1, caller, .registerAgent, 0, .cleared (some checked)⟩ (some checked)
    (ioctlRegisterAgent [] 1 (commandWorld agentId))

/-- The run in which a caller of the white list has one id checked and registers another. -/
theorem registered_reachable {teecd cadaemon : TaskWorld}
    {allowed : AccessState → AccessLabel → Prop}
    (others : ∀ state label, (∀ task world, label ≠ .command task world) → allowed state label)
    (last : allowed (registering caller (.cleared (some checked)))
      (.command 0 (commandWorld agentId)))
    (opens : mayOpen config teecd cadaemon opener = true) (outside : ¬IsTeecd config caller)
    (listed : Listed config caller checked) :
    ((accessMachine config).restrict allowed).Reachable (registered caller checked agentId) := by
  have first : ((accessMachine config).restrict allowed).Reachable opened := by
    apply Machine.Reachable.next (.start rfl)
    exact ⟨others _ _ (fun _ _ same => by cases same), .openNode (by decide) rfl opens⟩
  have second : ((accessMachine config).restrict allowed).Reachable
      (registering caller .entered) := by
    have step : AccessState.Step config opened (.enter 0 1 caller .registerAgent 0)
        (registering caller .entered) := .enter rfl rfl
    exact first.next ⟨others _ _ (fun _ _ same => by cases same), step⟩
  have passes : clearance config .client ⟨1, caller, .registerAgent, 0, .entered⟩ grantedWorld
      grantedWorld (some checked) = .cleared (some checked) := by
    have unknown : checkTeecdAuth config grantedWorld caller ≠ 0 := fun same => outside ⟨_, same⟩
    have access : checkExtAgentAccess config grantedWorld caller checked = 0 :=
      checkExtAgentAccess_eq_zero.mpr ⟨rfl, listed⟩
    simp [clearance, unknown, getAgentId, access]
  have third : ((accessMachine config).restrict allowed).Reachable
      (registering caller (.cleared (some checked))) := by
    have step := @AccessState.Step.check config (registering caller .entered) 0
      ⟨1, caller, .registerAgent, 0, .entered⟩ .client grantedWorld grantedWorld (some checked)
      rfl rfl rfl
    rw [passes] at step
    have next := second.next ⟨others _ _ (fun _ _ same => by cases same), step⟩
    simpa [registering, AccessState.setCall] using next
  exact third.next ⟨last, .register rfl rfl rfl rfl⟩

theorem registered_registers :
    ∃ effect, .ioctl effect ∈ (registered caller checked agentId).log ∧ effect.node = .client ∧
      effect.caller = caller ∧ effect.cmd = .registerAgent ∧ effect.agentId = agentId ∧
      ∃ node ∈ (registered caller checked agentId).agents, node.agentId = agentId ∧
        node.owner = effect.file :=
  ⟨_, List.mem_cons_self, rfl, rfl, rfl, rfl, _, List.mem_cons_self, rfl, rfl⟩

theorem reachable_of_restrict {allowed : AccessState → AccessLabel → Prop} {state : AccessState}
    (reached : ((accessMachine config).restrict allowed).Reachable state) :
    (accessMachine config).Reachable state := by
  induction reached with
  | start initial => exact .start initial
  | next _ taken ih => exact .next ih taken.2

theorem steady_registrations {state : AccessState}
    (reached : ((accessMachine config).restrict Steady).Reachable state) :
    ∀ effect, .ioctl effect ∈ state.log → effect.cmd = .registerAgent →
      ∀ checked ∈ effect.checked, checked = effect.agentId := by
  induction reached with
  | start initial =>
      rw [initial]
      exact fun effect logged => by cases logged
  | next reached taken ih =>
      obtain ⟨steady, step⟩ := taken
      intro effect logged registers
      cases step with
      | openNode => exact ih effect logged registers
      | enter => exact ih effect logged registers
      | check => exact ih effect logged registers
      | owner => exact ih effect logged registers
      | closeClient => exact ih effect logged registers
      | closeTeecd => exact ih effect logged registers
      | work => exact ih effect logged registers
      | kernelAgent =>
          rcases List.mem_cons.mp logged with same | old
          · cases same
          · exact ih effect old registers
      | register here stage cmd opened =>
          rename_i state task call node checked world
          unfold AccessState.finish ioctlRegisterAgent at logged
          cases args : world.args with
          | none =>
              rw [args] at logged
              exact ih effect logged registers
          | some read =>
              rw [args] at logged
              rcases List.mem_cons.mp logged with same | old
              · cases same
                intro id member
                cases member
                exact (steady call _ here cmd stage read args).symm
              · exact ih effect old registers
      | command here stage owns opened =>
          rename_i state task call cmd node checked world
          unfold AccessState.finish at logged
          split at logged
          · exact ih effect logged registers
          · rcases List.mem_cons.mp logged with same | old
            · cases same
              exact nomatch owns.symm.trans registers
            · exact ih effect old registers

/-- What a caller that is not teecd can register through the client node.  One entry of the white
list opens every agent id to it; where the two reads of a registration agree, only its own. -/
theorem registrable_iff (opens : ∃ teecd cadaemon opener, mayOpen config teecd cadaemon opener)
    (outside : ¬IsTeecd config caller) (agentId : UInt32) :
    (Registrable (accessMachine config) caller agentId ↔
        ∃ checked, Listed config caller checked) ∧
      (Registrable ((accessMachine config).restrict Steady) caller agentId ↔
        Listed config caller agentId) := by
  obtain ⟨teecd, cadaemon, opener, opens⟩ := opens
  have listed {state : AccessState} {effect : Effect}
      (reached : (accessMachine config).Reachable state) (logged : .ioctl effect ∈ state.log)
      (client : effect.node = .client) (calls : effect.caller = caller) :
      ∃ checked ∈ effect.checked, Listed config caller checked := by
    obtain ⟨later, earlier, split⟩ := List.append_of_mem logged
    have authorised := ((accessInvariant_of_reachable reached).justified effect earlier
      ⟨later, split.symm⟩).authorised
    rw [calls, client] at authorised
    cases checked : effect.checked with
    | none =>
        rw [checked] at authorised
        rcases authorised with private_ | teecd
        · cases private_
        · exact absurd teecd outside
    | some id =>
        rw [checked] at authorised
        exact ⟨id, rfl, authorised⟩
  constructor
  · constructor
    · rintro ⟨state, reached, effect, logged, client, calls, _⟩
      obtain ⟨checked, _, entry⟩ := listed reached logged client calls
      exact ⟨checked, entry⟩
    · rintro ⟨checked, entry⟩
      refine ⟨registered caller checked agentId, ?_, registered_registers⟩
      have reached : ((accessMachine config).restrict fun _ _ => True).Reachable
          (registered caller checked agentId) :=
        registered_reachable (fun _ _ _ => trivial) trivial opens outside entry
      exact reachable_of_restrict reached
  · constructor
    · rintro ⟨state, reached, effect, logged, client, calls, registers, named, _⟩
      obtain ⟨checked, member, entry⟩ :=
        listed (reachable_of_restrict reached) logged client calls
      rw [← named, ← steady_registrations reached effect logged registers checked member]
      exact entry
    · intro entry
      refine ⟨registered caller agentId agentId, ?_, registered_registers⟩
      apply registered_reachable _ _ opens outside entry
      · intro state label other
        cases label with
        | command task world => exact absurd rfl (other task world)
        | openNode => trivial
        | enter => trivial
        | check => trivial
        | owner => trivial
        | close => trivial
        | kernelAgent => trivial
        | work => trivial
      · intro call checked here _ stage args read
        cases here
        cases stage
        cases read
        rfl

end Registrable

/-! ### A client of the white list and the agent of teecd -/

def deployed : AuthConfig :=
  { teecdAuth := true
    cadaemonAuth := false
    selinux := false
    teecdPathUidAuthCtx := pathUid "/vendor/bin/teecd".toList 0
    cadaemonPathUidAuthCtx := []
    selinuxTeecdLabel := []
    selinuxCadaemonLabel := []
    securitySecctxToSecid := fun _ => none
    whitelist := true
    tzdriver := true
    defEng := false }

def teecd : Caller := ⟨"/vendor/bin/teecd".toList, 0, 0⟩

def hiaiserver : Caller := ⟨"/vendor/bin/hiaiserver".toList, 3094, 0⟩

def agentFsId : UInt32 := 0x46536673

theorem teecd_mayOpen : mayOpen deployed grantedWorld grantedWorld teecd = true := by
  have passed : checkProcUidPath deployed.teecdPathUidAuthCtx grantedWorld teecd = 0 := by
    apply checkProcUidPath_eq_zero.mpr
    exact ⟨⟨rfl, by decide⟩, rfl, rfl⟩
  have same : checkTeecdAuth deployed grantedWorld teecd = 0 := by
    unfold checkTeecdAuth
    rw [passed]
    rfl
  simp [mayOpen, same]

theorem hiaiserver_outside : ¬IsTeecd deployed hiaiserver := by
  rintro ⟨world, passed⟩
  obtain ⟨path, _⟩ := names_of_checkTeecdAuth rfl rfl passed
  revert path
  decide

theorem hiaiserver_listed : Listed deployed hiaiserver teeSeceAgentId :=
  ⟨rfl, List.mem_cons_self⟩

theorem hiaiserver_notListed : ¬Listed deployed hiaiserver agentFsId := by
  decide

theorem agent_effects_authorised_fs : ∃ state, (accessMachine deployed).Reachable state ∧
    (∃ node ∈ state.agents, node.agentId = agentFsId ∧ node.owner ≠ 0) ∧
      ∀ node ∈ state.agents, node.owner ≠ 0 → Granted state.log node.agentId node.owner := by
  have reached : (accessMachine deployed).Reachable
      (registered hiaiserver teeSeceAgentId agentFsId) := by
    have reached : ((accessMachine deployed).restrict fun _ _ => True).Reachable
        (registered hiaiserver teeSeceAgentId agentFsId) :=
      registered_reachable (fun _ _ _ => trivial) trivial teecd_mayOpen hiaiserver_outside
        hiaiserver_listed
    exact reachable_of_restrict reached
  exact ⟨_, reached, ⟨_, List.mem_cons_self, rfl, by decide⟩,
    (agent_effects_authorised reached).2⟩

theorem registrable_iff_fs :
    Registrable (accessMachine deployed) hiaiserver agentFsId ∧
      ¬Registrable ((accessMachine deployed).restrict Steady) hiaiserver agentFsId := by
  have both := registrable_iff ⟨grantedWorld, grantedWorld, teecd, teecd_mayOpen⟩
    hiaiserver_outside agentFsId
  constructor
  · exact both.1.mpr ⟨teeSeceAgentId, hiaiserver_listed⟩
  · intro registers
    exact hiaiserver_notListed (both.2.mp registers)

end TzDriver.Agent
