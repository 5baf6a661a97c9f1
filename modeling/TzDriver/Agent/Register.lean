/-
Registration of an agent, all or nothing.

`tc_ns_register_agent` leaves through one error label with whatever `ret` holds.
When the mapping of the buffer fails, that is the 0 of the step before for a new
agent, and for a restarting agent the node has been rewritten already.
-/

import TzDriver.Agent.Node

namespace TzDriver.Agent

open TzDriver.Lib

/-! ### All or nothing -/

def SmcEventData.mappedBuffer (node : SmcEventData) (userAgent : Bool) : Nat :=
  if userAgent then node.agentBuffUser else node.agentBuffKernel

/-- The part of a node that other calls decide by. -/
def SmcEventData.status (node : SmcEventData) : UInt32 × Nat × AgentState × Bool × Bool :=
  (node.agentId, node.owner, node.agentReady, node.retFlag, node.caRun)

structure AllOrNothing (agents : AgentList) (request : RegisterRequest) (result : RegisterResult) :
    Prop where
  all : result.ret = 0 ↔ ∃ node ∈ result.agents, node.agentId = request.agentId ∧
    node.owner = request.devFile ∧ result.buffer = some (node.mappedBuffer request.userAgent)
  nothing : result.ret ≠ 0 →
    result.agents.map SmcEventData.status = agents.map SmcEventData.status

/-- The call gets as far as the mapping of a user agent's buffer, and the mapping
fails. -/
def RegisterRequest.MapFails (request : RegisterRequest) (world : RegisterWorld)
    (agents : AgentList) : Prop :=
  request.buffer = true ∧ request.userAgent = true ∧ request.bufferSize ≤ Mailbox.sz4K ∧
    match agents.find? (fun node => node.agentId == request.agentId) with
    | some node => node.agentReady = .crashed ∧
        isErr (world.agentBufferMap node.agentBuffKernel node.agentBuffSize) = true
    | none => world.kzalloc = true ∧ ∃ agentBuff,
        world.mailboxAlloc (alignSize request.bufferSize) = some agentBuff ∧
        isErr (world.agentBufferMap agentBuff (alignSize request.bufferSize)) = true

section Outcomes

variable {world : RegisterWorld} {agents : AgentList} {request : RegisterRequest}

theorem AllOrNothing.of_failed {ret : Int} {buffer freed : Option Nat} (failed : ret ≠ 0)
    (noNode : buffer = none ∨ ∀ node ∈ agents, node.agentId ≠ request.agentId) :
    AllOrNothing agents request ⟨ret, agents, buffer, freed⟩ := by
  refine ⟨⟨fun zero => absurd zero failed, ?_⟩, fun _ => rfl⟩
  intro given
  obtain ⟨node, member, sameId, _, returned⟩ := given
  rcases noNode with unset | absent
  · rw [unset] at returned
    cases returned
  · exact absurd sameId (absent node member)

theorem isValidAgent_eq_false {bufferSize : Nat} {userAgent : Bool} :
    isValidAgent bufferSize userAgent = false ↔
      userAgent = true ∧ Mailbox.sz4K < bufferSize := by
  simp [isValidAgent]

theorem size_of_valid {bufferSize : Nat} {userAgent : Bool}
    (valid : ¬isValidAgent bufferSize userAgent = false) (user : userAgent = true) :
    bufferSize ≤ Mailbox.sz4K := by
  by_contra large
  exact valid (isValidAgent_eq_false.mpr ⟨user, by omega⟩)

/-- `get_agent_buffer` fails exactly when it maps and the mapping fails. -/
theorem getAgentBuffer_cases (world : RegisterWorld) (node : SmcEventData) (userAgent : Bool) :
    (userAgent = true ∧
      isErr (world.agentBufferMap node.agentBuffKernel node.agentBuffSize) = true ∧
      getAgentBuffer world node userAgent =
        ({ node with agentBuffUser :=
            world.agentBufferMap node.agentBuffKernel node.agentBuffSize }, .error (-eFault))) ∨
    ((userAgent = true →
        isErr (world.agentBufferMap node.agentBuffKernel node.agentBuffSize) = false) ∧
      ∃ user, getAgentBuffer world node userAgent =
        ({ node with agentBuffUser := user },
          .ok (SmcEventData.mappedBuffer { node with agentBuffUser := user } userAgent))) := by
  cases userAgent with
  | false =>
      refine Or.inr ⟨?_, node.agentBuffUser, rfl⟩
      intro user
      cases user
  | true =>
      cases mapped : isErr (world.agentBufferMap node.agentBuffKernel node.agentBuffSize) with
      | true => exact Or.inl ⟨rfl, rfl, by simp [getAgentBuffer, mapped]⟩
      | false =>
          refine Or.inr ⟨fun _ => rfl,
            world.agentBufferMap node.agentBuffKernel node.agentBuffSize, ?_⟩
          simp only [getAgentBuffer, mapped, if_true, Bool.false_eq_true, if_false]
          rfl

theorem not_allOrNothing_of_rewritten {before after : AgentList} {node rewritten : SmcEventData}
    {ret : Int} {buffer freed : Option Nat} (failed : ret ≠ 0) (crashed : node.agentReady = .crashed)
    (registered : rewritten.agentReady = .registered) :
    ¬AllOrNothing (before ++ node :: after) request
      ⟨ret, before ++ rewritten :: after, buffer, freed⟩ := by
  intro held
  have same := held.nothing failed
  simp only [List.map_append, List.map_cons] at same
  have tails := List.append_cancel_left same
  have status := (List.cons.inj tails).1
  simp only [SmcEventData.status, Prod.mk.injEq, crashed, registered] at status
  exact absurd status.2.2.1 (by decide)

theorem register_new_iff (given : request.buffer = true)
    (valid : ¬isValidAgent request.bufferSize request.userAgent = false)
    (absent : ∀ other ∈ agents, (other.agentId == request.agentId) = false) :
    AllOrNothing agents request (tcNsRegisterAgent world agents request) ↔
      ¬request.MapFails world agents := by
  have small := size_of_valid valid
  unfold tcNsRegisterAgent RegisterRequest.MapFails isAgentAlreadyExist
  rw [if_neg (by simp [given]), if_neg valid, List.find?_eq_none.mpr (by simpa using absent)]
  have noNode : ∀ node ∈ agents, node.agentId ≠ request.agentId := by
    intro node member
    simpa using absent node member
  dsimp only
  unfold createNewAgentNode
  cases allocated : world.mailboxAlloc (alignSize request.bufferSize) with
  | none =>
      apply iff_of_true (.of_failed (by decide) (Or.inl rfl))
      intro known
      obtain ⟨_, _, _, _, _, impossible, _⟩ := known
      cases impossible
  | some agentBuff =>
      dsimp only
      by_cases noMemory : world.kzalloc = false
      · rw [if_pos noMemory]
        apply iff_of_true (.of_failed (by decide) (Or.inl rfl))
        intro known
        obtain ⟨_, _, _, memory, _⟩ := known
        rw [noMemory] at memory
        cases memory
      rw [if_neg noMemory]
      have memory : world.kzalloc = true := by simpa using noMemory
      dsimp only
      rcases getAgentBuffer_cases world _ request.userAgent with
        ⟨user, fails, buffer⟩ | ⟨maps, user, buffer⟩
      · rw [buffer]
        refine iff_of_false ?_
          (not_not_intro ⟨given, user, small user, memory, agentBuff, rfl, fails⟩)
        intro held
        obtain ⟨node, member, sameId, _⟩ := held.all.mp rfl
        exact noNode node member sameId
      · rw [buffer]
        dsimp only
        have notFails : ¬(request.buffer = true ∧ request.userAgent = true ∧
            request.bufferSize ≤ Mailbox.sz4K ∧ world.kzalloc = true ∧ ∃ taken,
              some agentBuff = some taken ∧
              isErr (world.agentBufferMap taken (alignSize request.bufferSize)) = true) := by
          intro known
          obtain ⟨_, isUser, _, _, taken, same, fails⟩ := known
          obtain rfl := Option.some.inj same
          rw [maps isUser] at fails
          cases fails
        refine iff_of_true ?_ notFails
        by_cases refused :
            world.registerAgentToTee request.agentId agentBuff (alignSize request.bufferSize) ≠ 0
        · rw [if_pos refused]
          exact .of_failed refused (Or.inr noNode)
        · rw [if_neg refused]
          refine ⟨⟨fun _ => ?_, fun _ => rfl⟩, fun failed => absurd rfl failed⟩
          exact ⟨_, List.mem_append_right _ (List.mem_singleton_self _), rfl, rfl, rfl⟩

theorem register_again_iff {before after : AgentList} {node : SmcEventData}
    (given : request.buffer = true)
    (valid : ¬isValidAgent request.bufferSize request.userAgent = false)
    (found : (node.agentId == request.agentId) = true)
    (others : ∀ other ∈ before, (other.agentId == request.agentId) = false) :
    AllOrNothing (before ++ node :: after) request
        (tcNsRegisterAgent world (before ++ node :: after) request) ↔
      ¬request.MapFails world (before ++ node :: after) := by
  have inval : -eInval ≠ 0 := by decide
  have small := size_of_valid valid
  unfold tcNsRegisterAgent RegisterRequest.MapFails isAgentAlreadyExist
  rw [if_neg (by simp [given]), if_neg valid, find?_walk others found]
  have sameId : node.agentId = request.agentId := by simpa using found
  dsimp only
  by_cases alive : node.agentReady ≠ .crashed
  · rw [if_pos alive]
    apply iff_of_true (.of_failed inval (Or.inl rfl))
    intro known
    obtain ⟨_, _, _, crashed, _⟩ := known
    exact alive crashed
  rw [if_neg alive]
  have crashed : node.agentReady = .crashed := not_not.mp alive
  dsimp only
  rw [updateFirst_append others found,
    updateFirst_append others (by exact found)]
  rcases getAgentBuffer_cases world (node.getAgentEvent.initRestartAgentNode request.devFile)
    request.userAgent with ⟨user, fails, buffer⟩ | ⟨maps, user, buffer⟩
  · rw [buffer]
    refine iff_of_false ?_ (not_not_intro ⟨given, user, small user, crashed, fails⟩)
    exact not_allOrNothing_of_rewritten inval crashed rfl
  · rw [buffer]
    have notFails : ¬(request.buffer = true ∧ request.userAgent = true ∧
        request.bufferSize ≤ Mailbox.sz4K ∧ node.agentReady = .crashed ∧
          isErr (world.agentBufferMap node.agentBuffKernel node.agentBuffSize) = true) := by
      intro known
      obtain ⟨_, isUser, _, _, fails⟩ := known
      have works := maps isUser
      change isErr (world.agentBufferMap node.agentBuffKernel node.agentBuffSize) = false at works
      rw [works] at fails
      cases fails
    refine iff_of_true ?_ notFails
    refine ⟨⟨fun _ => ?_, fun _ => rfl⟩, fun failed => absurd rfl failed⟩
    exact ⟨_, List.mem_append_right _ List.mem_cons_self, sameId, rfl, rfl⟩

end Outcomes

/-- Registration is all or nothing unless a mapping fails. -/
theorem register_all_or_nothing_iff (world : RegisterWorld) (agents : AgentList)
    (request : RegisterRequest) :
    AllOrNothing agents request (tcNsRegisterAgent world agents request) ↔
      ¬request.MapFails world agents := by
  have inval : -eInval ≠ 0 := by decide
  by_cases noBuffer : request.buffer = false
  · rw [tcNsRegisterAgent, if_pos noBuffer]
    apply iff_of_true (.of_failed inval (Or.inl rfl))
    intro known
    obtain ⟨given, _⟩ := known
    rw [noBuffer] at given
    cases given
  have given : request.buffer = true := by simpa using noBuffer
  by_cases invalid : isValidAgent request.bufferSize request.userAgent = false
  · rw [tcNsRegisterAgent, if_neg noBuffer, if_pos invalid]
    apply iff_of_true (.of_failed inval (Or.inl rfl))
    intro known
    obtain ⟨_, _, small, _⟩ := known
    have large := (isValidAgent_eq_false.mp invalid).2
    omega
  rcases walk (fun node => node.agentId == request.agentId) agents with
    absent | ⟨before, node, after, rfl, found, others⟩
  · exact register_new_iff given invalid absent
  · exact register_again_iff given invalid found others

/-- A first registration whose mapping fails returns 0 with no node on the list. -/
theorem failed_mapping_returns_zero :
    ¬AllOrNothing [] ⟨8, 0x46536673, 4096, true, true⟩
      (tcNsRegisterAgent ⟨fun _ => some 4096, true, fun _ _ => 2 ^ 64 - 12, fun _ _ _ => 0⟩ []
        ⟨8, 0x46536673, 4096, true, true⟩) := by
  intro held
  obtain ⟨node, member, _⟩ := held.all.mp (by decide)
  exact absurd member (List.not_mem_nil)

end TzDriver.Agent
