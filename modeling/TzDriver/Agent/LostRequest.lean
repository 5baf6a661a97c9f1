/-
A CA that waits has a request that can be seen or an answer that is posted.

A restart of the agent's node takes both away and initialises the queue that the CA
sleeps on.
-/

import TzDriver.Agent.Handshake

namespace TzDriver.Agent

open TzDriver.Lib

/-- A responder has cleared `ret_flag` and has yet to set `ca_run`. -/
def Handshake.Halfway (shake : Handshake) : Prop :=
  (∃ request, shake.agent = .responding request .setCaRun) ∨
    CrashPoint.responding .setCaRun ∈ shake.crashes

/-- The CA is blocked in `wait_agent_response`. -/
def CaPoint.waits : CaPoint → Bool
  | .waitAgentResponse _ => true
  | _ => false

/-- One CA at a time, and no restart while it waits.  The stores of a restart are one step
here, so a CA that comes to its wait between two of them counts as waiting before. -/
def Undisturbed (shake : Handshake) : HandshakeLabel → Prop
  | .request => shake.cas = 0
  | .restart _ => ∀ ca ∈ shake.cas, ca.point.waits = false
  | _ => True

structure Kept (shake : Handshake) : Prop where
  single : ∀ ca ∈ shake.cas, shake.cas = {ca}
  waiting : ∀ ca ∈ shake.cas, ∀ inits, ca.point = .waitAgentResponse inits →
    inits = shake.inits ∧ (shake.node.retFlag = true ∨ shake.node.caRun = true ∨ shake.Halfway)

section Steps

variable {shake after : Handshake}

theorem Kept.same_cas (good : Kept shake) (cas : after.cas = shake.cas)
    (inits : after.inits = shake.inits)
    (shown : shake.node.retFlag = true → after.node.retFlag = true ∨ after.Halfway)
    (run : shake.node.caRun = true → after.node.caRun = true)
    (halfway : shake.Halfway → after.node.caRun = true ∨ after.Halfway) : Kept after := by
  refine ⟨?_, fun ca member at_ waits => ?_⟩
  · rw [cas]
    exact good.single
  · rw [cas] at member
    obtain ⟨same, posted⟩ := good.waiting ca member at_ waits
    refine ⟨same.trans inits.symm, ?_⟩
    rcases posted with retFlag | caRun | half
    · rcases shown retFlag with still | half
      · exact Or.inl still
      · exact Or.inr (Or.inr half)
    · exact Or.inr (Or.inl (run caRun))
    · exact Or.inr (halfway half)

theorem Kept.moved (good : Kept shake) {ca : Ca} {point : CaPoint} (member : ca ∈ shake.cas)
    (cas : after.cas = ⟨ca.request, point⟩ ::ₘ shake.cas.erase ca)
    (waiting : ∀ inits, point = .waitAgentResponse inits →
      inits = after.inits ∧ after.node.retFlag = true) : Kept after := by
  have whole : after.cas = {⟨ca.request, point⟩} := by
    rw [cas, good.single ca member, Multiset.erase_singleton]
    rfl
  refine ⟨fun other present => ?_, fun other present inits waits => ?_⟩
  · rw [whole] at present ⊢
    rw [Multiset.mem_singleton.mp present]
  · rw [whole] at present
    rw [Multiset.mem_singleton.mp present] at waits
    exact ⟨(waiting inits waits).1, Or.inl (waiting inits waits).2⟩

theorem Kept.left (good : Kept shake) {ca : Ca} (member : ca ∈ shake.cas)
    (cas : after.cas = shake.cas.erase ca) : Kept after := by
  have empty : after.cas = 0 := by
    rw [cas, good.single ca member, Multiset.erase_singleton]
  refine ⟨fun other present => ?_, fun other present => ?_⟩
  · rw [empty] at present
    exact absurd present (Multiset.notMem_zero other)
  · rw [empty] at present
    exact absurd present (Multiset.notMem_zero other)

theorem Kept.stepCa (good : Kept shake) {ca : Ca} {killed : Bool} (member : ca ∈ shake.cas)
    (taken : shake.stepCa ca killed = some after) : Kept after := by
  obtain ⟨request, point⟩ := ca
  unfold Handshake.stepCa at taken
  cases point with
  | checkCrashed =>
      dsimp only at taken
      split at taken
      · obtain rfl := Option.some.inj taken
        exact good.left member rfl
      · obtain rfl := Option.some.inj taken
        exact good.moved member rfl fun inits waits => by cases waits
  | postRequest =>
      obtain rfl := Option.some.inj taken
      refine good.moved member rfl fun inits waits => ?_
      obtain rfl := CaPoint.waitAgentResponse.inj waits
      exact ⟨rfl, rfl⟩
  | waitAgentResponse inits =>
      dsimp only at taken
      split at taken
      · obtain rfl := Option.some.inj taken
        exact good.moved member rfl fun inits waits => by cases waits
      · split at taken
        · obtain rfl := Option.some.inj taken
          exact good.moved member rfl fun inits waits => by cases waits
        · cases taken
  | withdraw =>
      obtain rfl := Option.some.inj taken
      exact good.moved member rfl fun inits waits => by cases waits
  | answered source =>
      obtain rfl := Option.some.inj taken
      exact good.left member rfl
  | killed =>
      obtain rfl := Option.some.inj taken
      exact good.left member rfl

theorem Kept.stepAgent (good : Kept shake) {interrupted : Bool}
    (taken : shake.stepAgent interrupted = some after) : Kept after := by
  -- an agent that is not between its two stores may move as it likes
  have elsewhere (agent : AgentLoop) (node : SmcEventData)
      (notHalf : ∀ request, shake.agent ≠ .responding request .setCaRun)
      (retFlag : node.retFlag = shake.node.retFlag) (caRun : node.caRun = shake.node.caRun) :
      Kept { shake with agent := agent, node := node } := by
    refine good.same_cas rfl rfl (fun shown => Or.inl (retFlag.trans shown))
      (fun run => caRun.trans run) fun half => Or.inr ?_
    rcases half with ⟨request, here⟩ | crash
    · exact absurd here (notHalf request)
    · exact Or.inr crash
  unfold Handshake.stepAgent at taken
  split at taken
  · cases taken
  · next here =>
      obtain rfl := Option.some.inj taken
      exact elsewhere _ _ (fun request half => by rw [here] at half; cases half) rfl rfl
  · next here =>
      split at taken
      · obtain rfl := Option.some.inj taken
        exact elsewhere _ _ (fun request half => by rw [here] at half; cases half) rfl rfl
      · split at taken
        · obtain rfl := Option.some.inj taken
          exact elsewhere _ _ (fun request half => by rw [here] at half; cases half) rfl rfl
        · cases taken
  · next request here =>
      obtain rfl := Option.some.inj taken
      exact elsewhere _ _ (fun other half => by rw [here] at half; cases half) rfl rfl
  · next request point here =>
      obtain rfl := Option.some.inj taken
      cases point with
      | check => exact elsewhere _ _ (fun other half => by rw [here] at half; cases half) rfl rfl
      | clearRetFlag =>
          exact good.same_cas rfl rfl (fun _ => Or.inr (Or.inl ⟨request, rfl⟩)) (fun run => run)
            fun _ => Or.inr (Or.inl ⟨request, rfl⟩)
      | setCaRun =>
          exact good.same_cas rfl rfl Or.inl (fun _ => rfl) fun _ => Or.inl rfl

theorem Kept.stepCrash (good : Kept shake) {point : CrashPoint} :
    Kept (shake.stepCrash point) := by
  have elsewhere (node : SmcEventData) (more : Multiset CrashPoint)
      (notHalf : point ≠ .responding .setCaRun)
      (retFlag : node.retFlag = shake.node.retFlag) (caRun : node.caRun = shake.node.caRun) :
      Kept { shake with node := node, crashes := more + shake.crashes.erase point } := by
    refine good.same_cas rfl rfl (fun shown => Or.inl (retFlag.trans shown))
      (fun run => caRun.trans run) fun half => Or.inr ?_
    rcases half with agent | crash
    · exact Or.inl agent
    · exact Or.inr (Multiset.mem_add.mpr (Or.inr
        ((Multiset.mem_erase_of_ne fun same => notHalf same.symm).mpr crash)))
  cases point with
  | setCrashed =>
      have done := elsewhere { shake.node with agentReady := .crashed } {.responding .check}
        (by decide) rfl rfl
      rw [Multiset.singleton_add] at done
      exact done
  | responding at_ =>
      cases at_ with
      | check =>
          unfold Handshake.stepCrash Handshake.respond
          dsimp only
          by_cases shown : shake.node.retFlag = true
          · have done := elsewhere shake.node {.responding .clearRetFlag} (by decide) rfl rfl
            rw [Multiset.singleton_add] at done
            simp only [shown, if_true]
            exact done
          · have done := elsewhere shake.node 0 (by decide) rfl rfl
            rw [Multiset.zero_add] at done
            simp only [shown, Bool.false_eq_true, if_false]
            exact done
      | clearRetFlag =>
          exact good.same_cas rfl rfl (fun _ => Or.inr (Or.inr (Multiset.mem_cons_self _ _)))
            (fun run => run) fun _ => Or.inr (Or.inr (Multiset.mem_cons_self _ _))
      | setCaRun => exact good.same_cas rfl rfl Or.inl (fun _ => rfl) fun _ => Or.inl rfl

theorem Kept.step (good : Kept shake) {label : HandshakeLabel} (undisturbed : Undisturbed shake label)
    (taken : shake.step label = some after) : Kept after := by
  cases label with
  | request =>
      obtain rfl := Option.some.inj taken
      have empty : shake.cas = 0 := undisturbed
      have whole : ⟨shake.requests, CaPoint.checkCrashed⟩ ::ₘ shake.cas =
          {⟨shake.requests, CaPoint.checkCrashed⟩} := by
        rw [empty]
        rfl
      refine ⟨fun other present => ?_, fun other present inits waits => ?_⟩
      · dsimp only at present ⊢
        rw [whole] at present ⊢
        rw [Multiset.mem_singleton.mp present]
      · dsimp only at present
        rw [whole] at present
        rw [Multiset.mem_singleton.mp present] at waits
        cases waits
  | ca ca killed =>
      simp only [Handshake.step] at taken
      split at taken
      · next member => exact good.stepCa member taken
      · cases taken
  | agent interrupted => exact good.stepAgent taken
  | die =>
      simp only [Handshake.step] at taken
      split at taken
      · cases taken
      · cases taken
      · next notResponding =>
          obtain rfl := Option.some.inj taken
          refine good.same_cas rfl rfl Or.inl (fun run => run) fun half => Or.inr ?_
          rcases half with ⟨request, here⟩ | crash
          · exact absurd here (notResponding request .setCaRun)
          · exact Or.inr (Multiset.mem_cons_of_mem crash)
  | crash point =>
      simp only [Handshake.step] at taken
      split at taken
      · obtain rfl := Option.some.inj taken
        exact good.stepCrash
      · cases taken
  | restart devFile =>
      simp only [Handshake.step] at taken
      split at taken
      · obtain rfl := Option.some.inj taken
        refine ⟨good.single, fun ca member inits waits => ?_⟩
        have notWaiting := undisturbed ca member
        rw [waits] at notWaiting
        cases notWaiting
      · cases taken

end Steps

/-! ### Whole runs -/

theorem kept_of_reachable {shake : Handshake}
    (reached : (handshakeMachine.restrict Undisturbed).Reachable shake) : Kept shake := by
  induction reached with
  | start initial =>
      obtain ⟨-, -, -, -, empty, -, -⟩ := initial
      refine ⟨fun ca member => ?_, fun ca member => ?_⟩
      · rw [empty] at member
        exact absurd member (Multiset.notMem_zero ca)
      · rw [empty] at member
        exact absurd member (Multiset.notMem_zero ca)
  | next _ taken ih => exact ih.step taken.1 taken.2

/-- In every run with one CA at a time and no restart while it waits: the queue of a
waiting CA is the one it sleeps on, and its request can be seen or its answer is posted,
or a responder is between the two stores that exchange the one for the other. -/
theorem no_request_lost {shake : Handshake}
    (reached : (handshakeMachine.restrict Undisturbed).Reachable shake) {ca : Ca} {inits : Nat}
    (member : ca ∈ shake.cas) (waits : ca.point = .waitAgentResponse inits) :
    inits = shake.inits ∧
      (¬shake.Halfway → shake.node.retFlag = true ∨ shake.node.caRun = true) := by
  obtain ⟨same, posted⟩ := (kept_of_reachable reached).waiting ca member inits waits
  refine ⟨same, fun notHalf => ?_⟩
  rcases posted with retFlag | caRun | half
  · exact Or.inl retFlag
  · exact Or.inr caRun
  · exact absurd half notHalf

instance (shake : Handshake) (label : HandshakeLabel) : Decidable (Undisturbed shake label) :=
  match label with
  | .request => inferInstanceAs (Decidable (shake.cas = 0))
  | .ca _ _ => inferInstanceAs (Decidable True)
  | .agent _ => inferInstanceAs (Decidable True)
  | .die => inferInstanceAs (Decidable True)
  | .crash _ => inferInstanceAs (Decidable True)
  | .restart _ => inferInstanceAs (Decidable (∀ ca ∈ shake.cas, ca.point.waits = false))

/-- The first request is answered; the agent crashes and is restarted, and another CA
posts. -/
def secondPosted : List HandshakeLabel :=
  [.request, .ca ⟨0, .checkCrashed⟩ false, .agent false, .ca ⟨0, .postRequest⟩ false,
    .agent false, .agent false, .agent false, .agent false, .agent false,
    .ca ⟨0, .waitAgentResponse 0⟩ false, .ca ⟨0, .answered (some (.agent 0))⟩ false, .die,
    .crash .setCrashed, .crash (.responding .check), .restart 8, .request,
    .ca ⟨1, .checkCrashed⟩ false, .ca ⟨1, .postRequest⟩ false]

theorem no_request_lost_second :
    ∃ shake : Handshake, shake.completed = [(0, some (.agent 0))] ∧
      ⟨1, .waitAgentResponse 1⟩ ∈ shake.cas ∧ 1 = shake.inits ∧
      (¬shake.Halfway → shake.node.retFlag = true ∨ shake.node.caRun = true) := by
  have ran : (Machine.replay (Machine.guarded Undisturbed Handshake.step) newHandshake
      secondPosted).map (fun shake => decide (shake.completed = [(0, some (.agent 0))] ∧
        ⟨1, .waitAgentResponse 1⟩ ∈ shake.cas)) = some true := by
    decide +kernel
  have initial : (handshakeMachine.restrict Undisturbed).Reachable newHandshake :=
    .start newHandshake_init
  obtain ⟨shake, reached, passed⟩ := initial.exists_of_replay
    (Machine.guarded_sound handshake_step_sound) ran
  obtain ⟨completed, member⟩ := of_decide_eq_true passed
  exact ⟨shake, completed, member, no_request_lost reached member rfl⟩

/-- The agent crashes after a CA's check and is restarted after the CA has posted: the CA
waits on a queue that is gone, and neither flag is set. -/
theorem restart_drops_request :
    ∃ shake, (handshakeMachine.restrict TeeInTurn).Reachable shake ∧
      ⟨0, .waitAgentResponse 0⟩ ∈ shake.cas ∧ shake.inits = 1 ∧ shake.crashes = 0 ∧
      shake.agent = .idle ∧ shake.node.retFlag = false ∧ shake.node.caRun = false := by
  have ran : (Machine.replay (Machine.guarded TeeInTurn Handshake.step) newHandshake
      [.request, .ca ⟨0, .checkCrashed⟩ false, .die, .crash .setCrashed,
        .crash (.responding .check), .ca ⟨0, .postRequest⟩ false, .restart 8]).map
        (fun shake => decide (⟨0, .waitAgentResponse 0⟩ ∈ shake.cas ∧ shake.inits = 1 ∧
          shake.crashes = 0 ∧ shake.agent = .idle ∧ shake.node.retFlag = false ∧
          shake.node.caRun = false)) = some true := by
    decide +kernel
  have initial : (handshakeMachine.restrict TeeInTurn).Reachable newHandshake :=
    .start newHandshake_init
  obtain ⟨shake, reached, passed⟩ := initial.exists_of_replay
    (Machine.guarded_sound handshake_step_sound) ran
  exact ⟨shake, reached, of_decide_eq_true passed⟩

end TzDriver.Agent
