/-
Whose answer a CA gets.

A CA is completed by the agent's answer to its own request, or by a crash.  A killed CA may
return while the agent is at work on its request: the late answer is dropped, as long as no
other CA posts before the agent has finished with it.
-/

import TzDriver.Agent.Handshake

namespace TzDriver.Agent

open TzDriver.Lib

/-- The CA has shown its request to the agent. -/
def CaPoint.posted : CaPoint → Bool
  | .checkCrashed => false
  | .postRequest => false
  | _ => true

/-- The CA has only to clear `ca_run` and return. -/
def CaPoint.returning : CaPoint → Bool
  | .answered _ => true
  | .killed => true
  | _ => false

/-- The request that the agent has taken and not finished answering. -/
def AgentLoop.holding : AgentLoop → Option Nat
  | .took request => some request
  | .responding request _ => some request
  | _ => none

/-- Behind its look at `ret_flag`, and before it has set `ca_run`. -/
def AgentLoop.storing : AgentLoop → Bool
  | .responding _ .clearRetFlag => true
  | .responding _ .setCaRun => true
  | _ => false

/-- No CA posts while the agent has not finished with a request, and no CA returns while the
agent can see its request or is about to set `ca_run`. -/
def Attended (shake : Handshake) : HandshakeLabel → Prop
  | .ca ca _ =>
      (ca.point = .postRequest → shake.agent.holding = none) ∧
        (ca.point.returning = true →
          shake.node.retFlag = false ∧ shake.agent.storing = false)
  | _ => True

def RightAnswer (request : Nat) (source : Option Source) : Prop :=
  source = some (.agent request) ∨ source = some .crash

/-- The one CA in `agent_process_work` waits for this request. -/
def Handshake.On (shake : Handshake) (request : Nat) : Prop :=
  ∃ point : CaPoint, point.posted = true ∧ shake.cas = {⟨request, point⟩}

/-- No CA has shown a request that is still to be answered. -/
def Handshake.Withdrawn (shake : Handshake) : Prop :=
  shake.node.retFlag = false ∧ ∀ ca ∈ shake.cas, ca.point.posted = false

/-- What the agent has taken is the request of the CA, or an abandoned one that it will not
answer. -/
def Handshake.Holds (shake : Handshake) (agent : AgentLoop) : Prop :=
  ∀ request, agent.holding = some request →
    shake.On request ∨ agent.storing = false ∧ shake.Withdrawn

structure Matched (shake : Handshake) : Prop where
  single : ∀ ca ∈ shake.cas, shake.cas = {ca}
  held : shake.Holds shake.agent
  visible : shake.node.retFlag = true → shake.On shake.posted
  fresh : shake.node.caRun = true → ∀ request, shake.answer = some (.agent request) →
    shake.On request
  known : shake.node.caRun = true → shake.answer ≠ none
  answered : ∀ ca ∈ shake.cas, ∀ source, ca.point = .answered source →
    RightAnswer ca.request source
  completed : ∀ entry ∈ shake.completed, RightAnswer entry.1 entry.2

section Steps

variable {shake after : Handshake}

theorem on_single {ca : Ca} {request : Nat} (whole : shake.cas = {ca}) :
    shake.On request ↔ ca.request = request ∧ ca.point.posted = true := by
  constructor
  · intro given
    obtain ⟨point, posted, same⟩ := given
    rw [whole] at same
    obtain rfl := Multiset.singleton_inj.mp same
    exact ⟨rfl, posted⟩
  · intro given
    obtain ⟨rfl, posted⟩ := given
    exact ⟨ca.point, posted, whole⟩

theorem mem_single {ca other : Ca} (whole : shake.cas = {ca}) (member : other ∈ shake.cas) :
    other = ca := by
  rw [whole] at member
  exact Multiset.mem_singleton.mp member

theorem not_on_empty {request : Nat} (empty : shake.cas = 0) : ¬shake.On request := by
  intro given
  obtain ⟨point, -, same⟩ := given
  rw [empty] at same
  exact absurd same.symm (Multiset.singleton_ne_zero _)

theorem holding_of_storing {agent : AgentLoop} (storing : agent.storing = true) :
    ∃ request, agent.holding = some request := by
  cases agent with
  | responding request point => exact ⟨request, rfl⟩
  | _ => cases storing

theorem holds_of_idle {agent : AgentLoop} (idle : agent.holding = none) : shake.Holds agent := by
  intro request holds
  rw [idle] at holds
  cases holds

theorem Matched.on_of_storing (good : Matched shake) {request : Nat}
    (storing : shake.agent.storing = true) (holds : shake.agent.holding = some request) :
    shake.On request := by
  rcases good.held request holds with on | ⟨before, -⟩
  · exact on
  · rw [storing] at before
    cases before

theorem Matched.same_cas (good : Matched shake) (cas : after.cas = shake.cas)
    (completed : after.completed = shake.completed) (held : shake.Holds after.agent)
    (hidden : shake.node.retFlag = false → after.node.retFlag = false)
    (visible : after.node.retFlag = true → shake.On after.posted)
    (fresh : after.node.caRun = true → ∀ request, after.answer = some (.agent request) →
      shake.On request)
    (known : after.node.caRun = true → after.answer ≠ none) : Matched after := by
  have on (request : Nat) (before : shake.On request) : after.On request := by
    obtain ⟨point, posted, whole⟩ := before
    exact ⟨point, posted, cas.trans whole⟩
  have withdrawn (before : shake.Withdrawn) : after.Withdrawn :=
    ⟨hidden before.1, cas ▸ before.2⟩
  refine ⟨?_, fun request holds => ?_, fun shown => on _ (visible shown),
    fun run request source => on _ (fresh run request source), known, ?_, ?_⟩
  · rw [cas]
    exact good.single
  · rcases held request holds with shown | ⟨storing, before⟩
    · exact Or.inl (on _ shown)
    · exact Or.inr ⟨storing, withdrawn before⟩
  · rw [cas]
    exact good.answered
  · rw [completed]
    exact good.completed

theorem Matched.moved (good : Matched shake) {ca : Ca} {point : CaPoint} (member : ca ∈ shake.cas)
    (cas : after.cas = ⟨ca.request, point⟩ ::ₘ shake.cas.erase ca)
    (completed : after.completed = shake.completed) (agent : after.agent = shake.agent)
    (caRun : after.node.caRun = shake.node.caRun) (answer : after.answer = shake.answer)
    (posted : ca.point.posted = true → point.posted = true)
    (withdrawn : ca.point.posted = false → shake.agent.holding ≠ none →
      shake.node.retFlag = false → after.node.retFlag = false ∧ point.posted = false)
    (visible : after.node.retFlag = true → after.posted = ca.request ∧ point.posted = true)
    (answered : ∀ source, point = .answered source → RightAnswer ca.request source) :
    Matched after := by
  have whole := good.single ca member
  have wholeAfter : after.cas = {⟨ca.request, point⟩} := by
    rw [cas, whole, Multiset.erase_singleton]
    rfl
  have on (request : Nat) (before : shake.On request) : after.On request := by
    obtain ⟨same, wasPosted⟩ := (on_single whole).mp before
    exact (on_single wholeAfter).mpr ⟨same, posted wasPosted⟩
  refine ⟨fun other present => ?_, fun request holds => ?_, fun shown => ?_,
    fun run request source => on _ (good.fresh ?_ request ?_), fun run => ?_,
    fun other present source finished => ?_, ?_⟩
  · rw [mem_single wholeAfter present]
    exact wholeAfter
  · rw [agent] at holds ⊢
    rcases good.held request holds with shown | ⟨storing, hidden, unposted⟩
    · exact Or.inl (on _ shown)
    · have busy : shake.agent.holding ≠ none := by
        rw [holds]
        exact Option.some_ne_none request
      obtain ⟨hiddenAfter, unpostedAfter⟩ := withdrawn (unposted ca member) busy hidden
      refine Or.inr ⟨storing, hiddenAfter, fun other present => ?_⟩
      rw [mem_single wholeAfter present]
      exact unpostedAfter
  · exact (on_single wholeAfter).mpr ⟨(visible shown).1.symm, (visible shown).2⟩
  · rw [← caRun]
    exact run
  · rw [← answer]
    exact source
  · rw [answer]
    exact good.known (caRun ▸ run)
  · rw [mem_single wholeAfter present] at finished ⊢
    exact answered source finished
  · rw [completed]
    exact good.completed

theorem Matched.left (good : Matched shake) {ca : Ca} (member : ca ∈ shake.cas)
    (cas : after.cas = shake.cas.erase ca)
    (completed : ∀ entry ∈ after.completed, RightAnswer entry.1 entry.2)
    (agent : after.agent = shake.agent) (storing : shake.agent.storing = false)
    (hidden : after.node.retFlag = false)
    (caRun : after.node.caRun = false ∨ after.node.caRun = shake.node.caRun ∧
      after.answer = shake.answer ∧ ca.point.posted = false) : Matched after := by
  have whole := good.single ca member
  have empty : after.cas = 0 := by
    rw [cas, whole, Multiset.erase_singleton]
  have none (other : Ca) : other ∉ after.cas := by
    rw [empty]
    exact Multiset.notMem_zero other
  refine ⟨fun other present => absurd present (none other), fun request holds => ?_,
    fun shown => ?_, fun run request source => ?_, fun run => ?_,
    fun other present => absurd present (none other), completed⟩
  · rw [agent]
    exact Or.inr ⟨storing, hidden, fun other present => absurd present (none other)⟩
  · rw [hidden] at shown
    cases shown
  · rcases caRun with cleared | ⟨same, answer, notPosted⟩
    · rw [cleared] at run
      cases run
    · obtain ⟨-, posted⟩ := (on_single whole).mp (good.fresh (same ▸ run) request (answer ▸ source))
      rw [notPosted] at posted
      cases posted
  · rcases caRun with cleared | ⟨same, answer, -⟩
    · rw [cleared] at run
      cases run
    · rw [answer]
      exact good.known (same ▸ run)

theorem Matched.stepCa (good : Matched shake) {ca : Ca} {killed : Bool} (member : ca ∈ shake.cas)
    (attended : Attended shake (.ca ca killed)) (taken : shake.stepCa ca killed = some after) :
    Matched after := by
  have whole := good.single ca member
  obtain ⟨posts, returns⟩ := attended
  obtain ⟨request, point⟩ := ca
  unfold Handshake.stepCa at taken
  have hidden (notPosted : point.posted = false) : shake.node.retFlag = false := by
    rw [Bool.eq_false_iff]
    intro shown
    have posted := ((on_single whole).mp (good.visible shown)).2
    rw [notPosted] at posted
    cases posted
  have notStoring (notPosted : point.posted = false) : shake.agent.storing = false := by
    rw [Bool.eq_false_iff]
    intro storing
    obtain ⟨other, holds⟩ := holding_of_storing storing
    have posted := ((on_single whole).mp (good.on_of_storing storing holds)).2
    rw [notPosted] at posted
    cases posted
  have shownRequest (shown : shake.node.retFlag = true) : shake.posted = request :=
    ((on_single whole).mp (good.visible shown)).1.symm
  cases point with
  | checkCrashed =>
      dsimp only at taken
      split at taken
      · obtain rfl := Option.some.inj taken
        exact good.left member rfl good.completed rfl (notStoring rfl) (hidden rfl)
          (Or.inr ⟨rfl, rfl, rfl⟩)
      · obtain rfl := Option.some.inj taken
        refine good.moved member rfl rfl rfl rfl rfl (fun posted => posted)
          (fun _ _ unseen => ⟨unseen, rfl⟩) (fun shown => ?_) fun source finished => by cases finished
        exact absurd (shown.symm.trans (hidden rfl)) (by decide)
  | postRequest =>
      obtain rfl := Option.some.inj taken
      exact good.moved member rfl rfl rfl rfl rfl (fun posted => rfl)
        (fun _ busy => absurd (posts rfl) busy) (fun _ => ⟨rfl, rfl⟩)
        fun source finished => by cases finished
  | waitAgentResponse inits =>
      dsimp only at taken
      split at taken
      · next run =>
          obtain rfl := Option.some.inj taken
          refine good.moved member rfl rfl rfl rfl rfl (fun posted => rfl)
            (fun unposted => by cases unposted) (fun shown => ⟨shownRequest shown, rfl⟩)
            fun source finished => ?_
          obtain rfl := CaPoint.answered.inj finished
          cases answer : shake.answer with
          | none => exact absurd answer (good.known run)
          | some by_ =>
              cases by_ with
              | agent other =>
                  obtain ⟨rfl, -⟩ := (on_single whole).mp (good.fresh run other answer)
                  exact Or.inl rfl
              | crash => exact Or.inr rfl
      · split at taken
        · obtain rfl := Option.some.inj taken
          exact good.moved member rfl rfl rfl rfl rfl (fun posted => rfl)
            (fun unposted => by cases unposted) (fun shown => ⟨shownRequest shown, rfl⟩)
            fun source finished => by cases finished
        · cases taken
  | withdraw =>
      obtain rfl := Option.some.inj taken
      exact good.moved member rfl rfl rfl rfl rfl (fun posted => rfl)
        (fun unposted => by cases unposted) (fun shown => by cases shown)
        fun source finished => by cases finished
  | answered source =>
      obtain rfl := Option.some.inj taken
      obtain ⟨unseen, finished⟩ := returns rfl
      refine good.left member rfl (fun entry present => ?_) rfl finished unseen (Or.inl rfl)
      rcases List.mem_append.mp present with before | new
      · exact good.completed entry before
      · rw [List.mem_singleton.mp new]
        exact good.answered _ member source rfl
  | killed =>
      obtain rfl := Option.some.inj taken
      obtain ⟨unseen, finished⟩ := returns rfl
      exact good.left member rfl good.completed rfl finished unseen (Or.inl rfl)

/-- One access of a responder that answers for a request it may answer for. -/
theorem Matched.respond (good : Matched shake) (source : Source) (point : Responding)
    (mine : point = .setCaRun → ∀ request, source = .agent request → shake.On request)
    {agent : AgentLoop} {crashes : Multiset CrashPoint} (held : shake.Holds agent) :
    Matched { (shake.respond source point).1 with agent := agent, crashes := crashes } := by
  cases point with
  | check => exact good.same_cas rfl rfl held id good.visible good.fresh good.known
  | clearRetFlag =>
      exact good.same_cas rfl rfl held (fun _ => rfl) (fun shown => by cases shown) good.fresh
        good.known
  | setCaRun =>
      refine good.same_cas rfl rfl held id good.visible (fun _ request same => mine rfl request ?_)
        fun _ none => by cases none
      exact Option.some.inj same

theorem Matched.stepAgent (good : Matched shake) {interrupted : Bool}
    (taken : shake.stepAgent interrupted = some after) : Matched after := by
  unfold Handshake.stepAgent at taken
  split at taken
  · cases taken
  · obtain rfl := Option.some.inj taken
    exact good.same_cas rfl rfl (holds_of_idle rfl) id good.visible good.fresh good.known
  · split at taken
    · next shown =>
        obtain rfl := Option.some.inj taken
        refine good.same_cas rfl rfl (fun request holds => ?_) id good.visible good.fresh good.known
        obtain rfl := Option.some.inj holds
        exact Or.inl (good.visible shown)
    · split at taken
      · obtain rfl := Option.some.inj taken
        exact good.same_cas rfl rfl (holds_of_idle rfl) id good.visible good.fresh good.known
      · cases taken
  · next request holding =>
      obtain rfl := Option.some.inj taken
      refine good.same_cas rfl rfl (fun other holds => ?_) id good.visible good.fresh good.known
      obtain rfl := Option.some.inj holds
      rcases good.held request (by rw [holding]; rfl) with on | ⟨-, withdrawn⟩
      · exact Or.inl on
      · exact Or.inr ⟨rfl, withdrawn⟩
  · next request point holding =>
      obtain rfl := Option.some.inj taken
      have held : shake.agent.holding = some request := by rw [holding]; rfl
      cases point with
      | check =>
          refine good.respond (.agent request) .check (fun impossible => by cases impossible) ?_
          cases shown : shake.node.retFlag with
          | false =>
              simp only [Bool.false_eq_true, if_false]
              exact holds_of_idle rfl
          | true =>
              simp only [if_true]
              intro other holds
              obtain rfl := Option.some.inj holds
              -- an abandoned request is not shown any more
              rcases good.held request held with on | ⟨-, hidden, -⟩
              · exact Or.inl on
              · rw [shown] at hidden
                cases hidden
      | clearRetFlag =>
          refine good.respond (.agent request) .clearRetFlag (fun impossible => by cases impossible)
            fun other holds => ?_
          obtain rfl := Option.some.inj holds
          exact Or.inl (good.on_of_storing (by rw [holding]; rfl) held)
      | setCaRun =>
          refine good.respond (.agent request) .setCaRun (fun _ other same => ?_)
            (holds_of_idle rfl)
          obtain rfl := Source.agent.inj same
          exact good.on_of_storing (by rw [holding]; rfl) held

theorem Matched.stepCrash (good : Matched shake) (point : CrashPoint) :
    Matched (shake.stepCrash point) := by
  cases point with
  | setCrashed => exact good.same_cas rfl rfl good.held id good.visible good.fresh good.known
  | responding at_ =>
      have frame : (shake.respond .crash at_).1.agent = shake.agent := by
        cases at_ with
        | check => rfl
        | clearRetFlag => rfl
        | setCaRun => rfl
      have done (crashes : Multiset CrashPoint) :
          Matched { (shake.respond .crash at_).1 with agent := shake.agent, crashes := crashes } :=
        good.respond .crash at_ (fun _ request same => by cases same) good.held
      rw [← frame] at done
      exact done _

theorem Matched.step (good : Matched shake) {label : HandshakeLabel}
    (inTurn : TeeInTurn shake label) (attended : Attended shake label)
    (taken : shake.step label = some after) : Matched after := by
  cases label with
  | request =>
      obtain rfl := Option.some.inj taken
      have empty : shake.cas = 0 := inTurn
      have whole : ⟨shake.requests, CaPoint.checkCrashed⟩ ::ₘ shake.cas =
          {⟨shake.requests, CaPoint.checkCrashed⟩} := by
        rw [empty]
        rfl
      refine ⟨fun other present => ?_, fun request holds => ?_,
        fun shown => absurd (good.visible shown) (not_on_empty empty),
        fun run request source => absurd (good.fresh run request source) (not_on_empty empty),
        good.known, fun other present source finished => ?_, good.completed⟩
      · rw [mem_single whole present]
        exact whole
      · rcases good.held request holds with on | ⟨storing, hidden, -⟩
        · exact absurd on (not_on_empty empty)
        · refine Or.inr ⟨storing, hidden, fun other present => ?_⟩
          rw [mem_single whole present]
          rfl
      · rw [mem_single whole present] at finished
        cases finished
  | ca ca killed =>
      simp only [Handshake.step] at taken
      split at taken
      · next member => exact good.stepCa member attended taken
      · cases taken
  | agent interrupted => exact good.stepAgent taken
  | die =>
      simp only [Handshake.step] at taken
      split at taken
      · cases taken
      · cases taken
      · obtain rfl := Option.some.inj taken
        exact good.same_cas rfl rfl (holds_of_idle rfl) id good.visible good.fresh good.known
  | crash point =>
      simp only [Handshake.step] at taken
      split at taken
      · obtain rfl := Option.some.inj taken
        exact good.stepCrash point
      · cases taken
  | restart devFile =>
      simp only [Handshake.step] at taken
      split at taken
      · obtain rfl := Option.some.inj taken
        exact good.same_cas rfl rfl (holds_of_idle rfl) (fun _ => rfl) (fun shown => by cases shown)
          (fun run => by cases run) fun run => by cases run
      · cases taken

end Steps

/-! ### Whole runs -/

theorem Matched.of_init {shake : Handshake} (initial : handshakeMachine.init shake) :
    Matched shake := by
  obtain ⟨-, hidden, notRun, idle, empty, -, none⟩ := initial
  refine ⟨?_, ?_, ?_, ?_, ?_, ?_, ?_⟩
  · rw [empty]
    exact fun ca member => absurd member (Multiset.notMem_zero ca)
  · rw [idle]
    intro request holds
    cases holds
  · rw [hidden]
    intro shown
    cases shown
  · rw [notRun]
    intro run
    cases run
  · rw [notRun]
    intro run
    cases run
  · rw [empty]
    exact fun ca member => absurd member (Multiset.notMem_zero ca)
  · rw [none]
    intro entry member
    cases member

theorem matched_of_reachable {shake : Handshake}
    (reached : ((handshakeMachine.restrict TeeInTurn).restrict Attended).Reachable shake) :
    Matched shake := by
  induction reached with
  | start initial => exact Matched.of_init initial
  | next _ taken ih => exact ih.step taken.2.1 taken.1 taken.2.2

/-- Whenever `agent_process_work` has returned 0 for a request, `ca_run` was set by the agent's
response to that request, which it had taken, or by a crash. -/
theorem agent_answers_match {shake : Handshake}
    (reached : ((handshakeMachine.restrict TeeInTurn).restrict Attended).Reachable shake) :
    ∀ entry ∈ shake.completed, RightAnswer entry.1 entry.2 :=
  (matched_of_reachable reached).completed

instance (shake : Handshake) (label : HandshakeLabel) : Decidable (Attended shake label) :=
  match label with
  | .request => inferInstanceAs (Decidable True)
  | .ca ca _ => inferInstanceAs (Decidable ((ca.point = .postRequest →
      shake.agent.holding = none) ∧ (ca.point.returning = true →
        shake.node.retFlag = false ∧ shake.agent.storing = false)))
  | .agent _ => inferInstanceAs (Decidable True)
  | .die => inferInstanceAs (Decidable True)
  | .crash _ => inferInstanceAs (Decidable True)
  | .restart _ => inferInstanceAs (Decidable True)

def requestTaken (request : Nat) : List HandshakeLabel :=
  [.request, .ca ⟨request, .checkCrashed⟩ false, .ca ⟨request, .postRequest⟩ false, .agent false,
    .agent false]

def agentAnswers : List HandshakeLabel :=
  [.agent false, .agent false, .agent false, .agent false]

/-- CA 0 is killed and returns while the agent works on its request.  The TEE has already called
CA 1 when the late answer comes; the answer is dropped, and CA 1 gets the answer to its own
request. -/
def abandonedRun : List HandshakeLabel :=
  requestTaken 0 ++
  [.ca ⟨0, .waitAgentResponse 0⟩ true, .ca ⟨0, .withdraw⟩ false, .ca ⟨0, .killed⟩ false, .request,
    .ca ⟨1, .checkCrashed⟩ false, .agent false, .agent false, .ca ⟨1, .postRequest⟩ false,
    .agent false, .agent false] ++
  agentAnswers ++
  [.ca ⟨1, .waitAgentResponse 0⟩ false, .ca ⟨1, .answered (some (.agent 1))⟩ false]

theorem agent_answers_match_abandoned :
    ∃ shake : Handshake, shake.requests = 2 ∧ shake.completed = [(1, some (.agent 1))] ∧
      ∀ entry ∈ shake.completed, RightAnswer entry.1 entry.2 := by
  have ran : (Machine.replay (Machine.guarded Attended (Machine.guarded TeeInTurn Handshake.step))
      newHandshake abandonedRun).map (fun shake => decide (shake.requests = 2 ∧
        shake.completed = [(1, some (.agent 1))])) = some true := by
    decide +kernel
  have initial : ((handshakeMachine.restrict TeeInTurn).restrict Attended).Reachable newHandshake :=
    .start newHandshake_init
  obtain ⟨shake, reached, passed⟩ := initial.exists_of_replay
    (Machine.guarded_sound (Machine.guarded_sound handshake_step_sound)) ran
  obtain ⟨both, completed⟩ := of_decide_eq_true passed
  exact ⟨shake, both, completed, agent_answers_match reached⟩

/-- A CA is killed while the agent works on its request; the late answer completes the
next request, which the agent has not even taken. -/
theorem late_answer_completes_next :
    ∃ shake, (handshakeMachine.restrict TeeInTurn).Reachable shake ∧
      shake.completed = [(1, some (.agent 0))] := by
  have ran : (Machine.replay (Machine.guarded TeeInTurn Handshake.step) newHandshake
      (requestTaken 0 ++ [.ca ⟨0, .waitAgentResponse 0⟩ true, .ca ⟨0, .withdraw⟩ false,
        .ca ⟨0, .killed⟩ false, .request, .ca ⟨1, .checkCrashed⟩ false,
        .ca ⟨1, .postRequest⟩ false] ++ agentAnswers ++
        [.ca ⟨1, .waitAgentResponse 0⟩ false, .ca ⟨1, .answered (some (.agent 0))⟩ false])).map
        (fun shake => decide (shake.completed = [(1, some (.agent 0))])) = some true := by
    decide +kernel
  have initial : (handshakeMachine.restrict TeeInTurn).Reachable newHandshake :=
    .start newHandshake_init
  obtain ⟨shake, reached, passed⟩ := initial.exists_of_replay
    (Machine.guarded_sound handshake_step_sound) ran
  exact ⟨shake, reached, of_decide_eq_true passed⟩

end TzDriver.Agent
