/-
Closing a dev_file that owns agents.

`send_crashed_event_response_all` answers by id, and `tee_agent_clear_dev_owner` stops
at the first node it clears.  Both are right for a dev_file with one agent.
-/

import Mathlib.Data.List.Forall2
import TzDriver.Agent.Register

namespace TzDriver.Agent

open TzDriver.Lib

/-- A node that the closed dev_file owned is marked as crashed, and a CA that waits
on it has its answer. -/
def Abandoned (dev : Nat) (before after : SmcEventData) : Prop :=
  before.owner = dev → after.agentReady = .crashed ∧
    (before.retFlag = true → after.retFlag = false ∧ after.caRun = true)

/-- No agent outlives the dev_file. -/
def NoneOutlives (agents : AgentList) (dev : Nat) : Prop :=
  List.Forall₂ (Abandoned dev) agents (tcNsClientClose agents dev) ∧
    ∀ node ∈ tcNsClientClose agents dev, node.owner ≠ dev

/-- The dev_file owns one agent at most, and a lookup of that agent's id finds it;
or the agent has crashed before and no CA waits on it. -/
def OneAgent (agents : AgentList) (dev : Nat) : Prop :=
  (agents.filter fun node => node.owner == dev).length ≤ 1 ∧
    ∀ before node after, agents = before ++ node :: after → node.owner = dev →
      (node.agentId ≠ 0 ∧ ∀ other ∈ before, other.agentId ≠ node.agentId) ∨
        (node.agentReady = .crashed ∧ node.retFlag = false)

section Close

variable {agents : AgentList} {dev : Nat}

def owners (agents : AgentList) : List Nat := agents.map SmcEventData.owner

theorem owners_updateFirst {matching : SmcEventData → Bool} {change : SmcEventData → SmcEventData}
    (kept : ∀ node, (change node).owner = node.owner) (agents : AgentList) :
    owners (updateFirst matching change agents) = owners agents := by
  rcases walk matching agents with none | ⟨before, node, after, rfl, found, others⟩
  · rw [updateFirst_none none]
  · rw [updateFirst_append others found]
    simp only [owners, List.map_append, List.map_cons, kept]

theorem processSendEventResponse_owner (node : SmcEventData) :
    node.processSendEventResponse.owner = node.owner := by
  unfold SmcEventData.processSendEventResponse
  split
  · rfl
  · rfl

theorem owners_sendEventResponse (agents : AgentList) (agentId : UInt32) :
    owners (sendEventResponse agents agentId) = owners agents := by
  apply owners_updateFirst
  intro node
  rw [processSendEventResponse_owner]

theorem owners_foldl (ids : List UInt32) (agents : AgentList) :
    owners (ids.foldl sendEventResponse agents) = owners agents := by
  induction ids generalizing agents with
  | nil => rfl
  | cons id rest ih => rw [List.foldl_cons, ih, owners_sendEventResponse]

theorem owners_crashed (agents : AgentList) (dev : Nat) :
    owners (sendCrashedEventResponseAll agents dev) = owners agents :=
  owners_foldl _ agents

theorem count_owned (agents : AgentList) (dev : Nat) :
    (agents.filter fun node => node.owner == dev).length = (owners agents).count dev := by
  rw [owners, List.count, List.countP_map, List.countP_eq_length_filter]
  rfl

theorem owners_clear (notNull : dev ≠ 0) (agents : AgentList) :
    (owners (teeAgentClearDevOwner agents dev)).count dev = (owners agents).count dev - 1 := by
  unfold teeAgentClearDevOwner
  rcases walk (fun node => node.owner == dev) agents with
    none | ⟨before, node, after, rfl, found, others⟩
  · rw [updateFirst_none none]
    have absent : (owners agents).count dev = 0 := by
      rw [List.count_eq_zero]
      intro owned
      obtain ⟨node, member, owner⟩ := List.mem_map.mp owned
      have notOwned := none node member
      simp [owner] at notOwned
    rw [absent]
  · rw [updateFirst_append others found]
    have owner : node.owner = dev := by simpa using found
    simp only [owners, List.map_append, List.map_cons, List.count_append, List.count_cons, owner]
    simp [Ne.symm notNull]

/-- An owner is left exactly when the dev_file owned two agents. -/
theorem none_owned_iff (notNull : dev ≠ 0) (agents : AgentList) :
    (∀ node ∈ tcNsClientClose agents dev, node.owner ≠ dev) ↔
      (agents.filter fun node => node.owner == dev).length ≤ 1 := by
  have cleared : (∀ node ∈ tcNsClientClose agents dev, node.owner ≠ dev) ↔
      (owners (tcNsClientClose agents dev)).count dev = 0 := by
    rw [List.count_eq_zero]
    constructor
    · intro noOwner owned
      obtain ⟨node, member, owner⟩ := List.mem_map.mp owned
      exact noOwner node member owner
    · intro absent node member owner
      exact absent (List.mem_map.mpr ⟨node, member, owner⟩)
  rw [cleared, tcNsClientClose, if_neg notNull, owners_clear notNull, owners_crashed, count_owned]
  omega

/-! ### The one agent -/

theorem abandoned_of_unowned {left right : AgentList} (sameLength : left.length = right.length)
    (unowned : ∀ node ∈ left, node.owner ≠ dev) : List.Forall₂ (Abandoned dev) left right := by
  induction left generalizing right with
  | nil =>
      cases right with
      | nil => exact .nil
      | cons node rest => cases sameLength
  | cons first rest ih =>
      cases right with
      | nil => cases sameLength
      | cons node others =>
          refine .cons ?_ (ih (Nat.succ.inj sameLength) fun other member =>
            unowned other (List.mem_cons_of_mem _ member))
          intro owned
          exact absurd owned (unowned first List.mem_cons_self)

theorem forall₂_around {before after changed : AgentList} {node closed : SmcEventData}
    (sameLength : before.length = changed.length)
    (unownedBefore : ∀ other ∈ before, other.owner ≠ dev)
    (unownedAfter : ∀ other ∈ after, other.owner ≠ dev) :
    List.Forall₂ (Abandoned dev) (before ++ node :: after) (changed ++ closed :: after) ↔
      Abandoned dev node closed := by
  constructor
  · intro related
    have tails := List.forall₂_drop before.length related
    rw [List.drop_left, sameLength, List.drop_left] at tails
    exact (List.forall₂_cons.mp tails).1
  · intro abandoned
    exact List.rel_append (abandoned_of_unowned sameLength unownedBefore)
      (.cons abandoned (abandoned_of_unowned rfl unownedAfter))

/-- A node whose answer its id does not reach is left as it is. -/
theorem abandoned_unanswered {node : SmcEventData} (owned : node.owner = dev) :
    Abandoned dev node { node with owner := 0 } ↔
      node.agentReady = .crashed ∧ node.retFlag = false := by
  constructor
  · intro abandoned
    obtain ⟨crashed, answered⟩ := abandoned owned
    refine ⟨crashed, ?_⟩
    cases waiting : node.retFlag with
    | false => rfl
    | true =>
        have cleared := (answered waiting).1
        rw [waiting] at cleared
        cases cleared
  · intro given
    obtain ⟨crashed, idle⟩ := given
    intro _
    refine ⟨crashed, fun waiting => ?_⟩
    rw [idle] at waiting
    cases waiting

theorem abandoned_answered (node : SmcEventData) :
    Abandoned dev node { SmcEventData.processSendEventResponse
      { node with agentReady := .crashed } with owner := 0 } := by
  intro _
  unfold SmcEventData.processSendEventResponse
  cases waiting : node.retFlag with
  | false => exact ⟨rfl, fun impossible => by cases impossible⟩
  | true => exact ⟨rfl, fun _ => ⟨rfl, rfl⟩⟩

theorem owned_place {before after otherBefore otherAfter : AgentList} {node other : SmcEventData}
    (same : before ++ node :: after = otherBefore ++ other :: otherAfter)
    (unownedBefore : ∀ node ∈ before, node.owner ≠ dev)
    (unownedAfter : ∀ node ∈ after, node.owner ≠ dev) (owned : other.owner = dev) :
    otherBefore = before ∧ other = node := by
  induction before generalizing otherBefore with
  | nil =>
      cases otherBefore with
      | nil => exact ⟨rfl, (List.cons.inj same).1.symm⟩
      | cons first rest =>
          have inAfter : other ∈ after := by
            rw [(List.cons.inj same).2]
            simp
          exact absurd owned (unownedAfter other inAfter)
  | cons first rest ih =>
      cases otherBefore with
      | nil =>
          obtain rfl := (List.cons.inj same).1
          exact absurd owned (unownedBefore first List.mem_cons_self)
      | cons otherFirst otherRest =>
          obtain ⟨rfl, tails⟩ := List.cons.inj same
          obtain ⟨rfl, sameNode⟩ := ih tails fun node member =>
            unownedBefore node (List.mem_cons_of_mem _ member)
          exact ⟨rfl, sameNode⟩

theorem close_one {before after : AgentList} {node : SmcEventData} (notNull : dev ≠ 0)
    (owned : node.owner = dev) (unownedBefore : ∀ other ∈ before, other.owner ≠ dev)
    (unownedAfter : ∀ other ∈ after, other.owner ≠ dev) :
    List.Forall₂ (Abandoned dev) (before ++ node :: after)
        (tcNsClientClose (before ++ node :: after) dev) ↔
      (node.agentId ≠ 0 ∧ ∀ other ∈ before, other.agentId ≠ node.agentId) ∨
        (node.agentReady = .crashed ∧ node.retFlag = false) := by
  have collected : (before ++ node :: after).filter (fun other => other.owner == dev) =
      [node] := by
    rw [List.filter_append, List.filter_cons_of_pos (by simp [owned]),
      List.filter_eq_nil_iff.mpr (by simpa using unownedBefore),
      List.filter_eq_nil_iff.mpr (by simpa using unownedAfter)]
    rfl
  have clear {list : AgentList} {other : SmcEventData}
      (unowned : ∀ earlier ∈ list, earlier.owner ≠ dev) (here : other.owner = dev) :
      teeAgentClearDevOwner (list ++ other :: after) dev =
        list ++ { other with owner := 0 } :: after :=
    updateFirst_append (by simpa using unowned) (by simpa using here)
  unfold tcNsClientClose sendCrashedEventResponseAll
  rw [if_neg notNull, collected]
  dsimp only
  by_cases zero : node.agentId = 0
  · -- the id is taken for an empty slot and nobody is answered
    have skipped : (([node].map SmcEventData.agentId).take agentMax).filter (· != 0) = [] := by
      simp [zero, agentMax]
    rw [skipped, List.foldl_nil, clear unownedBefore owned,
      forall₂_around rfl unownedBefore unownedAfter, abandoned_unanswered owned]
    simp [zero]
  · have answered : (([node].map SmcEventData.agentId).take agentMax).filter (· != 0) =
        [node.agentId] := by
      simp [zero, agentMax]
    rw [answered, List.foldl_cons, List.foldl_nil, sendEventResponse]
    rcases walk (fun other => other.agentId == node.agentId) before with
      first | ⟨earlier, taken, later, rfl, found, others⟩
    · have apart : ∀ other ∈ before, other.agentId ≠ node.agentId := by simpa using first
      rw [updateFirst_append first (by simp),
        clear unownedBefore (by rw [processSendEventResponse_owner]; exact owned),
        forall₂_around rfl unownedBefore unownedAfter]
      exact iff_of_true (abandoned_answered node) (Or.inl ⟨zero, apart⟩)
    · -- an earlier node with the same id gets the answer
      have sameId : taken.agentId = node.agentId := by simpa using found
      have moved (change : SmcEventData → SmcEventData) :
          updateFirst (fun other => other.agentId == node.agentId) change
              ((earlier ++ taken :: later) ++ node :: after) =
            (earlier ++ change taken :: later) ++ node :: after := by
        rw [List.append_assoc, List.cons_append, updateFirst_append others found,
          List.append_assoc, List.cons_append]
      rw [moved, clear ?_ owned, forall₂_around ?_ ?_ unownedAfter, abandoned_unanswered owned]
      · constructor
        · exact Or.inr
        · intro either
          rcases either with ⟨_, apart⟩ | alreadyDone
          · exact absurd sameId (apart taken (by simp))
          · exact alreadyDone
      · simp
      · intro other member
        exact unownedBefore other (by simpa using member)
      · intro other member
        rcases List.mem_append.mp member with inEarlier | inLater
        · exact unownedBefore other (List.mem_append_left _ inEarlier)
        · rcases List.mem_cons.mp inLater with rfl | rest
          · rw [processSendEventResponse_owner]
            exact unownedBefore taken (by simp)
          · exact unownedBefore other (by simp [rest])

end Close

/-- Closing leaves no agent behind exactly when the dev_file owned one agent at most,
and that one can be found by its id (or needs no answer). -/
theorem no_agent_outlives_iff (agents : AgentList) {dev : Nat} (notNull : dev ≠ 0) :
    NoneOutlives agents dev ↔ OneAgent agents dev := by
  unfold NoneOutlives OneAgent
  rw [none_owned_iff notNull, and_comm]
  refine and_congr_right fun few => ?_
  rcases walk (fun node => node.owner == dev) agents with
    none | ⟨before, node, after, rfl, found, others⟩
  · have unowned : ∀ node ∈ agents, node.owner ≠ dev := by simpa using none
    refine iff_of_true (abandoned_of_unowned ?_ unowned) ?_
    · have crashed := congrArg List.length (owners_crashed agents dev)
      simp only [owners, List.length_map] at crashed
      rw [tcNsClientClose, if_neg notNull, ← crashed]
      exact (length_updateFirst _ _ _).symm
    · intro before node after equal
      subst equal
      intro owned
      exact absurd owned (unowned node (by simp))
  · have owned : node.owner = dev := by simpa using found
    have unownedBefore : ∀ other ∈ before, other.owner ≠ dev := by simpa using others
    have unownedAfter : ∀ other ∈ after, other.owner ≠ dev := by
      rw [List.filter_append, List.filter_cons_of_pos (by simpa using owned)] at few
      simp only [List.length_append, List.length_cons] at few
      have none : (after.filter fun other => other.owner == dev) = [] :=
        List.length_eq_zero_iff.mp (by omega)
      simpa using none
    rw [close_one notNull owned unownedBefore unownedAfter]
    constructor
    · intro alone otherBefore other otherAfter same otherOwned
      obtain ⟨rfl, rfl⟩ := owned_place same unownedBefore unownedAfter otherOwned
      exact alone
    · intro all
      exact all before node after rfl owned

/-- One dev_file with the agents of two ids: the second node keeps its owner. -/
theorem second_agent_keeps_owner :
    ¬NoneOutlives
      [⟨1, .ready, false, 8, 4096, 0, 4096, 1, false, [], [], []⟩,
        ⟨2, .ready, false, 8, 8192, 0, 4096, 1, false, [], [], []⟩] 8 := by
  intro given
  obtain ⟨_, unowned⟩ := given
  exact absurd unowned (by decide)

/-- One dev_file with one agent that a CA waits on. -/
theorem no_agent_outlives_single :
    NoneOutlives [⟨1, .ready, true, 8, 4096, 0, 4096, 1, false, [], [], [5]⟩] 8 := by
  refine (no_agent_outlives_iff _ (by decide)).mpr ⟨by decide, ?_⟩
  intro before node after same _
  have alone : before = [] ∧ node.agentId = 1 := by
    cases before with
    | nil => exact ⟨rfl, by rw [← (List.cons.inj same).1]⟩
    | cons first rest => exact absurd (List.cons.inj same).2 (by simp)
  refine Or.inl ⟨by rw [alone.2]; decide, ?_⟩
  rw [alone.1]
  intro other member
  cases member

end TzDriver.Agent
