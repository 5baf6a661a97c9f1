/-
The references to agent nodes.

Each step of a thread takes a reference to a listed node, gives one back, passes one
on, or leaves the books alone; the exit of `tc_ns_unregister_agent` that finds the
buffer gone is the one step that drops a reference without giving it back.
-/

import Mathlib.Data.Multiset.Bind
import TzDriver.Agent.Threads

namespace TzDriver.Agent

open TzDriver.Lib

/-! ### What a step does to the books -/

/-- The same nodes, lists and counts, whatever the flags and buffers say. -/
structure SameBooks (before after : Registry) : Prop where
  list : after.agentList = before.agentList
  count : after.count = before.count
  freed : after.freed = before.freed
  usage : ∀ index, (after.node index).usage = (before.node index).usage
  agentId : ∀ index, (after.node index).agentId = (before.node index).agentId

/-- A step of a thread that holds the nodes `mine`, is about to publish the ids `ids`
and, in a registration's test, looks for the id `tested`. -/
inductive Move (registry : Registry) (tested : Option UInt32) :
    Multiset Nat → Multiset UInt32 → Registry → Multiset Nat → Multiset UInt32 → Prop where
  | quiet {mine : Multiset Nat} {ids fewer : Multiset UInt32} {after : Registry}
      (same : SameBooks registry after) (less : fewer ≤ ids) :
      Move registry tested mine ids after mine fewer
  | take {mine : Multiset Nat} {ids : Multiset UInt32} {after : Registry} {node : Nat}
      (listed : node ∈ registry.agentList) (same : SameBooks (registry.get node) after) :
      Move registry tested mine ids after (node ::ₘ mine) ids
  | drop {rest : Multiset Nat} {ids : Multiset UInt32} (node : Nat) :
      Move registry tested (node ::ₘ rest) ids (registry.put node) rest ids
  | claim {mine : Multiset Nat} {ids : Multiset UInt32} {agentId : UInt32}
      (testing : tested = some agentId) (absent : registry.lookup agentId = none) :
      Move registry tested mine ids registry mine (agentId ::ₘ ids)
  | publish {mine : Multiset Nat} {ids : Multiset UInt32} (node : SmcEventData) :
      Move registry tested mine (node.agentId ::ₘ ids) (registry.addEventNodeToList node) mine ids
  | unlink {mine : Multiset Nat} {ids : Multiset UInt32} {node : Nat}
      (listed : node ∈ registry.agentList) :
      Move registry tested mine ids (registry.listDel node) (node ::ₘ mine) ids

/-- The references a thread holds.  A thread that has unlinked a node holds the
reference that the list had. -/
def Thread.held : Thread → Multiset Nat
  | .checkCrashed node | .postRequest node | .waitAgentResponse node | .setReady node
  | .waitEvent node | .setCrashed node | .respond node | .putNode node | .mapAgain _ node
  | .checkBuffer _ node | .allocPack _ node | .smcUnregister _ node | .unlinkNode _ node => {node}
  | .clearBuffer node victim | .putVictim node victim => victim ::ₘ {node}
  | .findEventControl .. | .checkExist .. | .createNode .. | .mapNew .. | .registerToTee ..
  | .addNode .. | .findUnregister .. => 0

def heldNext : Option Thread → Multiset Nat
  | none => 0
  | some thread => thread.held

/-- The id of a registration that has found no node and has not added its own yet. -/
def Thread.registering : Thread → Multiset UInt32
  | .createNode request => {request.agentId}
  | .mapNew _ node | .registerToTee _ node | .addNode node => {node.agentId}
  | .findEventControl .. | .checkCrashed .. | .postRequest .. | .waitAgentResponse ..
  | .setReady .. | .waitEvent .. | .setCrashed .. | .respond .. | .putNode .. | .checkExist ..
  | .mapAgain .. | .findUnregister .. | .checkBuffer .. | .allocPack .. | .smcUnregister ..
  | .unlinkNode .. | .clearBuffer .. | .putVictim .. => 0

def Thread.tested : Thread → Option UInt32
  | .checkExist request => some request.agentId
  | _ => none

def registeringNext : Option Thread → Multiset UInt32
  | none => 0
  | some thread => thread.registering

/-- The thread is about to leave `tc_ns_unregister_agent` because the buffer is gone. -/
def Thread.Leaks (registry : Registry) : Thread → Prop
  | .checkBuffer _ node => (registry.node node).agentBuffKernel = 0
  | _ => False

theorem SameBooks.refl (registry : Registry) : SameBooks registry registry :=
  ⟨rfl, rfl, rfl, fun _ => rfl, fun _ => rfl⟩

theorem SameBooks.change {registry : Registry} {index : Nat}
    {with_ : SmcEventData → SmcEventData} (usage : ∀ data, (with_ data).usage = data.usage)
    (agentId : ∀ data, (with_ data).agentId = data.agentId) :
    SameBooks registry (registry.change index with_) := by
  refine ⟨rfl, rfl, rfl, fun other => ?_, fun other => ?_⟩
  · by_cases same : other = index
    · subst same
      simp only [Registry.change, Function.update_self, usage]
    · simp only [Registry.change, Function.update_of_ne same]
  · by_cases same : other = index
    · subst same
      simp only [Registry.change, Function.update_self, agentId]
    · simp only [Registry.change, Function.update_of_ne same]

theorem processSendEventResponse_books (data : SmcEventData) :
    data.processSendEventResponse.usage = data.usage ∧
      data.processSendEventResponse.agentId = data.agentId := by
  unfold SmcEventData.processSendEventResponse
  split
  · exact ⟨rfl, rfl⟩
  · exact ⟨rfl, rfl⟩

theorem mem_of_lookup {registry : Registry} {agentId : UInt32} {node : Nat}
    (found : registry.lookup agentId = some node) :
    node ∈ registry.agentList ∧ (registry.node node).agentId = agentId := by
  refine ⟨List.mem_of_find?_eq_some found, ?_⟩
  simpa using List.find?_some found

theorem Move.stays {registry after : Registry} {tested : Option UInt32} {mine : Multiset Nat}
    {ids : Multiset UInt32} {next taken : Option Thread} (ran : some (registry, next) = some (after, taken))
    (held : heldNext next = mine) (less : registeringNext next ≤ ids) :
    Move registry tested mine ids after (heldNext taken) (registeringNext taken) := by
  obtain ⟨rfl, rfl⟩ := Prod.mk.inj (Option.some.inj ran)
  rw [held]
  exact .quiet (.refl _) less

theorem Move.changes {registry after : Registry} {tested : Option UInt32} {mine : Multiset Nat}
    {ids : Multiset UInt32} {index : Nat} {with_ : SmcEventData → SmcEventData} {next taken : Option Thread}
    (ran : some (registry.change index with_, next) = some (after, taken))
    (held : heldNext next = mine) (less : registeringNext next ≤ ids)
    (usage : ∀ data, (with_ data).usage = data.usage)
    (agentId : ∀ data, (with_ data).agentId = data.agentId) :
    Move registry tested mine ids after (heldNext taken) (registeringNext taken) := by
  obtain ⟨rfl, rfl⟩ := Prod.mk.inj (Option.some.inj ran)
  rw [held]
  exact .quiet (.change usage agentId) less

theorem createNewAgentNode_agentId {world : RegisterWorld} {devFile size : Nat} {agentId : UInt32}
    {node : SmcEventData} (created : createNewAgentNode world devFile agentId size = .ok node) :
    node.agentId = agentId := by
  unfold createNewAgentNode at created
  split at created
  · cases created
  · split at created
    · cases created
    · rw [← Except.ok.inj created]

theorem run_move {registry after : Registry} {choice : Choice} {thread : Thread}
    {next : Option Thread} (noLeak : ¬thread.Leaks registry)
    (ran : thread.run registry choice = some (after, next)) :
    Move registry thread.tested thread.held thread.registering after (heldNext next)
      (registeringNext next) := by
  cases thread with
  | findEventControl use agentId =>
      rw [Thread.run] at ran
      cases found : registry.lookup agentId with
      | none =>
          rw [found] at ran
          exact .stays ran rfl (Multiset.zero_le _)
      | some node =>
          rw [found] at ran
          obtain ⟨rfl, rfl⟩ := Prod.mk.inj (Option.some.inj ran)
          cases use <;> exact .take (mem_of_lookup found).1 (.refl _)
  | checkCrashed node =>
      rw [Thread.run] at ran
      split at ran
      · exact .stays ran rfl (Multiset.zero_le _)
      · exact .stays ran rfl (Multiset.zero_le _)
  | postRequest node =>
      exact .changes ran rfl (Multiset.zero_le _) (fun _ => rfl) fun _ => rfl
  | waitAgentResponse node =>
      rw [Thread.run] at ran
      split at ran
      · exact .changes ran rfl (Multiset.zero_le _) (fun _ => rfl) fun _ => rfl
      · split at ran
        · exact .changes ran rfl (Multiset.zero_le _) (fun _ => rfl) fun _ => rfl
        · cases ran
  | setReady node =>
      exact .changes ran rfl (Multiset.zero_le _) (fun _ => rfl) fun _ => rfl
  | waitEvent node =>
      rw [Thread.run] at ran
      split at ran
      · exact .stays ran rfl (Multiset.zero_le _)
      · cases ran
  | setCrashed node =>
      exact .changes ran rfl (Multiset.zero_le _) (fun _ => rfl) fun _ => rfl
  | respond node =>
      exact .changes ran rfl (Multiset.zero_le _) (fun data => (processSendEventResponse_books data).1)
        fun data => (processSendEventResponse_books data).2
  | putNode node =>
      obtain ⟨rfl, rfl⟩ := Prod.mk.inj (Option.some.inj ran)
      exact @Move.drop registry none 0 0 node
  | checkExist request =>
      rw [Thread.run] at ran
      split at ran
      · exact .stays ran rfl (Multiset.zero_le _)
      cases found : registry.lookup request.agentId with
      | none =>
          rw [found] at ran
          obtain ⟨rfl, rfl⟩ := Prod.mk.inj (Option.some.inj ran)
          exact .claim rfl found
      | some node =>
          rw [found] at ran
          dsimp only at ran
          split at ran
          · exact .stays ran rfl (Multiset.zero_le _)
          · obtain ⟨rfl, rfl⟩ := Prod.mk.inj (Option.some.inj ran)
            exact .take (mem_of_lookup found).1 (.change (fun _ => rfl) fun _ => rfl)
  | createNode request =>
      rw [Thread.run] at ran
      split at ran
      · exact .stays ran rfl (Multiset.zero_le _)
      · next created =>
          refine .stays ran rfl (le_of_eq ?_)
          simp only [registeringNext, Thread.registering, createNewAgentNode_agentId created]
  | mapNew request node =>
      rw [Thread.run] at ran
      split at ran
      · exact .stays ran rfl (Multiset.zero_le _)
      · refine .stays ran rfl (le_of_eq ?_)
        cases user : request.userAgent <;> rfl
  | registerToTee request node =>
      rw [Thread.run] at ran
      split at ran
      · exact .stays ran rfl (le_refl _)
      · exact .stays ran rfl (Multiset.zero_le _)
  | addNode node =>
      obtain ⟨rfl, rfl⟩ := Prod.mk.inj (Option.some.inj ran)
      exact @Move.publish registry none 0 0 node
  | mapAgain request node =>
      rw [Thread.run] at ran
      split at ran
      · exact .changes ran rfl (Multiset.zero_le _) (fun _ => rfl) fun _ => rfl
      · exact .stays ran rfl (Multiset.zero_le _)
  | findUnregister agentId =>
      rw [Thread.run] at ran
      cases found : registry.lookup agentId with
      | none =>
          rw [found] at ran
          exact .stays ran rfl (Multiset.zero_le _)
      | some node =>
          rw [found] at ran
          obtain ⟨rfl, rfl⟩ := Prod.mk.inj (Option.some.inj ran)
          exact .take (mem_of_lookup found).1 (.refl _)
  | checkBuffer agentId node =>
      rw [Thread.run, if_neg (by exact noLeak)] at ran
      exact .stays ran rfl (Multiset.zero_le _)
  | allocPack agentId node =>
      rw [Thread.run] at ran
      split at ran
      · exact .stays ran rfl (Multiset.zero_le _)
      · exact .stays ran rfl (Multiset.zero_le _)
  | smcUnregister agentId node =>
      rw [Thread.run] at ran
      split at ran
      · exact .stays ran rfl (Multiset.zero_le _)
      · exact .stays ran rfl (Multiset.zero_le _)
  | unlinkNode agentId node =>
      rw [Thread.run] at ran
      cases found : registry.lookup agentId with
      | none =>
          rw [found] at ran
          exact .stays ran rfl (Multiset.zero_le _)
      | some victim =>
          rw [found] at ran
          obtain ⟨rfl, rfl⟩ := Prod.mk.inj (Option.some.inj ran)
          exact .unlink (mem_of_lookup found).1
  | clearBuffer node victim =>
      exact .changes ran rfl (Multiset.zero_le _) (fun _ => rfl) fun _ => rfl
  | putVictim node victim =>
      obtain ⟨rfl, rfl⟩ := Prod.mk.inj (Option.some.inj ran)
      exact @Move.drop registry none {node} 0 victim

/-! ### Balance -/

/-- `held` is what all threads hold together. -/
structure Balanced (registry : Registry) (held : Multiset Nat) : Prop where
  usage : ∀ index, (registry.node index).usage =
    registry.agentList.count index + held.count index
  listed : registry.agentList.Nodup
  known : ∀ index, index ∈ registry.agentList ∨ index ∈ held → index < registry.count
  freed : ∀ index, registry.freed index = true ↔
    index < registry.count ∧ (registry.node index).usage = 0

section Moves

variable {registry after : Registry} {held : Multiset Nat}

theorem Balanced.same (balanced : Balanced registry held) (same : SameBooks registry after) :
    Balanced after held := by
  refine ⟨fun index => ?_, ?_, fun index present => ?_, fun index => ?_⟩
  · rw [same.usage, same.list]
    exact balanced.usage index
  · rw [same.list]
    exact balanced.listed
  · rw [same.list] at present
    rw [same.count]
    exact balanced.known index present
  · rw [same.freed, same.count, same.usage]
    exact balanced.freed index

theorem Balanced.get (balanced : Balanced registry held) {node : Nat}
    (listed : node ∈ registry.agentList) : Balanced (registry.get node) (node ::ₘ held) := by
  have positive := List.count_pos_iff.mpr listed
  refine ⟨fun index => ?_, balanced.listed, fun index present => ?_, fun index => ?_⟩
  · by_cases same : index = node
    · subst same
      simp only [Registry.get, Registry.change, Function.update_self, SmcEventData.getAgentEvent,
        Multiset.count_cons_self, balanced.usage index]
      omega
    · simp only [Registry.get, Registry.change, Function.update_of_ne same,
        Multiset.count_cons_of_ne same, balanced.usage index]
  · apply balanced.known index
    rcases present with inList | isHeld
    · exact Or.inl inList
    · rcases Multiset.mem_cons.mp isHeld with rfl | before
      · exact Or.inl listed
      · exact Or.inr before
  · by_cases same : index = node
    · subst same
      have notFreed := balanced.freed index
      rw [balanced.usage index] at notFreed
      simp only [Registry.get, Registry.change, Function.update_self, SmcEventData.getAgentEvent]
      rw [notFreed]
      omega
    · simp only [Registry.get, Registry.change, Function.update_of_ne same]
      exact balanced.freed index

theorem Balanced.put {node : Nat} (balanced : Balanced registry (node ::ₘ held)) :
    Balanced (registry.put node) held := by
  have counted := balanced.usage node
  rw [Multiset.count_cons_self] at counted
  have known := balanced.known node (Or.inr (Multiset.mem_cons_self _ _))
  have list : (registry.put node).agentList = registry.agentList := by
    unfold Registry.put
    dsimp only
    split
    · rfl
    · rfl
  have count : (registry.put node).count = registry.count := by
    unfold Registry.put
    dsimp only
    split
    · rfl
    · rfl
  have nodes : (registry.put node).node = (registry.change node .putAgentEvent).node := by
    unfold Registry.put
    dsimp only
    split
    · rfl
    · rfl
  refine ⟨fun index => ?_, ?_, fun index present => ?_, fun index => ?_⟩
  · rw [list, nodes]
    by_cases same : index = node
    · subst same
      simp only [Registry.change, Function.update_self, SmcEventData.putAgentEvent]
      omega
    · have other := balanced.usage index
      rw [Multiset.count_cons_of_ne same] at other
      simp only [Registry.change, Function.update_of_ne same, other]
  · rw [list]
    exact balanced.listed
  · rw [count]
    rw [list] at present
    exact balanced.known index (present.imp_right fun isHeld => Multiset.mem_cons_of_mem isHeld)
  · rw [count, nodes]
    have before := balanced.freed index
    by_cases same : index = node
    · subst same
      simp only [Registry.put, Registry.change, Function.update_self, SmcEventData.putAgentEvent]
      by_cases last : (registry.node index).usage - 1 = 0
      · rw [if_pos last]
        simp only [Function.update_self, true_iff]
        exact ⟨known, last⟩
      · rw [if_neg last]
        dsimp only
        rw [before]
        omega
    · have sameFreed : (registry.put node).freed index = registry.freed index := by
        unfold Registry.put
        dsimp only
        split
        · exact Function.update_of_ne same _ _
        · rfl
      rw [sameFreed]
      simp only [Registry.change, Function.update_of_ne same]
      exact before

theorem Balanced.publish (balanced : Balanced registry held) (node : SmcEventData) :
    Balanced (registry.addEventNodeToList node) held := by
  have fresh : registry.count ∉ registry.agentList := fun listed =>
    Nat.lt_irrefl _ (balanced.known _ (Or.inl listed))
  have unheld : registry.count ∉ held := fun isHeld =>
    Nat.lt_irrefl _ (balanced.known _ (Or.inr isHeld))
  refine ⟨fun index => ?_, ?_, fun index present => ?_, fun index => ?_⟩
  · simp only [Registry.addEventNodeToList, List.count_append, List.count_singleton]
    by_cases same : index = registry.count
    · subst same
      rw [Function.update_self, List.count_eq_zero.mpr fresh, Multiset.count_eq_zero.mpr unheld]
      simp
    · rw [Function.update_of_ne same, balanced.usage index]
      simp [Ne.symm same]
  · exact List.Nodup.append balanced.listed (List.nodup_singleton _)
      (List.disjoint_singleton.mpr fresh)
  · simp only [Registry.addEventNodeToList, List.mem_append, List.mem_singleton] at present ⊢
    rcases present with (inList | rfl) | isHeld
    · exact Nat.lt_succ_of_lt (balanced.known index (Or.inl inList))
    · exact Nat.lt_succ_self _
    · exact Nat.lt_succ_of_lt (balanced.known index (Or.inr isHeld))
  · simp only [Registry.addEventNodeToList]
    by_cases same : index = registry.count
    · subst same
      simp
    · rw [Function.update_of_ne same, Function.update_of_ne same, balanced.freed index]
      omega

theorem Balanced.unlink (balanced : Balanced registry held) {node : Nat}
    (listed : node ∈ registry.agentList) : Balanced (registry.listDel node) (node ::ₘ held) := by
  have positive := List.count_pos_iff.mpr listed
  refine ⟨fun index => ?_, balanced.listed.erase node, fun index present => ?_, balanced.freed⟩
  · simp only [Registry.listDel]
    by_cases same : index = node
    · subst same
      rw [List.count_erase_self, Multiset.count_cons_self, balanced.usage index]
      omega
    · rw [List.count_erase_of_ne same, Multiset.count_cons_of_ne same, balanced.usage index]
  · apply balanced.known index
    rcases present with inList | isHeld
    · exact Or.inl (List.mem_of_mem_erase inList)
    · rcases Multiset.mem_cons.mp isHeld with rfl | before
      · exact Or.inl listed
      · exact Or.inr before

/-- Every such step keeps the balance, whatever the other threads hold. -/
theorem Move.balanced {tested : Option UInt32} {mine taken others : Multiset Nat}
    {ids fewer : Multiset UInt32} (move : Move registry tested mine ids after taken fewer)
    (balanced : Balanced registry (mine + others)) : Balanced after (taken + others) := by
  cases move with
  | quiet same _ => exact balanced.same same
  | take listed same =>
      rw [Multiset.cons_add]
      exact (balanced.get listed).same same
  | drop node =>
      rw [Multiset.cons_add] at balanced
      exact balanced.put
  | claim _ _ => exact balanced
  | publish node => exact balanced.publish node
  | unlink listed =>
      rw [Multiset.cons_add]
      exact balanced.unlink listed

end Moves

/-! ### Runs -/

/-- What all threads hold together. -/
def heldOf (threads : Multiset Thread) : Multiset Nat :=
  threads.bind Thread.held

theorem heldOf_cons (thread : Thread) (rest : Multiset Thread) :
    heldOf (thread ::ₘ rest) = thread.held + heldOf rest :=
  Multiset.cons_bind thread rest Thread.held

theorem heldOf_returned (next : Option Thread) (rest : Multiset Thread) :
    heldOf (returned next + rest) = heldNext next + heldOf rest := by
  cases next with
  | none => simp [returned, heldNext]
  | some thread => exact heldOf_cons thread rest

/-- No unregistration finds the buffer of its node gone. -/
def BufferThere (world : World) : Label → Prop
  | .start _ => True
  | .run thread _ => ¬thread.Leaks world.registry

theorem balanced_of_reachable {world : World}
    (reached : (agentMachine.restrict BufferThere).Reachable world) :
    Balanced world.registry (heldOf world.threads) := by
  induction reached with
  | start initial =>
      obtain ⟨empty, zero, blank, none⟩ := initial
      refine ⟨fun index => ?_, ?_, fun index present => ?_, fun index => ?_⟩
      · rw [(blank index).1, empty, none]
        rfl
      · rw [empty]
        exact List.nodup_nil
      · rw [empty, none] at present
        rcases present with listed | held
        · cases listed
        · exact absurd held (Multiset.notMem_zero index)
      · rw [(blank index).2, zero]
        simp
  | next _ taken ih =>
      obtain ⟨careful, step⟩ := taken
      cases step with
      | start call =>
          have none : call.thread.held = 0 := by
            cases call <;> rfl
          rw [heldOf_cons, none, zero_add]
          exact ih
      | run ran =>
          rw [heldOf_cons] at ih
          rw [heldOf_returned]
          exact (run_move careful ran).balanced ih

instance (registry : Registry) (thread : Thread) : Decidable (thread.Leaks registry) :=
  match thread with
  | .checkBuffer _ node => inferInstanceAs (Decidable ((registry.node node).agentBuffKernel = 0))
  | .findEventControl .. | .checkCrashed .. | .postRequest .. | .waitAgentResponse ..
  | .setReady .. | .waitEvent .. | .setCrashed .. | .respond .. | .putNode .. | .checkExist ..
  | .createNode .. | .mapNew .. | .registerToTee .. | .addNode .. | .mapAgain ..
  | .findUnregister .. | .allocPack .. | .smcUnregister .. | .unlinkNode .. | .clearBuffer ..
  | .putVictim .. => inferInstanceAs (Decidable False)

instance (world : World) (label : Label) : Decidable (BufferThere world label) :=
  match label with
  | .start _ => inferInstanceAs (Decidable True)
  | .run thread _ => inferInstanceAs (Decidable (¬thread.Leaks world.registry))

/-- In every run in which no unregistration finds its node's buffer gone, the usage
of a node is one if it is listed plus the number of references that threads hold, and
a node is freed as soon as both are gone and not before. -/
theorem agent_references_balance {world : World}
    (reached : (agentMachine.restrict BufferThere).Reachable world) (node : Nat) :
    (world.registry.node node).usage =
        (if node ∈ world.registry.agentList then 1 else 0) + (heldOf world.threads).count node ∧
      (node < world.registry.count →
        (world.registry.freed node = true ↔
          node ∉ world.registry.agentList ∧ node ∉ heldOf world.threads)) := by
  have balanced := balanced_of_reachable reached
  have usage := balanced.usage node
  constructor
  · rw [usage, balanced.listed.count]
  · intro published
    rw [balanced.freed node, usage, Nat.add_eq_zero_iff, List.count_eq_zero,
      Multiset.count_eq_zero]
    exact and_iff_right published

/-- An agent is registered and looked up. -/
theorem agent_references_balance_lookup :
    ∃ world, (agentMachine.restrict BufferThere).Reachable world ∧
      (world.registry.node 0).usage = 2 ∧ world.registry.agentList = [0] ∧
      (heldOf world.threads).count 0 = 1 := by
  have ran : (Machine.replay (Machine.guarded BufferThere World.exec) emptyWorld
      (registerOnce ⟨0, 1, 4096, true, false⟩ 4096 ++
        [.start (.lookup .isAgentAlive 1), .run (.findEventControl .isAgentAlive 1) ⟨true, 0⟩])).map
        (fun world => decide ((world.registry.node 0).usage = 2) &&
          decide (world.registry.agentList = [0])) = some true := by
    decide +kernel
  have initial : (agentMachine.restrict BufferThere).Reachable emptyWorld :=
    .start emptyWorld_init
  obtain ⟨world, reached, passed⟩ := initial.exists_of_replay
    (@Machine.guarded_sound _ _ agentMachine BufferThere _ _ World.exec_sound) ran
  simp only [Bool.and_eq_true, decide_eq_true_eq] at passed
  have balance := (agent_references_balance reached 0).1
  rw [passed.1, passed.2] at balance
  simp at balance
  exact ⟨world, reached, passed.1, passed.2, by omega⟩

/-- Two unregistrations of one agent: the first clears the buffer between the second
one's lookup and its check. -/
def unregisterTwice : List Label :=
  [.start (.unregister 1), .run (.findUnregister 1) ⟨true, 0⟩, .run (.checkBuffer 1 0) ⟨true, 0⟩,
    .run (.allocPack 1 0) ⟨true, 0⟩, .run (.smcUnregister 1 0) ⟨true, 0⟩,
    .start (.unregister 1), .run (.findUnregister 1) ⟨true, 0⟩,
    .run (.unlinkNode 1 0) ⟨true, 0⟩, .run (.clearBuffer 0 0) ⟨true, 0⟩,
    .run (.checkBuffer 1 0) ⟨true, 0⟩, .run (.putVictim 0 0) ⟨true, 0⟩,
    .run (.putNode 0) ⟨true, 0⟩]

/-- The second unregistration leaves without its put: nobody holds the node any more,
and it is never freed. -/
theorem unregistered_node_leaks :
    ∃ world, agentMachine.Reachable world ∧
      (world.registry.node 0).usage ≠
        (if 0 ∈ world.registry.agentList then 1 else 0) + (heldOf world.threads).count 0 ∧
      0 ∉ world.registry.agentList ∧ 0 ∉ heldOf world.threads ∧
      world.registry.freed 0 = false := by
  have ran : (Machine.replay World.exec emptyWorld
      (registerOnce ⟨0, 1, 4096, true, false⟩ 4096 ++ unregisterTwice)).map
        (fun world => decide (world.registry.agentList = []) && decide (world.threads = 0) &&
          decide ((world.registry.node 0).usage = 1) && !world.registry.freed 0) = some true := by
    decide +kernel
  obtain ⟨world, reached, passed⟩ := (Machine.Reachable.start emptyWorld_init).exists_of_replay
    World.exec_sound ran
  simp only [Bool.and_eq_true, decide_eq_true_eq, Bool.not_eq_true'] at passed
  obtain ⟨⟨⟨unlisted, returned⟩, usage⟩, kept⟩ := passed
  have nothing : heldOf world.threads = 0 := by
    rw [returned]
    rfl
  refine ⟨world, reached, ?_, ?_, ?_, kept⟩
  · rw [usage, unlisted, nothing]
    decide
  · rw [unlisted]
    exact List.not_mem_nil
  · rw [nothing]
    exact Multiset.notMem_zero 0

end TzDriver.Agent
