/-
One node for each agent id.

`tc_ns_register_agent` tests for the id in one critical section and adds its node in
another.  The ids on the list together with the ids that registrations are about to
add stay distinct, as long as no two registrations of one id overlap in that window.
-/

import TzDriver.Agent.References

namespace TzDriver.Agent

open TzDriver.Lib

def Registry.listedIds (registry : Registry) : List UInt32 :=
  registry.agentList.map fun index => (registry.node index).agentId

/-- The ids that registrations have found absent and have not added yet. -/
def registeringOf (threads : Multiset Thread) : Multiset UInt32 :=
  threads.bind Thread.registering

theorem registeringOf_cons (thread : Thread) (rest : Multiset Thread) :
    registeringOf (thread ::ₘ rest) = thread.registering + registeringOf rest :=
  Multiset.cons_bind thread rest Thread.registering

theorem registeringOf_returned (next : Option Thread) (rest : Multiset Thread) :
    registeringOf (returned next + rest) = registeringNext next + registeringOf rest := by
  cases next with
  | none => simp [returned, registeringNext]
  | some thread => exact registeringOf_cons thread rest

/-- No registration passes the test while another one of the same id is between its
test and its insertion. -/
def OneAtATime (world : World) : Label → Prop
  | .start _ => True
  | .run thread _ => ∀ agentId ∈ thread.tested, agentId ∉ registeringOf world.threads

/-- The inductive invariant. -/
structure Distinct (registry : Registry) (ids : Multiset UInt32) : Prop where
  known : ∀ index ∈ registry.agentList, index < registry.count
  ids : ((registry.listedIds : Multiset UInt32) + ids).Nodup

section Moves

variable {registry after : Registry} {ids : Multiset UInt32}

theorem listedIds_congr (list : after.agentList = registry.agentList)
    (agentId : ∀ index, (after.node index).agentId = (registry.node index).agentId) :
    after.listedIds = registry.listedIds := by
  unfold Registry.listedIds
  rw [list]
  exact List.map_congr_left fun index _ => agentId index

theorem Distinct.same (distinct : Distinct registry ids) (same : SameBooks registry after) :
    Distinct after ids := by
  refine ⟨fun index listed => ?_, ?_⟩
  · rw [same.list] at listed
    rw [same.count]
    exact distinct.known index listed
  · rw [listedIds_congr same.list same.agentId]
    exact distinct.ids

theorem get_agentId (registry : Registry) (node index : Nat) :
    ((registry.get node).node index).agentId = (registry.node index).agentId := by
  unfold Registry.get Registry.change
  by_cases same : index = node
  · subst same
    simp only [Function.update_self]
    rfl
  · simp only [Function.update_of_ne same]

theorem Distinct.get (distinct : Distinct registry ids) (node : Nat) :
    Distinct (registry.get node) ids := by
  refine ⟨distinct.known, ?_⟩
  rw [listedIds_congr (by rfl) (get_agentId registry node)]
  exact distinct.ids

theorem Distinct.put (distinct : Distinct registry ids) (node : Nat) :
    Distinct (registry.put node) ids := by
  have changed : Distinct (registry.change node .putAgentEvent) ids := by
    refine ⟨distinct.known, ?_⟩
    have agentId (index : Nat) : ((registry.change node .putAgentEvent).node index).agentId =
        (registry.node index).agentId := by
      unfold Registry.change
      by_cases same : index = node
      · subst same
        simp only [Function.update_self]
        rfl
      · simp only [Function.update_of_ne same]
    rw [listedIds_congr (by rfl) agentId]
    exact distinct.ids
  unfold Registry.put
  dsimp only
  split
  · exact ⟨changed.known, changed.ids⟩
  · exact changed

theorem Distinct.publish {node : SmcEventData}
    (distinct : Distinct registry (node.agentId ::ₘ ids)) :
    Distinct (registry.addEventNodeToList node) ids := by
  have fresh : ∀ index ∈ registry.agentList, index ≠ registry.count :=
    fun index listed => Nat.ne_of_lt (distinct.known index listed)
  have listed : (registry.addEventNodeToList node).listedIds =
      registry.listedIds ++ [node.agentId] := by
    simp only [Registry.listedIds, Registry.addEventNodeToList, List.map_append, List.map_cons,
      List.map_nil, Function.update_self]
    congr 1
    refine List.map_congr_left fun index member => ?_
    rw [Function.update_of_ne (fresh index member)]
  refine ⟨fun index member => ?_, ?_⟩
  · simp only [Registry.addEventNodeToList, List.mem_append, List.mem_singleton] at member ⊢
    rcases member with before | rfl
    · exact Nat.lt_succ_of_lt (distinct.known index before)
    · exact Nat.lt_succ_self _
  · rw [listed, ← Multiset.coe_add, add_assoc]
    exact distinct.ids

theorem Distinct.unlink (distinct : Distinct registry ids) (node : Nat) :
    Distinct (registry.listDel node) ids := by
  refine ⟨fun index member => distinct.known index (List.mem_of_mem_erase member), ?_⟩
  refine Multiset.nodup_of_le (Multiset.add_le_add_right ?_) distinct.ids
  exact Multiset.coe_le.mpr ((List.erase_sublist.map _).subperm)

theorem Distinct.claim {agentId : UInt32} (distinct : Distinct registry ids)
    (absent : registry.lookup agentId = none) (alone : agentId ∉ ids) :
    Distinct registry (agentId ::ₘ ids) := by
  refine ⟨distinct.known, ?_⟩
  rw [Multiset.add_cons, Multiset.nodup_cons]
  refine ⟨?_, distinct.ids⟩
  intro present
  rcases Multiset.mem_add.mp present with listed | pending
  · obtain ⟨index, member, sameId⟩ := List.mem_map.mp (Multiset.mem_coe.mp listed)
    have different := List.find?_eq_none.mp absent index member
    exact different (by simpa using sameId)
  · exact alone pending

theorem Distinct.fewer {fewer : Multiset UInt32} (distinct : Distinct registry ids)
    (less : fewer ≤ ids) : Distinct registry fewer :=
  ⟨distinct.known, Multiset.nodup_of_le (Multiset.add_le_add_left less) distinct.ids⟩

theorem Move.distinct {tested : Option UInt32} {mine taken : Multiset Nat}
    {fewer others : Multiset UInt32} (move : Move registry tested mine ids after taken fewer)
    (alone : ∀ agentId ∈ tested, agentId ∉ ids + others)
    (distinct : Distinct registry (ids + others)) : Distinct after (fewer + others) := by
  cases move with
  | quiet same less =>
      exact (distinct.same same).fewer (Multiset.add_le_add_right less)
  | take listed same => exact (distinct.get _).same same
  | drop node => exact distinct.put node
  | claim testing absent =>
      rw [Multiset.cons_add]
      exact distinct.claim absent (alone _ testing)
  | publish node =>
      rw [Multiset.cons_add] at distinct
      exact distinct.publish
  | unlink listed => exact distinct.unlink _

end Moves

/-- The leaking exit changes nothing and returns. -/
theorem run_leaks {registry after : Registry} {choice : Choice} {thread : Thread}
    {next : Option Thread} (leaks : thread.Leaks registry)
    (ran : thread.run registry choice = some (after, next)) : after = registry ∧ next = none := by
  cases thread with
  | checkBuffer agentId node =>
      rw [Thread.run, if_pos (by exact leaks)] at ran
      obtain ⟨rfl, rfl⟩ := Prod.mk.inj (Option.some.inj ran)
      exact ⟨rfl, rfl⟩
  | _ => exact leaks.elim

theorem distinct_of_reachable {world : World}
    (reached : (agentMachine.restrict OneAtATime).Reachable world) :
    Distinct world.registry (registeringOf world.threads) := by
  induction reached with
  | start initial =>
      obtain ⟨empty, _, _, none⟩ := initial
      refine ⟨fun index listed => ?_, ?_⟩
      · rw [empty] at listed
        cases listed
      · rw [none, Registry.listedIds, empty]
        exact Multiset.nodup_zero
  | next _ taken ih =>
      obtain ⟨careful, step⟩ := taken
      cases step with
      | start call =>
          have none : call.thread.registering = 0 := by
            cases call <;> rfl
          rw [registeringOf_cons, none, zero_add]
          exact ih
      | @run registry after thread rest choice next ran =>
          dsimp only at ih
          rw [registeringOf_cons] at ih
          rw [registeringOf_returned]
          by_cases leaks : thread.Leaks registry
          · obtain ⟨rfl, rfl⟩ := run_leaks leaks ran
            exact ih.fewer (Multiset.add_le_add_right (Multiset.zero_le _))
          · refine (run_move leaks ran).distinct ?_ ih
            intro agentId tests
            rw [← registeringOf_cons]
            exact careful agentId tests

/-- In every run in which no two registrations of one id overlap between test and
insertion, no two nodes on the list have the same id. -/
theorem agent_ids_unique {world : World}
    (reached : (agentMachine.restrict OneAtATime).Reachable world) :
    world.registry.listedIds.Nodup := by
  have distinct := distinct_of_reachable reached
  exact Multiset.coe_nodup.mp (Multiset.nodup_of_le (Multiset.le_add_right _ _) distinct.ids)

instance (world : World) (label : Label) : Decidable (OneAtATime world label) :=
  match label with
  | .start _ => inferInstanceAs (Decidable True)
  | .run thread _ =>
      -- by the option: a search through every 32-bit id does not end
      decidable_of_iff (thread.tested.all fun agentId => agentId ∉ registeringOf world.threads)
        (by cases tested : thread.tested <;> simp [OneAtATime, tested])

/-- Two agents are registered one after the other. -/
theorem agent_ids_unique_two :
    ∃ world : World, world.registry.listedIds = [1, 2] ∧ world.registry.listedIds.Nodup := by
  have ran : (Machine.replay (Machine.guarded OneAtATime World.exec) emptyWorld
      (registerOnce ⟨0, 1, 4096, true, false⟩ 4096 ++
        registerOnce ⟨0, 2, 4096, true, false⟩ 8192)).map
        (fun world => decide (world.registry.listedIds = [1, 2])) = some true := by
    decide +kernel
  have initial : (agentMachine.restrict OneAtATime).Reachable emptyWorld :=
    .start emptyWorld_init
  obtain ⟨world, reached, passed⟩ := initial.exists_of_replay
    (@Machine.guarded_sound _ _ agentMachine OneAtATime _ _ World.exec_sound) ran
  exact ⟨world, of_decide_eq_true passed, agent_ids_unique reached⟩

/-- Two registrations of one id both pass the test before either adds its node. -/
theorem agent_id_listed_twice :
    ∃ world, agentMachine.Reachable world ∧ ¬world.registry.listedIds.Nodup := by
  have ran : (Machine.replay World.exec emptyWorld
      ([.start (.register ⟨8, 1, 4096, true, false⟩), .start (.register ⟨16, 1, 4096, true, false⟩),
        .run (.checkExist ⟨8, 1, 4096, true, false⟩) ⟨true, 0⟩,
        .run (.checkExist ⟨16, 1, 4096, true, false⟩) ⟨true, 0⟩] ++
        finishRegistration ⟨8, 1, 4096, true, false⟩ 4096 ++
        finishRegistration ⟨16, 1, 4096, true, false⟩ 8192)).map
        (fun world => decide (world.registry.listedIds = [1, 1])) = some true := by
    decide +kernel
  obtain ⟨world, reached, passed⟩ := (Machine.Reachable.start emptyWorld_init).exists_of_replay
    World.exec_sound ran
  refine ⟨world, reached, ?_⟩
  rw [of_decide_eq_true passed]
  decide

end TzDriver.Agent
