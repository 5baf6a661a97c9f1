/-
How long a shared memory block lives: mappings, unmappings and operations in any order.
-/

import TzDriver.SharedMem.Settled

namespace TzDriver.SharedMem

open TzDriver.Lib

/-- A close that begins at a recorded address closes what is left of that mapping. -/
def ClosesWhole (state : State) : Label → Prop
  | .munmap piece low high =>
      ∀ index ∈ state.dev.list, ∀ slot, (state.dev.block index).slot slot = some low →
        piece.Of index slot ∧ piece.start = low ∧ piece.stop = high ∧
          ∀ other ∈ state.pieces.erase piece, ¬other.Of index slot
  | _ => True

section Mapping

variable {dev after : Dev} {pieces piecesAfter : Multiset Piece} {inFlight : Multiset Nat}

theorem Consistent.again (good : Consistent dev pieces inFlight) {index : Nat} (mm start stop : Nat)
    (listed : index ∈ dev.list) (free : (dev.block index).slot .userAddrCa = none) :
    Consistent ((dev.getSharememStruct index).setSlot index .userAddrCa (some start))
      (⟨mm, start, stop, index, .userAddrCa⟩ ::ₘ pieces) inFlight := by
  have known := good.listBound index listed
  refine ⟨good.once, good.listBound, good.heldBound, fun part present => ?_,
    fun other below => ?_⟩
  · rcases Multiset.mem_cons.mp present with rfl | before
    · exact known
    · exact good.pieceBound part before
  · have settled := good.settled other below
    by_cases same : other = index
    · subst same
      have block : ((dev.getSharememStruct other).setSlot other .userAddrCa (some start)).block
          other = { (dev.block other).write .userAddrCa (some start) with
            usage := (dev.block other).usage + 1 } := by
        rw [Dev.setSlot, change_block_self, Dev.getSharememStruct, change_block_self]
        rfl
      have mapped := Block.mapped_record start free
      have usage := settled.usage
      have isMapped := settled.listed.mp listed
      have released := settled.released
      rw [if_neg (by omega)] at released
      refine ⟨?_, ?_, fun part present here => ?_, fun slot addr recorded => ?_, ?_⟩
      · rw [block]
        change (dev.block other).usage + 1 =
          ((dev.block other).write .userAddrCa (some start)).mapped + _
        omega
      · rw [block]
        change _ ↔ ((dev.block other).write .userAddrCa (some start)).mapped ≠ 0
        exact iff_of_true listed (by omega)
      · rw [block]
        change Function.update (dev.block other).slot .userAddrCa (some start) part.slot ≠ none
        rcases Multiset.mem_cons.mp present with rfl | before
        · simp
        · by_cases ca : part.slot = .userAddrCa
          · rw [ca]
            simp
          · rw [Function.update_of_ne ca]
            exact settled.recorded part before here
      · rw [block] at recorded
        change Function.update (dev.block other).slot .userAddrCa (some start) slot = some addr
          at recorded
        by_cases ca : slot = .userAddrCa
        · subst ca
          rw [Function.update_self] at recorded
          exact ⟨_, Multiset.mem_cons_self _ _, ⟨rfl, rfl⟩, Option.some.inj recorded⟩
        · rw [Function.update_of_ne ca] at recorded
          obtain ⟨part, before, of, atStart⟩ := settled.front slot addr recorded
          exact ⟨part, Multiset.mem_cons_of_mem before, of, atStart⟩
      · rw [block, if_neg (Nat.succ_ne_zero _)]
        exact released
    · refine settled.untouched ?_ Iff.rfl rfl (fun part here => ?_) rfl
      · rw [Dev.setSlot, change_block_other _ same, Dev.getSharememStruct,
          change_block_other _ same]
      · refine ⟨fun present => ?_, Multiset.mem_cons_of_mem⟩
        rcases Multiset.mem_cons.mp present with rfl | before
        · exact absurd here.symm same
        · exact before

theorem Consistent.made (good : Consistent dev pieces inFlight)
    (count : after.count = dev.count + 1)
    (old : ∀ index < dev.count, after.block index = dev.block index ∧
      (index ∈ after.list ↔ index ∈ dev.list) ∧ after.released index = dev.released index)
    (once : after.list.Nodup) (listBound : ∀ index ∈ after.list, index < after.count)
    (part : ∀ piece ∈ piecesAfter, piece ∈ pieces ∨ piece.block = dev.count)
    (kept : ∀ piece ∈ pieces, piece ∈ piecesAfter)
    (settled : Settled after piecesAfter inFlight dev.count) :
    Consistent after piecesAfter inFlight := by
  refine ⟨once, listBound, fun index held => ?_, fun piece present => ?_, fun index below => ?_⟩
  · rw [count]
    exact Nat.lt_succ_of_lt (good.heldBound index held)
  · rw [count]
    rcases part piece present with before | here
    · exact Nat.lt_succ_of_lt (good.pieceBound piece before)
    · rw [here]
      exact Nat.lt_succ_self _
  · rw [count] at below
    rcases Nat.lt_succ_iff_lt_or_eq.mp below with before | rfl
    · obtain ⟨block, listed, released⟩ := old index before
      refine (good.settled index before).untouched block listed released (fun piece here => ?_) rfl
      refine ⟨fun present => ?_, kept piece⟩
      rcases part piece present with present | new
      · exact present
      · exact absurd (here.symm.trans new) (Nat.ne_of_lt before)
    · exact settled

theorem Consistent.count_new (good : Consistent dev pieces inFlight) :
    inFlight.count dev.count = 0 :=
  Multiset.count_eq_zero.mpr fun held => Nat.lt_irrefl _ (good.heldBound _ held)

theorem Consistent.new_unlisted (good : Consistent dev pieces inFlight) : dev.count ∉ dev.list :=
  fun listed => Nat.lt_irrefl _ (good.listBound _ listed)

theorem Consistent.no_piece (good : Consistent dev pieces inFlight) {piece : Piece}
    (present : piece ∈ pieces) : piece.block ≠ dev.count :=
  Nat.ne_of_lt (good.pieceBound piece present)

theorem Consistent.unmapped (good : Consistent dev pieces inFlight) (len : Nat) :
    Consistent ((dev.tcMemAllocate len).tcMemFree dev.count) pieces inFlight := by
  have block : ((dev.tcMemAllocate len).tcMemFree dev.count).block dev.count =
      ⟨fun _ => none, 0, len, 0⟩ := Function.update_self _ _ _
  have released : ((dev.tcMemAllocate len).tcMemFree dev.count).released dev.count = 1 := by
    simp [Dev.tcMemFree, Dev.tcMemAllocate]
  refine good.made rfl (fun index below => ?_) good.once
    (fun index listed => Nat.lt_succ_of_lt (good.listBound index listed))
    (fun piece present => Or.inl present) (fun piece present => present) ?_
  · have different : index ≠ dev.count := Nat.ne_of_lt below
    refine ⟨Function.update_of_ne different _ _, Iff.rfl, ?_⟩
    simp [Dev.tcMemFree, Dev.tcMemAllocate, different]
  · refine ⟨?_, ?_, fun piece present here => absurd here (good.no_piece present), ?_, ?_⟩
    · rw [block, good.count_new]
      rfl
    · rw [block]
      exact iff_of_false good.new_unlisted (not_not_intro rfl)
    · rw [block]
      intro slot start recorded
      cases recorded
    · rw [block, released]
      rfl

/-- `tc_client_mmap` of a new block, when both its calls succeed. -/
def Dev.mapNew (dev : Dev) (start len pgoff : Nat) : Dev :=
  let mapped := ((dev.tcMemAllocate len).setSlot dev.count .userAddr (some start)).change dev.count
    fun block => { block with offset := Dev.atomicOffset pgoff }
  let taken := mapped.getSharememStruct dev.count
  { taken with list := taken.list ++ [dev.count] }

theorem Consistent.fresh (good : Consistent dev pieces inFlight)
    (mm start stop len pgoff : Nat) :
    Consistent (dev.mapNew start len pgoff)
      (⟨mm, start, stop, dev.count, .userAddr⟩ ::ₘ pieces) inFlight := by
  have slots : ((dev.mapNew start len pgoff).block dev.count).slot =
      Function.update (fun _ => none) .userAddr (some start) := by
    simp [Dev.mapNew, Dev.getSharememStruct, Dev.setSlot, Dev.change, Dev.tcMemAllocate]
  have usage : ((dev.mapNew start len pgoff).block dev.count).usage = 1 := by
    simp [Dev.mapNew, Dev.getSharememStruct, Dev.setSlot, Dev.change, Dev.tcMemAllocate]
  have mapped : ((dev.mapNew start len pgoff).block dev.count).mapped = 1 := by
    rw [Block.mapped, slots]
    rfl
  refine good.made rfl (fun index below => ?_) ?_ (fun index listed => ?_)
    (fun piece present => ?_) (fun piece present => Multiset.mem_cons_of_mem present) ?_
  · have different : index ≠ dev.count := Nat.ne_of_lt below
    refine ⟨?_, ?_, Function.update_of_ne different _ _⟩
    · simp [Dev.mapNew, Dev.getSharememStruct, Dev.setSlot, Dev.change, Dev.tcMemAllocate,
        different]
    · change index ∈ dev.list ++ [dev.count] ↔ _
      simp [different]
  · change (dev.list ++ [dev.count]).Nodup
    rw [List.nodup_append]
    refine ⟨good.once, List.nodup_singleton _, fun index listed other new => ?_⟩
    rw [List.mem_singleton.mp new]
    intro same
    subst same
    exact good.new_unlisted listed
  · change index ∈ dev.list ++ [dev.count] at listed
    rcases List.mem_append.mp listed with before | new
    · exact Nat.lt_succ_of_lt (good.listBound index before)
    · rw [List.mem_singleton.mp new]
      exact Nat.lt_succ_self _
  · rcases Multiset.mem_cons.mp present with rfl | before
    · exact Or.inr rfl
    · exact Or.inl before
  · refine ⟨?_, ?_, fun piece present here => ?_, fun slot addr recorded => ?_, ?_⟩
    · rw [usage, mapped, good.count_new]
    · rw [mapped]
      exact iff_of_true (List.mem_append_right _ (List.mem_singleton_self _)) Nat.one_ne_zero
    · rw [slots]
      rcases Multiset.mem_cons.mp present with rfl | before
      · simp
      · exact absurd here (good.no_piece before)
    · rw [slots] at recorded
      cases slot with
      | userAddr =>
          exact ⟨_, Multiset.mem_cons_self _ _, ⟨rfl, rfl⟩, Option.some.inj recorded⟩
      | userAddrCa => cases recorded
    · rw [usage]
      exact Function.update_self _ _ _

theorem Consistent.mmap (good : Consistent dev pieces inFlight) (mm start len pgoff : Nat)
    (allocated remapped : Bool) :
    match dev.tcClientMmap start len pgoff allocated remapped with
    | (after, none) => Consistent after pieces inFlight
    | (after, some (index, slot)) =>
        Consistent after (⟨mm, start, start + len, index, slot⟩ ::ₘ pieces) inFlight := by
  unfold Dev.tcClientMmap
  cases search : dev.findSharedmem pgoff len with
  | refused => exact good
  | again index =>
      have found : index ∈ dev.list ∧ (dev.block index).slot .userAddrCa = none := by
        unfold Dev.findSharedmem at search
        split at search
        · cases search
        · next candidate isFound =>
            split at search
            · cases search
            · next fits =>
                obtain rfl := Dev.Found.again.inj search
                exact ⟨List.mem_of_find?_eq_some isFound,
                  not_not.mp fun taken => fits (Or.inl taken)⟩
      cases remapped with
      | false => exact (good.get found.1).finish
      | true => exact good.again mm start (start + len) found.1 found.2
  | fresh =>
      cases allocated with
      | false => exact good
      | true =>
          cases remapped with
          | false => exact good.unmapped len
          | true => exact good.fresh mm start (start + len) len pgoff

end Mapping

/-! ### Whole runs -/

theorem State.step_consistent {before after : State} {label : Label}
    (good : Consistent before.dev before.pieces before.inFlight)
    (whole : ClosesWhole before label) (taken : before.step label = some after) :
    Consistent after.dev after.pieces after.inFlight := by
  cases label with
  | mmap mm start len pgoff allocated remapped =>
      have kept := good.mmap mm start len pgoff allocated remapped
      simp only [State.step] at taken
      split at taken
      · split at taken
        · next mapped =>
            rw [mapped] at kept
            obtain rfl := Option.some.inj taken
            exact kept
        · next mapped =>
            rw [mapped] at kept
            obtain rfl := Option.some.inj taken
            exact kept
      · cases taken
  | munmap piece low high =>
      simp only [State.step] at taken
      split at taken
      · next inside =>
          obtain rfl := Option.some.inj taken
          exact good.munmap inside.1 inside.2.1 whole
      · cases taken
  | beginOperation addr =>
      simp only [State.step] at taken
      split at taken
      · cases taken
      · next block found =>
          obtain rfl := Option.some.inj taken
          exact good.get (List.mem_of_find?_eq_some found)
  | endOperation block =>
      simp only [State.step] at taken
      split at taken
      · next held =>
          obtain rfl := Option.some.inj taken
          rw [← Multiset.cons_erase held] at good
          exact good.finish
      · cases taken

theorem consistent_of_reachable {state : State}
    (reached : (mmapMachine.restrict ClosesWhole).Reachable state) :
    Consistent state.dev state.pieces state.inFlight := by
  induction reached with
  | start initial =>
      obtain ⟨list, count, pieces, inFlight⟩ := initial
      rw [pieces, inFlight]
      refine ⟨?_, ?_, ?_, ?_, ?_⟩
      · rw [list]
        exact List.nodup_nil
      · rw [list]
        intro index listed
        cases listed
      · intro index held
        exact absurd held (Multiset.notMem_zero index)
      · intro piece present
        exact absurd present (Multiset.notMem_zero piece)
      · rw [count]
        intro index below
        exact absurd below (Nat.not_lt_zero index)
  | next _ taken ih => exact State.step_consistent ih taken.1 taken.2

theorem Settled.mapped_iff {dev : Dev} {pieces : Multiset Piece} {inFlight : Multiset Nat}
    {index : Nat} (settled : Settled dev pieces inFlight index) :
    (dev.block index).mapped = 0 ↔ ∀ piece ∈ pieces, piece.block ≠ index := by
  rw [Block.mapped_eq_zero]
  constructor
  · intro free piece present here
    exact settled.recorded piece present here (free piece.slot)
  · intro none slot
    cases recorded : (dev.block index).slot slot with
    | none => rfl
    | some start =>
        obtain ⟨piece, present, of, -⟩ := settled.front slot start recorded
        exact absurd of.1 (none piece present)

/-- In every run in which a close that begins at a recorded address closes all that is
left of that mapping, a block has been released once if nothing of it is mapped and no
operation holds it, and not at all otherwise. -/
theorem shared_mem_released_once {state : State}
    (reached : (mmapMachine.restrict ClosesWhole).Reachable state) {block : Nat}
    (known : block < state.dev.count) :
    state.dev.released block =
      if (∀ piece ∈ state.pieces, piece.block ≠ block) ∧ block ∉ state.inFlight then 1 else 0 := by
  have settled := (consistent_of_reachable reached).settled block known
  have unused : (state.dev.block block).usage = 0 ↔
      (∀ piece ∈ state.pieces, piece.block ≠ block) ∧ block ∉ state.inFlight := by
    rw [settled.usage, Nat.add_eq_zero_iff, settled.mapped_iff, Multiset.count_eq_zero]
  rw [settled.released]
  simp only [unused]

def newDev : State :=
  { dev := { block := fun _ => ⟨fun _ => none, 0, 0, 0⟩, released := fun _ => 0, count := 0, list := [] }
    pieces := 0
    inFlight := 0 }

theorem newDev_init : mmapMachine.init newDev := ⟨rfl, rfl, rfl, rfl⟩

theorem step_sound (before : State) (label : Label) (after : State)
    (taken : before.step label = some after) : mmapMachine.step before label after := taken

instance (state : State) (label : Label) : Decidable (ClosesWhole state label) :=
  match label with
  | .mmap _ _ _ _ _ _ => inferInstanceAs (Decidable True)
  | .munmap piece low high =>
      decidable_of_iff (∀ index ∈ state.dev.list, ∀ slot ∈ [Slot.userAddr, Slot.userAddrCa],
        (state.dev.block index).slot slot = some low →
          (piece.block = index ∧ piece.slot = slot) ∧ piece.start = low ∧ piece.stop = high ∧
            ∀ other ∈ state.pieces.erase piece, ¬(other.block = index ∧ other.slot = slot))
        ⟨fun all index listed slot => all index listed slot (by cases slot <;> simp),
          fun all index listed slot _ => all index listed slot⟩
  | .beginOperation _ => inferInstanceAs (Decidable True)
  | .endOperation _ => inferInstanceAs (Decidable True)

/-- A block is mapped, used by an operation, and unmapped before the operation ends. -/
theorem shared_mem_released_once_mapped :
    ∃ state : State, state.dev.count = 1 ∧ state.dev.released 0 =
      if (∀ piece ∈ state.pieces, piece.block ≠ 0) ∧ 0 ∉ state.inFlight then 1 else 0 := by
  have ran : (Machine.replay (Machine.guarded ClosesWhole State.step) newDev
      [.mmap 1 4096 8192 7 true true, .beginOperation (some 4096),
        .munmap ⟨1, 4096, 12288, 0, .userAddr⟩ 4096 12288, .endOperation 0]).map
        (fun state => decide (state.dev.count = 1)) = some true := by
    decide +kernel
  have initial : (mmapMachine.restrict ClosesWhole).Reachable newDev := .start newDev_init
  obtain ⟨state, reached, passed⟩ := initial.exists_of_replay
    (@Machine.guarded_sound _ _ mmapMachine ClosesWhole _ _ step_sound) ran
  have one : state.dev.count = 1 := of_decide_eq_true passed
  refine ⟨state, one, shared_mem_released_once reached ?_⟩
  rw [one]
  exact Nat.one_pos

/-- A munmap of the first page releases the block, whose second page stays mapped. -/
theorem front_munmap_releases_mapped :
    ∃ state, mmapMachine.Reachable state ∧ state.dev.released 0 = 1 ∧
      ⟨1, 8192, 12288, 0, .userAddr⟩ ∈ state.pieces := by
  have ran : (Machine.replay State.step newDev
      [.mmap 1 4096 8192 7 true true,
        .munmap ⟨1, 4096, 12288, 0, .userAddr⟩ 4096 8192]).map
        (fun state => decide (state.dev.released 0 = 1 ∧
          ⟨1, 8192, 12288, 0, .userAddr⟩ ∈ state.pieces)) = some true := by
    decide +kernel
  obtain ⟨state, reached, passed⟩ := (Machine.Reachable.start newDev_init).exists_of_replay
    step_sound ran
  exact ⟨state, reached, of_decide_eq_true passed⟩

end TzDriver.SharedMem
