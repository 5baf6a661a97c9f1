/-
Every call returns what it took.

The ledger of a call lists its allocations and references in order.  Cleanup is
driven by the parameter types, so the preparation of a parameter has to leave a
slot whose contents agree with its type, whichever way it ended.
-/

import Mathlib.Algebra.BigOperators.Group.Multiset.Basic
import TzDriver.Client.CopyOut
import TzDriver.Lib.Ledger

namespace TzDriver.Client

open TzDriver.Lib

inductive Resource where
  | smcCmd
  | mailbox (ptr : UInt64)
  | sharemem (id : Nat)
deriving DecidableEq, Repr

def Event.entry : Event → Option (Entry Resource)
  | .kzallocSmcCmd => some (.acquire .smcCmd)
  | .kfreeSmcCmd => some (.release .smcCmd)
  | .mailboxAlloc ptr _ => some (.acquire (.mailbox ptr))
  | .mailboxFree ptr => some (.release (.mailbox ptr))
  | .getSharemem id => some (.acquire (.sharemem id))
  | .putSharemem id => some (.release (.sharemem id))
  | _ => none

def ledger (events : List Event) : List (Entry Resource) :=
  events.filterMap Event.entry

@[simp] theorem ledger_nil : ledger [] = [] := rfl

@[simp] theorem ledger_append (first second : List Event) :
    ledger (first ++ second) = ledger first ++ ledger second :=
  List.filterMap_append

@[simp] theorem ledger_readFromClient (index : Fin 4) (item : Item) (mode : Mode) (clean : Bool)
    (destSize : Nat) (src : UInt64) (size : Nat) :
    ledger (readFromClient index item destSize src size mode clean).2 = [] := by
  rcases readFromClient_events index item mode clean destSize src size with none | ⟨_, _, one⟩
  · rw [none]
    rfl
  · rw [one]
    rfl

@[simp] theorem ledger_writeToClient (index : Fin 4) (item : Item) (mode : Mode) (clean : Bool)
    (dest : UInt64) (destSize : Nat) (src : UInt64) (size : Nat) :
    ledger (writeToClient index item dest destSize src size mode clean).2 = [] := by
  rcases writeToClient_events index item mode clean dest destSize src size with
    none | ⟨_, _, one⟩
  · rw [none]
    rfl
  · rw [one]
    rfl

@[simp] theorem ledger_readWord (index : Fin 4) (item : Item) (mode : Mode) (src : UInt64)
    (word : Option UInt32) : ledger (readWord index item src mode word).2 = [] :=
  ledger_readFromClient _ _ _ _ _ _ _

@[simp] theorem ledger_writeWord (index : Fin 4) (item : Item) (mode : Mode) (dest : UInt64)
    (clean : Bool) : ledger (writeWord index item dest mode clean).2 = [] :=
  ledger_writeToClient _ _ _ _ _ _ _ _

/-! ### What a slot holds -/

def Slot.tempHeld (slot : Slot) : Multiset Resource :=
  if slot.tempBuffer = 0 then 0 else {.mailbox slot.tempBuffer}

def Slot.refHeld (slot : Slot) : Multiset Resource :=
  match slot.sharemem with
  | none => 0
  | some sharedMem =>
      match sharedMem.memType with
      | .reserved => {.sharemem sharedMem.id}
      | .vmalloc => .sharemem sharedMem.id ::ₘ {.mailbox slot.mbBuffer}

def Slot.held (slot : Slot) : Multiset Resource :=
  slot.tempHeld + slot.refHeld

/-- The contents of a slot agree with the type that will free them. -/
structure Owned (platform : Platform) (type : ParamType) (slot : Slot) : Prop where
  tempType : slot.tempBuffer ≠ 0 → isTmpMem type = true
  tempProper : slot.tempBuffer ≠ 0 → zeroOrNullPtr slot.tempBuffer = false
  tempMapped : slot.tempBuffer ≠ 0 → platform.checksVirtAddr = true →
    platform.virtAddrValid slot.tempBuffer = true
  refType : slot.sharemem ≠ none → isRefMem type = true
  noBuffer : slot.sharemem = none → slot.mbBuffer = 0
  buffer : ∀ sharedMem, slot.sharemem = some sharedMem → sharedMem.memType = .vmalloc →
    slot.mbBuffer ≠ 0

theorem Owned.zeroed (platform : Platform) (type : ParamType) :
    Owned platform type Slot.zeroed := by
  constructor <;> simp [Slot.zeroed]

@[simp] theorem held_zeroed : Slot.zeroed.held = 0 := rfl

/-- What `free_operation` reads of a slot. -/
def Slot.owners (slot : Slot) : Option SharedMem × UInt64 × UInt64 :=
  (slot.sharemem, slot.mbBuffer, slot.tempBuffer)

theorem Slot.held_congr {left right : Slot} (same : left.owners = right.owners) :
    left.held = right.held := by
  simp only [Slot.owners, Prod.mk.injEq] at same
  simp only [Slot.held, Slot.tempHeld, Slot.refHeld, same.1, same.2.1, same.2.2]

theorem Owned.congr {platform : Platform} {type : ParamType} {left right : Slot}
    (same : left.owners = right.owners) (owned : Owned platform type left) :
    Owned platform type right := by
  simp only [Slot.owners, Prod.mk.injEq] at same
  obtain ⟨sharemem, mbBuffer, tempBuffer⟩ := same
  constructor
  · exact tempBuffer ▸ owned.tempType
  · exact tempBuffer ▸ owned.tempProper
  · exact tempBuffer ▸ owned.tempMapped
  · exact sharemem ▸ owned.refType
  · exact sharemem ▸ mbBuffer ▸ owned.noBuffer
  · exact sharemem ▸ mbBuffer ▸ owned.buffer

/-! ### Preparing a parameter -/

/-- A preparation step that starts from a zeroed slot took exactly what its slot
holds, and left a slot that its type can free. -/
structure Balanced (platform : Platform) (type : ParamType) (step : Prepared) : Prop where
  owned : Owned platform type step.slot
  taken : ∀ before, Ledger.held before (ledger step.events) = some (step.slot.held + before)

section Prepare

variable {platform : Platform} {env : CallEnv platform} {mode : Mode} {type : ParamType}
  {index : Fin 4} {clientParam : ClientParam}

theorem Balanced.returned {step : Prepared}
    (back : ∀ before, Ledger.held before (ledger step.events) = some before)
    (blank : step.slot.owners = Slot.zeroed.owners) : Balanced platform type step := by
  refine ⟨(Owned.zeroed platform type).congr blank.symm, ?_⟩
  intro before
  rw [back, Slot.held_congr blank, held_zeroed, Multiset.zero_add]

theorem Balanced.quiet {step : Prepared} (none : ledger step.events = [])
    (blank : step.slot.owners = Slot.zeroed.owners) : Balanced platform type step :=
  .returned (fun before => by rw [none]; rfl) blank

theorem Balanced.afterRead {step : Prepared} {read : List Event}
    (balanced : Balanced platform type step) (none : ledger read = []) :
    Balanced platform type { step with events := read ++ step.events } := by
  refine ⟨balanced.owned, ?_⟩
  intro before
  rw [ledger_append, none, List.nil_append]
  exact balanced.taken before

theorem owned_temp (isTemp : isTmpMem type = true) (block : MailboxPtr platform) {slot : Slot}
    (stored : slot.owners = (none, 0, block.addr)) : Owned platform type slot := by
  simp only [Slot.owners, Prod.mk.injEq] at stored
  obtain ⟨sharemem, mbBuffer, tempBuffer⟩ := stored
  constructor
  · intro _
    exact isTemp
  · intro _
    rw [tempBuffer]
    exact block.proper
  · intro _
    rw [tempBuffer]
    exact block.mapped
  · intro some
    exact absurd sharemem some
  · intro _
    exact mbBuffer
  · intro sharedMem some
    rw [sharemem] at some
    cases some

theorem held_temp (block : MailboxPtr platform) {slot : Slot}
    (stored : slot.owners = (none, 0, block.addr)) : slot.held = {.mailbox block.addr} := by
  simp only [Slot.owners, Prod.mk.injEq] at stored
  obtain ⟨sharemem, mbBuffer, tempBuffer⟩ := stored
  simp only [Slot.held, Slot.tempHeld, Slot.refHeld, sharemem, tempBuffer,
    if_neg block.addr_ne_zero]
  rfl

theorem ledger_updateInputData (bufferSize : UInt32) :
    ledger (updateInputData env mode type index clientParam bufferSize).2 = [] := by
  unfold updateInputData
  split
  · rfl
  · exact ledger_readFromClient _ _ _ _ _ _ _

theorem allocTmpBuffer_balanced (isTemp : isTmpMem type = true) (bufferSize : UInt32) :
    Balanced platform type
      (allocTmpBuffer env mode type index clientParam bufferSize Slot.zeroed) := by
  unfold allocTmpBuffer
  split
  · exact .quiet rfl rfl
  simp only
  split
  · exact .quiet rfl rfl
  cases given : env.tmpBlock index with
  | none => exact .quiet rfl rfl
  | some block =>
      have input : ledger (.mailboxAlloc block.addr bufferSize.toNat ::
          (updateInputData env mode type index clientParam bufferSize).2) =
          [.acquire (.mailbox block.addr)] := by
        change .acquire (.mailbox block.addr) :: ledger _ = _
        rw [ledger_updateInputData]
      simp only
      split
      · refine ⟨owned_temp isTemp block rfl, ?_⟩
        intro before
        rw [input, held_temp block rfl]
        rfl
      · refine ⟨owned_temp isTemp block rfl, ?_⟩
        intro before
        rw [input, held_temp block rfl]
        rfl

theorem allocForTmpMem_balanced (isTemp : isTmpMem type = true) :
    Balanced platform type (allocForTmpMem env mode type index clientParam Slot.zeroed) := by
  unfold allocForTmpMem
  simp only
  split
  · exact .quiet (ledger_readWord _ _ _ _ _) rfl
  · exact (allocTmpBuffer_balanced isTemp _).afterRead (ledger_readWord _ _ _ _ _)

theorem owned_ref (isRef : isRefMem type = true) {slot : Slot} {sharedMem : SharedMem}
    {mbBuffer : UInt64} (stored : slot.owners = (some sharedMem, mbBuffer, 0))
    (buffer : sharedMem.memType = .vmalloc → mbBuffer ≠ 0) : Owned platform type slot := by
  simp only [Slot.owners, Prod.mk.injEq] at stored
  obtain ⟨sharemem, sameBuffer, tempBuffer⟩ := stored
  constructor
  · intro temp
    exact absurd tempBuffer temp
  · intro temp
    exact absurd tempBuffer temp
  · intro temp
    exact absurd tempBuffer temp
  · intro _
    exact isRef
  · intro none
    rw [sharemem] at none
    cases none
  · intro other some kind
    rw [sharemem] at some
    cases some
    rw [sameBuffer]
    exact buffer kind

theorem held_ref {slot : Slot} {sharedMem : SharedMem} {mbBuffer : UInt64}
    (stored : slot.owners = (some sharedMem, mbBuffer, 0)) :
    slot.held =
      match sharedMem.memType with
      | .reserved => {.sharemem sharedMem.id}
      | .vmalloc => .sharemem sharedMem.id ::ₘ {.mailbox mbBuffer} := by
  simp only [Slot.owners, Prod.mk.injEq] at stored
  obtain ⟨sharemem, sameBuffer, tempBuffer⟩ := stored
  simp only [Slot.held, Slot.tempHeld, Slot.refHeld, sharemem, sameBuffer, tempBuffer, if_true,
    Multiset.zero_add]

theorem refSharedMem_balanced_found (isRef : isRefMem type = true) {slot : Slot}
    (blank : slot.owners = Slot.zeroed.owners) (sharedMem : SharedMem) (bufferAddr : UInt64)
    (bufferSize : UInt32) :
    Balanced platform type
      (let set := setOperationBuffer env index sharedMem bufferAddr bufferSize slot
       if set.ret ≠ 0 then set
       else
         ⟨0, { set.slot with sharemem := some sharedMem },
           set.events ++ [.getSharemem sharedMem.id]⟩) := by
  have tempBuffer : slot.tempBuffer = 0 := congrArg (fun owners => owners.2.2) blank
  unfold setOperationBuffer
  cases kind : sharedMem.memType with
  | reserved =>
      simp only [ne_eq, not_true_eq_false, if_false]
      have stored : Slot.owners
          { setPhys { slot with mbBuffer := bufferAddr }
              (platform.resMemVirtToPhys bufferAddr) with sharemem := some sharedMem } =
          (some sharedMem, bufferAddr, 0) := by
        simp [Slot.owners, setPhys, tempBuffer]
      refine ⟨owned_ref isRef stored ?_, ?_⟩
      · intro vmalloc
        rw [kind] at vmalloc
        cases vmalloc
      · intro before
        rw [held_ref stored, kind]
        rfl
  | vmalloc =>
      simp only
      rcases mailboxCopyAlloc_cases bufferAddr bufferSize.toNat (env.refBlock index)
        (env.refOverlap index) with none | ⟨block, given, refused | copied⟩
      · rw [none]
        exact .quiet rfl blank
      · rw [refused]
        refine .returned ?_ blank
        intro before
        exact Ledger.held_release before (.mailbox block.addr)
      · rw [copied]
        simp only [ne_eq, not_true_eq_false, if_false]
        have stored : Slot.owners
            { setPhys { slot with mbBuffer := block.addr }
                (platform.mailboxVirtToPhys block.addr) with sharemem := some sharedMem } =
            (some sharedMem, block.addr, 0) := by
          simp [Slot.owners, setPhys, tempBuffer]
        refine ⟨owned_ref isRef stored (fun _ => block.addr_ne_zero), ?_⟩
        intro before
        rw [held_ref stored, kind]
        simp only [Multiset.cons_add, Multiset.singleton_add]
        rfl

theorem refSharedMem_balanced (isRef : isRefMem type = true) {slot : Slot}
    (blank : slot.owners = Slot.zeroed.owners) (bufferSize : UInt32) :
    Balanced platform type (refSharedMem env index clientParam bufferSize slot) := by
  unfold refSharedMem
  cases findSharedMem env index clientParam with
  | none => exact .quiet rfl blank
  | some sharedMem =>
      simp only
      split
      · exact .quiet rfl blank
      · exact refSharedMem_balanced_found isRef blank sharedMem _ bufferSize

theorem Balanced.congr {step other : Prepared} (balanced : Balanced platform type step)
    (sameEvents : ledger other.events = ledger step.events)
    (sameSlot : other.slot.owners = step.slot.owners) : Balanced platform type other := by
  refine ⟨balanced.owned.congr sameSlot.symm, ?_⟩
  intro before
  rw [sameEvents, Slot.held_congr sameSlot]
  exact balanced.taken before

theorem allocForRefMem_balanced (isRef : isRefMem type = true) :
    Balanced platform type (allocForRefMem env mode type index clientParam Slot.zeroed) := by
  unfold allocForRefMem
  simp only
  split
  · exact .quiet (ledger_readWord _ _ _ _ _) rfl
  have found : Balanced platform type (refSharedMem env index clientParam
      ((env.entrySize index).getD 0) { Slot.zeroed with param := ⟨0, Slot.zeroed.param.size⟩ }) :=
    refSharedMem_balanced isRef rfl _
  have silent (step : Prepared) : ledger ((readWord index .size clientParam.sizeAddress mode
      (env.entrySize index)).2 ++ step.events) = ledger step.events := by
    rw [ledger_append, ledger_readWord, List.nil_append]
  split
  · exact found.congr (silent _) rfl
  split
  · exact found.congr (silent _) rfl
  · exact found.congr (silent _) rfl

theorem transferClientValue_balanced :
    Balanced platform type (transferClientValue env mode type index clientParam Slot.zeroed) := by
  unfold transferClientValue
  simp only
  split
  · exact .quiet (ledger_readWord _ _ _ _ _) rfl
  have silent : ledger ((readWord index .valueA clientParam.aAddress mode (env.valueA index)).2 ++
      (readWord index .valueB clientParam.bAddress mode (env.valueB index)).2) = [] := by
    rw [ledger_append, ledger_readWord, ledger_readWord, List.nil_append]
  split
  · exact .quiet silent rfl
  · exact .quiet silent rfl

theorem isTmpMem_of_teecTmpmemType (isTemp : teecTmpmemType type .inout = true) :
    isTmpMem type = true := by
  simpa [teecTmpmemType, isTmpMem, Dir.isInput, Dir.isOutput] using isTemp

theorem isRefMem_of_teecMemrefType (isRef : teecMemrefType type .inout = true) :
    isRefMem type = true := by
  simpa [teecMemrefType, isRefMem, Dir.isInput, Dir.isOutput] using isRef

theorem allocParam_balanced :
    Balanced platform type (allocParam env mode type index clientParam Slot.zeroed) := by
  unfold allocParam
  split
  · rename_i isTemp
    exact allocForTmpMem_balanced (isTmpMem_of_teecTmpmemType isTemp)
  split
  · rename_i isRef
    exact allocForRefMem_balanced (isRefMem_of_teecMemrefType isRef)
  split
  · exact transferClientValue_balanced
  split
  · exact .quiet rfl rfl
  · exact .quiet rfl rfl

end Prepare

/-! ### Freeing a parameter -/

section Free

variable {platform : Platform} {type : ParamType} {slot : Slot}

theorem freeTempBuffer_held (owned : Owned platform type slot) (rest : Multiset Resource) :
    Ledger.held (slot.tempHeld + rest) (ledger (freeTempBuffer platform slot)) = some rest := by
  unfold freeTempBuffer Slot.tempHeld
  by_cases null : slot.tempBuffer = 0
  · have zero : zeroOrNullPtr slot.tempBuffer = true := by
      rw [null]
      rfl
    rw [if_pos null, Multiset.zero_add, if_pos zero]
    split
    · rfl
    · rfl
  · rw [if_neg null, Multiset.singleton_add]
    have mapped : ¬(platform.checksVirtAddr = true ∧
        platform.virtAddrValid slot.tempBuffer = false) := by
      intro unmapped
      rw [owned.tempMapped null unmapped.1] at unmapped
      exact absurd unmapped.2 Bool.noConfusion
    rw [if_neg mapped, owned.tempProper null]
    exact Ledger.held_release rest (.mailbox slot.tempBuffer)

theorem tempHeld_of_not_tmp (owned : Owned platform type slot) (notTmp : isTmpMem type = false) :
    slot.tempHeld = 0 := by
  unfold Slot.tempHeld
  rw [if_pos]
  by_contra nonNull
  rw [owned.tempType nonNull] at notTmp
  cases notTmp

theorem refHeld_of_not_ref (owned : Owned platform type slot) (notRef : isRefMem type = false) :
    slot.refHeld = 0 := by
  unfold Slot.refHeld
  cases stored : slot.sharemem with
  | none => rfl
  | some sharedMem =>
      rw [owned.refType (by rw [stored]; exact Option.some_ne_none _)] at notRef
      cases notRef

theorem freeRef_held (owned : Owned platform type slot) (rest : Multiset Resource) :
    Ledger.held (slot.refHeld + rest)
      (ledger (match slot.sharemem.map SharedMem.memType with
        | some .reserved => putSharememStruct slot.sharemem
        | _ =>
            putSharememStruct slot.sharemem ++
              (if slot.mbBuffer ≠ 0 then [.mailboxFree slot.mbBuffer] else []))) = some rest := by
  unfold Slot.refHeld
  cases stored : slot.sharemem with
  | none =>
      simp only [Option.map_none, owned.noBuffer stored, ne_eq, not_true_eq_false, if_false,
        Multiset.zero_add]
      rfl
  | some sharedMem =>
      cases kind : sharedMem.memType with
      | reserved =>
          simp only [Option.map_some, kind, Multiset.singleton_add]
          exact Ledger.held_release rest (.sharemem sharedMem.id)
      | vmalloc =>
          simp only [Option.map_some, kind, if_pos (owned.buffer sharedMem stored kind),
            Multiset.cons_add, Multiset.singleton_add, ledger_append]
          have put := Ledger.held_release (.mailbox slot.mbBuffer ::ₘ rest)
            (Resource.sharemem sharedMem.id)
          exact (Ledger.held_append_some put _).trans
            (Ledger.held_release rest (.mailbox slot.mbBuffer))

theorem freeParam_held (owned : Owned platform type slot) (rest : Multiset Resource) :
    Ledger.held (slot.held + rest) (ledger (freeParam platform type slot)) = some rest := by
  unfold freeParam Slot.held
  by_cases isTmp : isTmpMem type = true
  · have notRef : isRefMem type = false := by
      revert isTmp
      cases type <;> simp [isTmpMem, isRefMem]
    rw [if_pos isTmp, refHeld_of_not_ref owned notRef, Multiset.add_zero]
    exact freeTempBuffer_held owned rest
  rw [if_neg isTmp]
  have noTemp := tempHeld_of_not_tmp owned (Bool.not_eq_true _ ▸ isTmp)
  rw [noTemp, Multiset.zero_add]
  by_cases isRef : isRefMem type = true
  · rw [if_pos isRef]
    exact freeRef_held owned rest
  rw [if_neg isRef, refHeld_of_not_ref owned (Bool.not_eq_true _ ▸ isRef), Multiset.zero_add]
  split
  · have freed := freeTempBuffer_held owned rest
    rwa [noTemp, Multiset.zero_add] at freed
  · rfl

end Free

/-! ### Whole operations -/

section Operation

variable {platform : Platform} {env : CallEnv platform} {params : CallParams}

def slotsHeld (slots : Fin 4 → Slot) (indices : List (Fin 4)) : Multiset Resource :=
  (indices.map fun index => (slots index).held).sum

theorem freeLoop_held {slots : Fin 4 → Slot} {indices : List (Fin 4)}
    (owned : ∀ index ∈ indices, Owned platform (params.paramType index) (slots index))
    (rest : Multiset Resource) :
    Ledger.held (slotsHeld slots indices + rest)
      (ledger (indices.flatMap fun index =>
        freeParam platform (params.paramType index) (slots index))) = some rest := by
  induction indices with
  | nil => exact congrArg some (Multiset.zero_add rest)
  | cons index later ih =>
      rw [List.flatMap_cons, ledger_append, slotsHeld, List.map_cons, List.sum_cons, add_assoc,
        Ledger.held_append_some (freeParam_held (owned index List.mem_cons_self) _)]
      exact ih fun other member => owned other (List.mem_cons_of_mem _ member)

/-- The loop took what the slots it ran over hold, also when it stopped early. -/
theorem allocLoop_balanced {indices : List (Fin 4)} (distinct : indices.Nodup)
    {slots : Fin 4 → Slot} (blank : ∀ index ∈ indices, slots index = Slot.zeroed) :
    (∀ index ∈ indices, Owned platform (params.paramType index)
        ((allocLoop env params indices slots).slots index)) ∧
      ∀ before, Ledger.held before (ledger (allocLoop env params indices slots).events) =
        some (slotsHeld (allocLoop env params indices slots).slots indices + before) := by
  induction indices generalizing slots with
  | nil =>
      refine ⟨fun index member => (List.not_mem_nil member).elim, ?_⟩
      intro before
      exact congrArg some (Multiset.zero_add before).symm
  | cons first rest ih =>
      obtain ⟨fresh, distinctRest⟩ := List.nodup_cons.mp distinct
      have step : Balanced platform (params.paramType first) (allocStep env params slots first) := by
        unfold allocStep
        rw [blank first List.mem_cons_self]
        exact allocParam_balanced
      have blankRest (slot : Slot) :
          ∀ index ∈ rest, Function.update slots first slot index = Slot.zeroed := by
        intro index member
        have notFirst : index ≠ first := fun same => fresh (same ▸ member)
        rw [Function.update_of_ne notFirst]
        exact blank index (List.mem_cons_of_mem _ member)
      by_cases accepted : (allocStep env params slots first).ret = 0
      · rw [allocLoop_cons_ok accepted]
        obtain ⟨ownedRest, takenRest⟩ := ih distinctRest (blankRest
          (allocStep env params slots first).slot)
        have atFirst : (allocLoop env params rest (Function.update slots first
            (allocStep env params slots first).slot)).slots first =
            (allocStep env params slots first).slot :=
          (allocLoop_frame fresh).trans (Function.update_self _ _ _)
        constructor
        · intro index member
          rcases List.mem_cons.mp member with same | later
          · subst same
            simp only [atFirst]
            exact step.owned
          · exact ownedRest index later
        · intro before
          rw [ledger_append, Ledger.held_append_some (step.taken before), takenRest]
          simp only [slotsHeld, List.map_cons, List.sum_cons, atFirst]
          rw [← add_assoc, add_comm (List.sum _)]
      · rw [allocLoop_cons_error accepted]
        have later (index : Fin 4) (member : index ∈ rest) :
            Function.update slots first (allocStep env params slots first).slot index =
              Slot.zeroed := blankRest _ index member
        constructor
        · intro index member
          rcases List.mem_cons.mp member with same | inRest
          · subst same
            simp only [Function.update_self]
            exact step.owned
          · simp only [later index inRest]
            exact Owned.zeroed platform _
        · intro before
          have nothing : slotsHeld (Function.update slots first
              (allocStep env params slots first).slot) rest = 0 := by
            apply List.sum_eq_zero
            intro held member
            obtain ⟨index, inRest, same⟩ := List.mem_map.mp member
            rw [← same, later index inRest, held_zeroed]
          rw [step.taken before]
          simp only [slotsHeld, List.map_cons, List.sum_cons, Function.update_self] at nothing ⊢
          rw [nothing, Multiset.add_zero]

theorem freeOperation_held {slots : Fin 4 → Slot}
    (owned : ∀ index, Owned platform (params.paramType index) (slots index))
    (rest : Multiset Resource) :
    Ledger.held (slotsHeld slots (List.finRange 4) + rest)
      (ledger (freeOperation platform params slots)) = some rest :=
  freeLoop_held (fun index _ => owned index) rest

/-- A refused operation has already given everything back; an accepted one holds
what its slots hold. -/
theorem allocOperation_balanced :
    (∀ index, Owned platform (params.paramType index) ((allocOperation env params).slots index)) ∧
      ∀ before, Ledger.held before (ledger (allocOperation env params).events) =
        some (if (allocOperation env params).ret = 0 then
          slotsHeld (allocOperation env params).slots (List.finRange 4) + before else before) := by
  obtain ⟨owned, taken⟩ := @allocLoop_balanced platform env params _ (List.nodup_finRange 4)
    (fun _ => Slot.zeroed) (fun _ _ => rfl)
  have ownedAll := fun index => owned index (List.mem_finRange index)
  unfold allocOperation
  by_cases accepted : (allocLoop env params (List.finRange 4) fun _ => Slot.zeroed).ret = 0
  · simp only [accepted, ne_eq, not_true_eq_false, if_false, if_true]
    exact ⟨ownedAll, taken⟩
  · simp only [accepted, ne_eq, not_false_eq_true, if_true, if_false]
    refine ⟨ownedAll, ?_⟩
    intro before
    rw [ledger_append, Ledger.held_append_some (taken before)]
    exact freeOperation_held ownedAll before

end Operation

/-! ### Whole calls -/

section Call

variable {platform : Platform} {env : CallEnv platform} {params : CallParams}

theorem ledger_updateTmpMem (mode : Mode) (index : Fin 4) (clientParam : ClientParam)
    (slot : Slot) (isComplete : Bool) :
    ledger (updateTmpMem env mode index clientParam slot isComplete).2 = [] := by
  unfold updateTmpMem
  simp only
  split
  · simp
  split
  · simp
  split
  · simp
  · simp

theorem ledger_updateForRefMem (mode : Mode) (index : Fin 4) (clientParam : ClientParam)
    (slot : Slot) : ledger (updateForRefMem env mode index clientParam slot).2 = [] := by
  have copied (sharedMem : SharedMem) (bufferSize origSize : UInt32) :
      ledger (copyToSharemem env index clientParam slot sharedMem bufferSize origSize).2 = [] := by
    unfold copyToSharemem
    split
    · split
      · rfl
      · rfl
    · rfl
  unfold updateForRefMem
  simp only
  split
  · simp
  split
  · simp
  cases slot.sharemem with
  | none => simp
  | some sharedMem => cases kind : sharedMem.memType <;> simp [kind, copied]

theorem ledger_updateParam (mode : Mode) (index : Fin 4) (clientParam : ClientParam)
    (slot : Slot) (type : ParamType) (isComplete : Bool) :
    ledger (updateParam env mode index clientParam slot type isComplete).2 = [] := by
  unfold updateParam
  split
  · exact ledger_updateTmpMem mode index clientParam slot isComplete
  split
  · exact ledger_updateForRefMem mode index clientParam slot
  split
  · unfold updateForValue
    simp only
    split
    · simp
    · simp
  · rfl

theorem ledger_updateLoop (slots : Fin 4 → Slot) (isComplete : Bool) (indices : List (Fin 4)) :
    ledger (updateLoop env params slots isComplete indices).2 = [] := by
  induction indices with
  | nil => rfl
  | cons index rest ih =>
      unfold updateLoop
      simp only
      split
      · exact ledger_updateParam _ _ _ _ _ _
      · rw [ledger_append, ledger_updateParam, ih, List.nil_append]

theorem ledger_updateClientOperation (slots : Fin 4 → Slot) (opInited isComplete : Bool) :
    ledger (updateClientOperation env params slots opInited isComplete).2 = [] := by
  unfold updateClientOperation
  split
  · rfl
  split
  · rfl
  · exact ledger_updateLoop slots isComplete _

theorem ledger_postProcSmcReturn (slots : Fin 4 → Slot) (opInited : Bool) (teeRet : UInt32) :
    ledger (postProcSmcReturn env params slots opInited teeRet).2 = [] := by
  unfold postProcSmcReturn
  split
  · simp only
    split
    · exact ledger_updateClientOperation slots opInited false
    · rfl
  · exact ledger_updateClientOperation slots opInited true

theorem ledger_handleTaPending {sess : SessionPtr} {reply : SmcReply} {later : List SmcReply}
    {final : SmcReply × List Event} (ended : handleTaPending sess reply later = some final) :
    ledger final.2 = [] := by
  have ends := PendingEnds.of_eq_some ended
  clear ended
  induction ends with
  | finished final => rfl
  | resent pending woken ends ih => exact ih

/-- The events of a call before its release: what they took is the command, the
pack and, once the operation is initialised, what the slots hold. -/
def Taken (pack : MailboxPtr platform) (slots : Fin 4 → Slot) (opInited : Bool)
    (events : List Event) : Prop :=
  Ledger.held 0 (ledger events) =
    some ((if opInited then slotsHeld slots (List.finRange 4) else 0) +
      (.smcCmd ::ₘ {.mailbox pack.addr}))

theorem finishCall_settled {pack : MailboxPtr platform} {slots : Fin 4 → Slot} {opInited : Bool}
    {context : ClientContext} {cmd : SmcCmd} {teeRet : UInt32} {ret : Int} {events : List Event}
    (owned : opInited = true →
      ∀ index, Owned platform (params.paramType index) (slots index))
    (taken : Taken pack slots opInited events) :
    Ledger.Settled
      (ledger (finishCall params pack slots opInited context cmd teeRet ret events).events) := by
  have last : Ledger.held (.smcCmd ::ₘ {.mailbox pack.addr})
      (ledger [.kfreeSmcCmd, .mailboxFree pack.addr]) = some 0 :=
    (Ledger.held_append_some (Ledger.held_release _ Resource.smcCmd)
      [.release (.mailbox pack.addr)]).trans
      (Ledger.held_release 0 (Resource.mailbox pack.addr))
  unfold finishCall Ledger.Settled
  simp only [ledger_append]
  rw [Ledger.held_append_some taken]
  cases opInited with
  | false =>
      simp only [Bool.false_eq_true, if_false, Multiset.zero_add, ledger_nil, List.nil_append]
      exact last
  | true =>
      simp only [if_true]
      rw [Ledger.held_append_some (freeOperation_held (owned rfl) _)]
      exact last

theorem sendCall_settled {pack : MailboxPtr platform} {slots : Fin 4 → Slot} {opInited : Bool}
    {cmd : SmcCmd} {events : List Event} {result : CallResult}
    (owned : opInited = true →
      ∀ index, Owned platform (params.paramType index) (slots index))
    (taken : Taken pack slots opInited events)
    (returned : sendCall env params pack slots opInited cmd events = some result) :
    Ledger.Settled (ledger result.events) := by
  unfold sendCall at returned
  simp only at returned
  split at returned
  · rw [← Option.some.inj returned]
    exact finishCall_settled owned taken
  cases answered : handleTaPending params.sess env.reply env.laterReplies with
  | none =>
      rw [answered] at returned
      cases returned
  | some final =>
      rw [answered] at returned
      rw [← Option.some.inj returned]
      apply finishCall_settled owned
      have silent : ledger (events ++ .smc env.reply :: (final.2 ++
          (postProcSmcReturn env params slots opInited final.1.ret).2)) = ledger events := by
        rw [ledger_append]
        change ledger events ++ ledger (final.2 ++ _) = _
        rw [ledger_append, ledger_handleTaPending answered, ledger_postProcSmcReturn,
          List.append_nil, List.append_nil]
      unfold Taken
      rw [silent]
      exact taken

theorem tcClientCall_settled {result : CallResult}
    (returned : tcClientCall env params = some result) :
    Ledger.Settled (ledger result.events) := by
  unfold tcClientCall at returned
  split at returned
  · rw [← Option.some.inj returned]
    rfl
  cases given : env.cmdPack with
  | none =>
      rw [given] at returned
      rw [← Option.some.inj returned]
      rfl
  | some pack =>
      rw [given] at returned
      simp only at returned
      have start : Ledger.held 0
          (ledger [.kzallocSmcCmd, .mailboxAlloc pack.addr 4096]) =
          some (.smcCmd ::ₘ {.mailbox pack.addr}) := by
        exact congrArg some (Multiset.cons_swap _ _ _)
      split at returned
      · refine sendCall_settled (fun inited => by cases inited) ?_ returned
        unfold Taken
        rw [start]
        exact congrArg some (Multiset.zero_add _).symm
      obtain ⟨owned, balance⟩ := @allocOperation_balanced platform env params
      have taken := (Ledger.held_append_some start
        (ledger (allocOperation env params).events)).trans (balance _)
      rw [← ledger_append] at taken
      split at returned
      · rename_i failed
        rw [← Option.some.inj returned]
        apply finishCall_settled (fun inited => by cases inited)
        unfold Taken
        rw [taken, if_neg failed]
        exact congrArg some (Multiset.zero_add _).symm
      · rename_i accepted
        refine sendCall_settled (fun _ => owned) ?_ returned
        unfold Taken
        rw [taken, if_pos (not_not.mp accepted)]
        rfl

/-- Whatever the client, the allocators and the TEE do, a call that returns has
freed each block it allocated once, dropped each reference it took and freed
nothing else: counts are as before it, and no shared memory that its list keeps
alive is destroyed. -/
theorem client_call_resource_balance {result : CallResult}
    (returned : tcClientCall env params = some result) :
    Ledger.Settled (ledger result.events) ∧
      (∀ usage, Ledger.counts usage (ledger result.events) = usage) ∧
      ∀ usage id, 0 < usage (Resource.sharemem id) →
        .sharemem id ∉ Ledger.destroyed usage (ledger result.events) := by
  have settled := tcClientCall_settled returned
  refine ⟨settled, fun usage => Ledger.counts_of_settled settled usage, ?_⟩
  intro usage id alive
  refine Ledger.not_destroyed_of_held settled ?_ alive
  intro resource
  rw [Multiset.count_zero, Nat.add_zero]

end Call

/-- A temporary and a partial parameter whose third neighbour fails: both are
given back before the call returns. -/
def mixedCall : CallParams :=
  { partialCall with context := { partialCall.context with paramTypes := 0x5f6 } }

def thirdFails : CallEnv flatPlatform :=
  { raisedSize with tmpBlock := fun index => if index = 2 then none else calmEnv.tmpBlock index }

theorem client_call_resource_balance_third_fails :
    ∃ result, tcClientCall thirdFails mixedCall = some result ∧ result.ret = -eNoMem ∧
      ledger result.events =
        [.acquire .smcCmd, .acquire (.mailbox 0x10000), .acquire (.mailbox 0x20000),
          .acquire (.mailbox 0x70000), .acquire (.sharemem 1), .release (.mailbox 0x20000),
          .release (.sharemem 1), .release (.mailbox 0x70000), .release .smcCmd,
          .release (.mailbox 0x10000)] ∧
      Ledger.Settled (ledger result.events) := by
  have returned : ∃ result, tcClientCall thirdFails mixedCall = some result := ⟨_, rfl⟩
  obtain ⟨result, same⟩ := returned
  refine ⟨result, same, ?_, ?_, (client_call_resource_balance same).1⟩
  · cases same
    decide
  · cases same
    decide

end TzDriver.Client
