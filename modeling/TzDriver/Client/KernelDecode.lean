/-
What the driver makes of a kernel client's context: `alloc_operation` and
`update_client_operation` (`linux/core/gp_ops.c`) after `proc_teek_encode`.

The caller's memory and the TEE's answer do not change while the driver reads them.
-/

import TzDriver.Client.KernelEncode
import TzDriver.Client.Trace

namespace TzDriver.Client

open TzDriver.Session

/-- The reads of a call that finds its client's words in `memory`. -/
def CallEnv.reading {platform : Platform} (env : CallEnv platform) (memory : KernelMemory)
    (context : ClientContext) : CallEnv platform :=
  { env with
    entrySize := fun index => some (word32 memory (context.params index).sizeAddress)
    valueA := fun index => some (word32 memory (context.params index).aAddress)
    valueB := fun index => some (word32 memory (context.params index).bAddress)
    teeSize := fun index _ => env.teeSize index 0 }

/-- A call on a dev_file of `TEE_REQ_FROM_KERNEL_MODE`. -/
def kernelCall (dev : DevFile) (sess : SessionPtr) (flags : UInt8) (context : ClientContext) :
    CallParams :=
  ⟨{ dev with kernelApi := 1 }, context, sess, flags⟩

/-- The bytes that an event copies from the client's buffer into the parameter's mailbox block. -/
def Event.copied (memory : KernelMemory) (index : Fin 4) : Event → List UInt8
  | .fromClient _ place .buffer addr length =>
      if place = index then bytesAt memory addr length else []
  | _ => []

def copiedBytes (memory : KernelMemory) (index : Fin 4) (events : List Event) : List UInt8 :=
  events.flatMap (Event.copied memory index)

/-! ### One temporary buffer -/

section Kernel

variable {platform : Platform} {env : CallEnv platform} {type : ParamType} {index : Fin 4}
  {param : ClientParam} {size : UInt32}

theorem readWord_kernel (item : Item) (src : UInt64) (word : UInt32) :
    readWord index item src .kernel (some word) =
      if src = 0 then (-eInval, []) else (0, [.fromClient .kernel index item src 4]) := by
  have copies : memcpyS 4 4 (!(some word).isSome) = 0 := by
    exact memcpyS_eq_zero.mpr ⟨by decide, by decide, by decide, rfl⟩
  unfold readWord readFromClient
  split
  · rfl
  · simp only [copies]
    rfl

def InputReaches (env : CallEnv platform) (type : ParamType) (index : Fin 4) (source : UInt64) :
    Prop :=
  isInputTempmem type = true → source ≠ 0 ∧ env.inputCopy index = true

theorem updateInputData_kernel (some_ : size ≠ 0) (small : size ≤ maxSharedSize) :
    ((updateInputData env .kernel type index param size).1 = 0 ↔
        InputReaches env type index param.bufferAddress) ∧
      ((updateInputData env .kernel type index param size).1 = 0 →
        (updateInputData env .kernel type index param size).2 =
          if isInputTempmem type then
            [.fromClient .kernel index .buffer param.bufferAddress size.toNat]
          else []) := by
  unfold updateInputData InputReaches
  cases input : isInputTempmem type with
  | false =>
      rw [if_pos rfl]
      refine ⟨iff_of_true rfl ?_, fun _ => rfl⟩
      intro impossible
      cases impossible
  | true =>
      have positive : size.toNat ≠ 0 := fun zero => some_ (UInt32.toNat_inj.mp zero)
      have bound : size.toNat ≤ 0x100000 := UInt32.le_iff_toNat_le.mp small
      have copies : memcpyS size.toNat size.toNat (!env.inputCopy index) = 0 ↔
          env.inputCopy index = true := by
        rw [memcpyS_eq_zero]
        unfold securecMemMaxLen
        constructor
        · intro given
          simpa using given.2.2.2
        · intro clean
          rw [clean]
          exact ⟨by omega, by omega, Nat.le_refl _, rfl⟩
      rw [if_neg (by decide)]
      unfold readFromClient
      by_cases null : param.bufferAddress = 0
      · simp [null, eInval, eFault]
      · rw [if_neg null, if_neg (Nat.lt_irrefl _), if_neg positive]
        by_cases clean : env.inputCopy index = true
        · simp only [copies.mpr clean]
          simp [null, clean]
        · have refused : memcpyS size.toNat size.toNat (!env.inputCopy index) ≠ 0 :=
            fun zero => clean (copies.mp zero)
          simp only [if_pos refused]
          simp [eFault, clean]

/-- What `alloc_for_tmp_mem` needs to go through. -/
def TmpDecodable (env : CallEnv platform) (type : ParamType) (index : Fin 4)
    (sizeAddr source : UInt64) (size : UInt32) : Prop :=
  sizeAddr ≠ 0 ∧ size ≤ maxSharedSize ∧
    (size = 0 ∨ (env.tmpBlock index).isSome = true ∧ InputReaches env type index source)

/-- What it leaves in the slot and in the mailbox. -/
structure TmpDecoded (memory : KernelMemory) (type : ParamType) (index : Fin 4) (source : UInt64)
    (size : UInt32) (prepared : Prepared) : Prop where
  direction : prepared.slot.transParamtype = type.code
  sent : prepared.slot.param.size = size
  block : prepared.slot.tempSize = size
  copied : copiedBytes memory index prepared.events =
    if isInputTempmem type then bytesAt memory source size.toNat else []

theorem allocForTmpMem_kernel (memory : KernelMemory)
    (known : env.entrySize index = some size) :
    ((allocForTmpMem env .kernel type index param Slot.zeroed).ret = 0 ↔
        TmpDecodable env type index param.sizeAddress param.bufferAddress size) ∧
      ((allocForTmpMem env .kernel type index param Slot.zeroed).ret = 0 →
        TmpDecoded memory type index param.bufferAddress size
          (allocForTmpMem env .kernel type index param Slot.zeroed)) := by
  unfold allocForTmpMem TmpDecodable
  rw [known, readWord_kernel]
  by_cases null : param.sizeAddress = 0
  · simp [null, eInval, eFault]
  · simp only [if_neg null, Option.getD_some]
    rw [if_neg (not_not_intro rfl)]
    unfold allocTmpBuffer
    by_cases large : size > maxSharedSize
    · simp [large, eFault, UInt32.not_le.mpr large]
    · have small : size ≤ maxSharedSize := UInt32.not_lt.mp large
      rw [if_neg large]
      by_cases zero : size = 0
      · rw [if_pos zero]
        refine ⟨iff_of_true rfl ⟨null, small, Or.inl zero⟩, ?_⟩
        intro _
        refine ⟨rfl, rfl, zero.symm, ?_⟩
        simp [copiedBytes, Event.copied, bytesAt, zero]
      · simp only [if_neg zero]
        cases block : env.tmpBlock index with
        | none => simp [eNoMem, zero]
        | some block =>
            obtain ⟨reaches, events⟩ := @updateInputData_kernel platform env type index param size
              zero small
            simp only
            by_cases input : (updateInputData env .kernel type index param size).1 = 0
            · rw [if_neg (not_not_intro input)]
              refine ⟨iff_of_true rfl ⟨null, small, Or.inr ⟨rfl, reaches.mp input⟩⟩, ?_⟩
              intro _
              refine ⟨rfl, rfl, rfl, ?_⟩
              rw [events input]
              cases isInputTempmem type with
              | true => simp [copiedBytes, Event.copied]
              | false => simp [copiedBytes, Event.copied]
            · rw [if_pos input]
              refine ⟨iff_of_false (by simp [eFault]) ?_, ?_⟩
              · intro given
                rcases given.2.2 with empty | ⟨-, reached⟩
                · exact zero empty
                · exact input (reaches.mpr reached)
              · intro impossible
                exact absurd impossible (by simp [eFault])

theorem transferClientValue_kernel {first second : UInt32} (knownA : env.valueA index = some first)
    (knownB : env.valueB index = some second) :
    ((transferClientValue env .kernel type index param Slot.zeroed).ret = 0 ↔
        param.aAddress ≠ 0 ∧ param.bAddress ≠ 0) ∧
      ((transferClientValue env .kernel type index param Slot.zeroed).ret = 0 →
        (transferClientValue env .kernel type index param Slot.zeroed).slot.param =
            ⟨first, second⟩ ∧
          (transferClientValue env .kernel type index param Slot.zeroed).slot.transParamtype =
            type.code) := by
  unfold transferClientValue
  rw [knownA, knownB, readWord_kernel, readWord_kernel]
  by_cases nullA : param.aAddress = 0
  · simp [nullA, eInval, eFault]
  · by_cases nullB : param.bAddress = 0
    · simp [nullA, nullB, eInval, eFault]
    · simp [nullA, nullB]

/-! ### Copying back -/

theorem writeToClient_kernel {item : Item} {dest src : UInt64} {destSize size : Nat} {clean : Bool}
    (some_ : size ≠ 0)
    (written : (writeToClient index item dest destSize src size .kernel clean).1 = 0) :
    (writeToClient index item dest destSize src size .kernel clean).2 =
      [.toClient .kernel index item dest size] := by
  unfold writeToClient at written ⊢
  by_cases null : dest = 0 ∨ src = 0
  · rw [if_pos null] at written
    exact absurd written (show ¬-eInval = 0 by decide)
  · by_cases long : size > destSize
    · rw [if_neg null, if_pos long] at written
      exact absurd written (show ¬-eInval = 0 by decide)
    · rw [if_neg null, if_neg long, if_neg some_] at written ⊢
      simp only at written ⊢
      rw [if_pos written]

theorem updateTmpMem_kernel {slot : Slot} {answer : UInt32}
    (settled : ∀ number, env.teeSize index number = answer)
    (updated : (updateTmpMem env .kernel index param slot true).1 = 0) :
    answer ≤ slot.tempSize ∧
      (updateTmpMem env .kernel index param slot true).2 =
        .toClient .kernel index .size param.sizeAddress 4 ::
          (if answer = 0 then []
          else [.toClient .kernel index .buffer param.bufferAddress answer.toNat]) := by
  unfold updateTmpMem at updated ⊢
  simp only [settled] at updated ⊢
  by_cases sized : (writeWord index .size param.sizeAddress .kernel (env.sizeWrite index)).1 = 0
  · have sizeEvent : (writeWord index .size param.sizeAddress .kernel (env.sizeWrite index)).2 =
        [.toClient .kernel index .size param.sizeAddress 4] :=
      writeToClient_kernel (by decide) sized
    rw [if_neg (not_not_intro sized)] at updated ⊢
    by_cases large : answer > slot.tempSize
    · rw [if_pos large] at updated
      exact absurd updated (show ¬-eFault = 0 by decide)
    · rw [if_neg large] at updated ⊢
      refine ⟨UInt32.not_lt.mp large, ?_⟩
      by_cases zero : answer = 0
      · rw [if_pos zero, if_pos zero]
        exact sizeEvent
      · rw [if_neg zero] at updated ⊢
        rw [if_neg zero]
        have some_ : answer.toNat ≠ 0 := fun none => zero (UInt32.toNat_inj.mp none)
        have copied : (writeToClient index .buffer param.bufferAddress answer.toNat slot.tempBuffer
            answer.toNat .kernel (env.bufferWrite index)).1 = 0 := by
          by_contra failed
          simp only [ne_eq, failed, not_false_eq_true, if_true] at updated
          exact absurd updated (show ¬-eNoMem = 0 by decide)
        simp only
        rw [sizeEvent, writeToClient_kernel some_ copied]
        rfl
  · rw [if_pos sized] at updated
    exact absurd updated (show ¬-eFault = 0 by decide)

theorem updateForValue_kernel
    (updated : (updateForValue env .kernel index param).1 = 0) :
    (updateForValue env .kernel index param).2 =
      [.toClient .kernel index .valueA param.aAddress 4,
        .toClient .kernel index .valueB param.bAddress 4] := by
  unfold updateForValue at updated ⊢
  simp only at updated ⊢
  by_cases wroteA : (writeWord index .valueA param.aAddress .kernel (env.valueAWrite index)).1 = 0
  · have first : (writeWord index .valueA param.aAddress .kernel (env.valueAWrite index)).2 =
        [.toClient .kernel index .valueA param.aAddress 4] :=
      writeToClient_kernel (by decide) wroteA
    rw [if_neg (not_not_intro wroteA)] at updated ⊢
    have wroteB : (writeWord index .valueB param.bAddress .kernel (env.valueBWrite index)).1 = 0 := by
      by_contra failed
      simp only [ne_eq, failed, not_false_eq_true, if_true] at updated
      exact absurd updated (show ¬-eFault = 0 by decide)
    have second : (writeWord index .valueB param.bAddress .kernel (env.valueBWrite index)).2 =
        [.toClient .kernel index .valueB param.bAddress 4] :=
      writeToClient_kernel (by decide) wroteB
    simp only
    rw [first, second]
    rfl
  · rw [if_pos wroteA] at updated
    exact absurd updated (show ¬-eFault = 0 by decide)

end Kernel

/-! ### A request -/

/-- A kernel client's operation in its memory, the context it is encoded into, and what the
call that carries it meets. -/
structure KernelRequest (platform : Platform) where
  configIon : Bool
  memory : KernelMemory
  operation : UInt64
  context : ClientContext
  dev : DevFile
  sess : SessionPtr
  flags : UInt8
  env : CallEnv platform

namespace KernelRequest

variable {platform : Platform} (request : KernelRequest platform)

def given : TeecOperation := operationAt request.memory request.operation

def check : UInt32 :=
  teekCheckOperation (sharedmemoryAt request.memory) request.configIon (some request.given)

def encode : UInt32 × ClientContext :=
  procTeekEncode request.configIon request.memory request.operation request.context

def call : CallParams := kernelCall request.dev request.sess request.flags request.encode.2

def outside : CallEnv platform := request.env.reading request.memory request.encode.2

def decode : Operation := allocOperation request.outside request.call

/-- `update_client_operation` after the TEE answered success. -/
def writeBack : Int × List Event :=
  updateClientOperation request.outside request.call request.decode.slots true true

def type (index : Fin 4) : ParamType := sentType (request.given.paramType index)

/-- No partial reference has a parent that `teek_allocate_shared_memory` allocated. -/
def Unallocated : Prop :=
  ∀ index, isRefMem (request.given.paramType index) = true →
    (sharedmemoryAt request.memory (request.given.params index).pointer).isAllocated = false

/-- What decoding the parameter needs: a buffer of at most `MAX_SHARED_SIZE` bytes at an
address that is not NULL, and a mailbox block for it. -/
def Decodable (index : Fin 4) : Prop :=
  if isTmpMem (request.type index) then
    TmpDecodable request.env (request.type index) index (sizeField request.operation index)
      (referenced request.memory request.operation index)
      (referencedSize request.memory request.operation index)
  else if isIon (request.given.paramType index) then False
  else if isValParam (request.given.paramType index) then
    paramAddr request.operation index ≠ 0 ∧ paramAddr request.operation index + 4 ≠ 0
  else True

structure Decoded (index : Fin 4) : Prop where
  direction : (request.decode.slots index).transParamtype = (request.type index).code
  size : isTmpMem (request.type index) = true →
    (request.decode.slots index).param.size = referencedSize request.memory request.operation index
  input : isTmpMem (request.type index) = true →
    copiedBytes request.memory index request.decode.events =
      if isInputTempmem (request.type index) then
        bytesAt request.memory (referenced request.memory request.operation index)
          (referencedSize request.memory request.operation index).toNat
      else []
  value : isValParam (request.given.paramType index) = true →
    (request.decode.slots index).param =
      ⟨(request.given.params index).word0, (request.given.params index).word1⟩

def returned (index : Fin 4) : List Event :=
  if teecTmpmemType (request.type index) .output then
    .toClient .kernel index .size (sizeField request.operation index) 4 ::
      (if request.env.teeSize index 0 = 0 then []
      else
        [.toClient .kernel index .buffer (referenced request.memory request.operation index)
          (request.env.teeSize index 0).toNat])
  else if teecValueType (request.type index) .output then
    [.toClient .kernel index .valueA (paramAddr request.operation index) 4,
      .toClient .kernel index .valueB (paramAddr request.operation index + 4) 4]
  else []

/-! ### The parameters one by one -/

variable {request}

theorem encodable (accepted : request.check = teecSuccess) (unallocated : request.Unallocated)
    (index : Fin 4) : Encodable request.memory request.operation index := by
  obtain ⟨-, params⟩ := teekCheckOperation_success.mp accepted
  exact ⟨(params index).1, (params index).2, unallocated index⟩

/-- What the driver's functions find at one index. -/
structure Carried (request : KernelRequest platform) (index : Fin 4) : Prop where
  type : request.call.paramType index = request.type index
  prepareMode : request.call.kernelParams index = .kernel
  addresses : EncodedParam request.memory request.operation index
    (request.call.context.params index)

theorem carried (accepted : request.check = teecSuccess) (unallocated : request.Unallocated)
    (index : Fin 4) : Carried request index := by
  obtain ⟨-, each⟩ := @procTeekEncode_spec request.configIon request.memory request.operation
    (encodable accepted unallocated) request.context
  refine ⟨(each index).2, ?_, (each index).1⟩
  change (if _ then Mode.kernel else Mode.kernel) = Mode.kernel
  split
  · rfl
  · rfl

theorem step_eq {index : Fin 4} (carried : Carried request index) :
    allocStep request.outside request.call (fun _ => Slot.zeroed) index =
      allocParam request.outside .kernel (request.type index) index
        (request.call.context.params index) Slot.zeroed := by
  unfold allocStep
  rw [carried.type, carried.prepareMode]

theorem step_tmp {index : Fin 4} (carried : Carried request index)
    (tmp : isTmpMem (request.type index) = true) :
    ((allocStep request.outside request.call (fun _ => Slot.zeroed) index).ret = 0 ↔
        request.Decodable index) ∧
      ((allocStep request.outside request.call (fun _ => Slot.zeroed) index).ret = 0 →
        TmpDecoded request.memory (request.type index) index
          (referenced request.memory request.operation index)
          (referencedSize request.memory request.operation index)
          (allocStep request.outside request.call (fun _ => Slot.zeroed) index)) := by
  have kind : teecTmpmemType (request.type index) .inout = true := tmp
  have known : request.outside.entrySize index =
      some (referencedSize request.memory request.operation index) := by
    change some (word32 request.memory (request.call.context.params index).sizeAddress) = _
    rw [carried.addresses.size tmp]
    rfl
  have spec := @allocForTmpMem_kernel platform request.outside (request.type index) index
    (request.call.context.params index) _ request.memory known
  rw [carried.addresses.size tmp, carried.addresses.buffer tmp] at spec
  rw [step_eq carried]
  unfold allocParam Decodable
  rw [if_pos kind, if_pos tmp]
  exact spec

theorem isTmpMem_sentType {type : ParamType} (ref : isRefMem type = true) :
    isTmpMem (sentType type) = true := by
  cases type with
  | memrefPartialInput => rfl
  | memrefPartialOutput => rfl
  | memrefPartialInout => rfl
  | _ => cases ref

theorem type_of_not_tmp {index : Fin 4} (notTmp : isTmpMem (request.type index) = false) :
    isRefMem (request.given.paramType index) = false ∧
      request.type index = request.given.paramType index := by
  cases ref : isRefMem (request.given.paramType index) with
  | false => exact ⟨rfl, sentType_of_not_isRefMem ref⟩
  | true =>
      have tmp : isTmpMem (request.type index) = true := isTmpMem_sentType ref
      rw [notTmp] at tmp
      cases tmp

section Dispatch

variable {env : CallEnv platform} {mode : Mode} {type : ParamType} {index : Fin 4}
  {param : ClientParam} {slot : Slot}

theorem allocParam_ion (ion : isIon type = true) :
    allocParam env mode type index param slot = ⟨-1, slot, []⟩ := by
  cases type with
  | ionInput => rfl
  | ionSglistInput => rfl
  | _ => cases ion

/-- The value types are the types of `is_val_param` without the ION ones. -/
theorem allocParam_value (value : isValParam type = true) (notIon : isIon type = false) :
    allocParam env mode type index param slot =
      transferClientValue env mode type index param slot := by
  cases type with
  | valueInput => rfl
  | valueOutput => rfl
  | valueInout => rfl
  | ionInput => cases notIon
  | ionSglistInput => cases notIon
  | _ => cases value

end Dispatch

theorem step_plain {index : Fin 4} (carried : Carried request index)
    (encodable : Encodable request.memory request.operation index)
    (notTmp : isTmpMem (request.type index) = false) :
    ((allocStep request.outside request.call (fun _ => Slot.zeroed) index).ret = 0 ↔
        request.Decodable index) ∧
      ((allocStep request.outside request.call (fun _ => Slot.zeroed) index).ret = 0 →
        (allocStep request.outside request.call (fun _ => Slot.zeroed) index).slot.transParamtype =
            (request.type index).code ∧
          (isValParam (request.given.paramType index) = true →
            (allocStep request.outside request.call (fun _ => Slot.zeroed) index).slot.param =
              ⟨(request.given.params index).word0, (request.given.params index).word1⟩)) := by
  obtain ⟨notRef, same⟩ := type_of_not_tmp notTmp
  have notTmpGiven : isTmpMem (request.given.paramType index) = false := by
    rw [← same]
    exact notTmp
  rw [step_eq carried]
  unfold Decodable
  rw [same, notTmpGiven]
  cases ion : isIon (request.given.paramType index) with
  | true =>
      rw [allocParam_ion ion]
      refine ⟨iff_of_false (show ¬(-1 : Int) = 0 by decide) fun impossible => impossible, ?_⟩
      intro impossible
      exact absurd impossible (show ¬(-1 : Int) = 0 by decide)
  | false =>
      cases value : isValParam (request.given.paramType index) with
      | true =>
          have knownA : request.outside.valueA index =
              some (request.given.params index).word0 := by
            change some (word32 request.memory (request.call.context.params index).aAddress) = _
            rw [carried.addresses.valueA value]
            rfl
          have knownB : request.outside.valueB index =
              some (request.given.params index).word1 := by
            change some (word32 request.memory (request.call.context.params index).bAddress) = _
            rw [carried.addresses.valueB value]
            rfl
          have spec := @transferClientValue_kernel platform request.outside
            (request.given.paramType index) index (request.call.context.params index) _ _
            knownA knownB
          rw [carried.addresses.valueA value, carried.addresses.valueB value] at spec
          rw [allocParam_value value ion]
          refine ⟨spec.1, ?_⟩
          intro accepted
          exact ⟨(spec.2 accepted).2, fun _ => (spec.2 accepted).1⟩
      | false =>
          have none : request.given.paramType index = .none :=
            encodable.none notTmpGiven notRef value
          rw [none]
          refine ⟨iff_of_true rfl trivial, ?_⟩
          intro _
          refine ⟨rfl, ?_⟩
          intro impossible
          cases impossible

theorem step_ret_iff {index : Fin 4} (carried : Carried request index)
    (encodable : Encodable request.memory request.operation index) :
    (allocStep request.outside request.call (fun _ => Slot.zeroed) index).ret = 0 ↔
      request.Decodable index := by
  cases tmp : isTmpMem (request.type index) with
  | true => exact (step_tmp carried tmp).1
  | false => exact (step_plain carried encodable tmp).1

/-! ### All parameters -/

theorem copied_elsewhere {index other : Fin 4} (different : other ≠ index) :
    copiedBytes request.memory index
      (allocStep request.outside request.call (fun _ => Slot.zeroed) other).events = [] := by
  unfold copiedBytes
  rw [List.flatMap_eq_nil_iff]
  intro event member
  cases allocParam_prepares member with
  | size short => rfl
  | buffer inside => exact if_neg different
  | @value item addr length kind at_ =>
      cases item with
      | buffer => exact if_neg different
      | size => rfl
      | valueA => rfl
      | valueB => rfl
  | alloc => rfl
  | free => rfl
  | share => rfl

theorem flatMap_only {α β : Type} {items : List α} (distinct : items.Nodup) {item : α}
    (member : item ∈ items) {parts : α → List β}
    (others : ∀ other, other ≠ item → parts other = []) : items.flatMap parts = parts item := by
  induction items with
  | nil => cases member
  | cons first rest ih =>
      obtain ⟨fresh, distinctRest⟩ := List.nodup_cons.mp distinct
      rw [List.flatMap_cons]
      rcases List.mem_cons.mp member with rfl | later
      · have nothing : rest.flatMap parts = [] := by
          rw [List.flatMap_eq_nil_iff]
          intro other inRest
          exact others other fun same => fresh (same ▸ inRest)
        rw [nothing, List.append_nil]
      · rw [others first fun same => fresh (same ▸ later), List.nil_append,
          ih distinctRest later]

theorem decode_copied (decoded : request.decode.ret = 0) (index : Fin 4) :
    copiedBytes request.memory index request.decode.events =
      copiedBytes request.memory index
        (allocStep request.outside request.call (fun _ => Slot.zeroed) index).events := by
  have events : request.decode.events = _ := allocOperation_events decoded
  rw [events]
  unfold copiedBytes
  rw [List.flatMap_assoc]
  exact flatMap_only (List.nodup_finRange 4) (List.mem_finRange index)
    fun other different => copied_elsewhere different

theorem isValParam_of_type_tmp {index : Fin 4} (tmp : isTmpMem (request.type index) = true) :
    isValParam (request.given.paramType index) = false := by
  cases value : isValParam (request.given.paramType index) with
  | false => rfl
  | true =>
      obtain ⟨notTmp, notRef⟩ := isTmpMem_of_isValParam value
      unfold type at tmp
      rw [sentType_of_not_isRefMem notRef, notTmp] at tmp
      cases tmp

theorem decoded_of (accepted : request.check = teecSuccess) (unallocated : request.Unallocated)
    (decoded : request.decode.ret = 0) (index : Fin 4) : request.Decoded index := by
  have encodes := encodable accepted unallocated index
  have carries := carried accepted unallocated index
  obtain ⟨stepOk, slot⟩ := allocOperation_slot decoded index
  have same : request.decode.slots index = _ := slot
  cases tmp : isTmpMem (request.type index) with
  | true =>
      have spec := (step_tmp carries tmp).2 stepOk
      constructor
      · rw [same]
        exact spec.direction
      · intro _
        rw [same]
        exact spec.sent
      · intro _
        rw [decode_copied decoded]
        exact spec.copied
      · intro value
        rw [isValParam_of_type_tmp tmp] at value
        cases value
  | false =>
      obtain ⟨direction, value⟩ := (step_plain carries encodes tmp).2 stepOk
      constructor
      · rw [same]
        exact direction
      · rw [tmp]
        intro impossible
        cases impossible
      · rw [tmp]
        intro impossible
        cases impossible
      · intro isValue
        rw [same]
        exact value isValue

/-! ### The way back -/

theorem updateStep_eq {index : Fin 4} (carried : Carried request index) :
    updateStep request.outside request.call request.decode.slots true index =
      updateParam request.outside .kernel index (request.call.context.params index)
        (request.decode.slots index) (request.type index) true := by
  unfold updateStep
  rw [carried.type]
  rfl

theorem isTmpMem_of_output {type : ParamType} (output : teecTmpmemType type .output = true) :
    isTmpMem type = true := by
  cases type with
  | memrefTempOutput => rfl
  | memrefTempInout => rfl
  | _ => cases output

theorem isValParam_of_output {type : ParamType}
    (output : teecValueType (sentType type) .output = true) : isValParam type = true := by
  cases type with
  | valueOutput => rfl
  | valueInout => rfl
  | _ => cases output

theorem sentType_not_ref_output (type : ParamType) :
    ¬teecMemrefType (sentType type) .output = true := by
  cases type with
  | _ => exact Bool.false_ne_true

theorem updateStep_returned (accepted : request.check = teecSuccess)
    (unallocated : request.Unallocated) (decoded : request.decode.ret = 0) {index : Fin 4}
    (updated : (updateStep request.outside request.call request.decode.slots true index).1 = 0) :
    (updateStep request.outside request.call request.decode.slots true index).2 =
        request.returned index ∧
      (teecTmpmemType (request.type index) .output = true →
        request.env.teeSize index 0 ≤ referencedSize request.memory request.operation index) := by
  have carries := carried accepted unallocated index
  rw [updateStep_eq carries] at updated ⊢
  unfold updateParam at updated ⊢
  unfold returned
  by_cases tmpOutput : teecTmpmemType (request.type index) .output = true
  · have tmp := isTmpMem_of_output tmpOutput
    obtain ⟨stepOk, slot⟩ := allocOperation_slot decoded index
    have block : (request.decode.slots index).tempSize =
        referencedSize request.memory request.operation index := by
      have same : request.decode.slots index = _ := slot
      rw [same]
      exact ((step_tmp carries tmp).2 stepOk).block
    rw [if_pos tmpOutput] at updated ⊢
    obtain ⟨fits, events⟩ := @updateTmpMem_kernel platform request.outside index
      (request.call.context.params index) (request.decode.slots index)
      (request.env.teeSize index 0) (fun _ => rfl) updated
    rw [carries.addresses.size tmp, carries.addresses.buffer tmp] at events
    rw [if_pos tmpOutput, events, ← block]
    exact ⟨rfl, fun _ => fits⟩
  · refine ⟨?_, fun output => absurd output tmpOutput⟩
    have notRef := sentType_not_ref_output (request.given.paramType index)
    rw [if_neg tmpOutput, if_neg (show ¬teecMemrefType (request.type index) .output = true from notRef),
      Bool.true_and] at updated ⊢
    rw [if_neg tmpOutput]
    by_cases valueOutput : teecValueType (request.type index) .output = true
    · have value := isValParam_of_output valueOutput
      rw [if_pos valueOutput] at updated ⊢
      rw [if_pos valueOutput, updateForValue_kernel updated, carries.addresses.valueA value,
        carries.addresses.valueB value]
    · rw [if_neg valueOutput, if_neg valueOutput]

theorem writeBack_returned (accepted : request.check = teecSuccess)
    (unallocated : request.Unallocated) (decoded : request.decode.ret = 0)
    (updated : request.writeBack.1 = 0) :
    request.writeBack.2 = (List.finRange 4).flatMap request.returned ∧
      ∀ index, teecTmpmemType (request.type index) .output = true →
        request.env.teeSize index 0 ≤ referencedSize request.memory request.operation index := by
  by_cases nothing : request.call.context.paramTypes = 0
  · have none (index : Fin 4) : request.type index = .none := by
      rw [← (carried accepted unallocated index).type]
      unfold CallParams.paramType teecParamTypeGet
      rw [nothing]
      match index with
      | 0 => rfl
      | 1 => rfl
      | 2 => rfl
      | 3 => rfl
    have silent : request.writeBack = (0, []) := by
      unfold writeBack updateClientOperation
      rw [if_neg (by decide), if_pos nothing]
    rw [silent]
    refine ⟨?_, ?_⟩
    · symm
      rw [List.flatMap_eq_nil_iff]
      intro index _
      unfold returned
      rw [none index]
      rfl
    · intro index output
      rw [none index] at output
      cases output
  · have loop : request.writeBack =
        updateLoop request.outside request.call request.decode.slots true (List.finRange 4) := by
      unfold writeBack updateClientOperation
      rw [if_neg (by decide), if_neg nothing]
    rw [loop] at updated ⊢
    obtain ⟨each, events⟩ := updateLoop_ok updated
    refine ⟨?_, ?_⟩
    · rw [events]
      apply List.flatMap_congr
      intro index member
      exact (updateStep_returned accepted unallocated decoded (each index member)).1
    · intro index
      exact (updateStep_returned accepted unallocated decoded
        (each index (List.mem_finRange index))).2

end KernelRequest

/-- The driver decodes an accepted operation without allocated parents exactly when every
buffer can be had, then every parameter reaches the TEE in its direction and with the bytes
or words it refers to, and what comes back goes to the same memory and size fields. -/
theorem kernel_operation_agrees {platform : Platform} (request : KernelRequest platform)
    (accepted : request.check = teecSuccess) (unallocated : request.Unallocated) :
    request.encode.1 = teecSuccess ∧
      (∀ index, request.call.paramType index = request.type index) ∧
      (request.decode.ret = 0 ↔ ∀ index, request.Decodable index) ∧
      (request.decode.ret = 0 →
        (∀ index, request.Decoded index) ∧
        (request.writeBack.1 = 0 →
          request.writeBack.2 = (List.finRange 4).flatMap request.returned ∧
          ∀ index, teecTmpmemType (request.type index) .output = true →
            request.env.teeSize index 0 ≤
              referencedSize request.memory request.operation index)) := by
  refine ⟨?_, ?_, ?_, ?_⟩
  · exact (procTeekEncode_spec (KernelRequest.encodable accepted unallocated) request.context).1
  · intro index
    exact (KernelRequest.carried accepted unallocated index).type
  · rw [show request.decode.ret = 0 ↔ _ from allocOperation_ret_iff]
    exact forall_congr' fun index =>
      KernelRequest.step_ret_iff (KernelRequest.carried accepted unallocated index)
        (KernelRequest.encodable accepted unallocated index)
  · intro decoded
    refine ⟨KernelRequest.decoded_of accepted unallocated decoded, ?_⟩
    intro updated
    exact KernelRequest.writeBack_returned accepted unallocated decoded updated

/-- An operation at 0x1000 with a value, bytes 2 to 6 of a registered buffer and a buffer for
eight bytes of output. -/
def sampleMemory : KernelMemory := fun addr =>
  ([(0x1000, 1), (0x1004, 0xd1), (0x1005, 6), (0x1008, 5), (0x1019, 0x20), (0x1020, 4),
    (0x1024, 2), (0x1029, 0x40), (0x1030, 8), (0x2001, 0x30), (0x2008, 16), (0x200c, 1)].lookup
      addr).getD 0

def sampleRequest : KernelRequest flatPlatform :=
  { configIon := false
    memory := sampleMemory
    operation := 0x1000
    context := emptyContext
    dev := userDev
    sess := .opened
    flags := tcCallSync
    env := { calmEnv with teeSize := fun _ _ => 3 } }

theorem sampleRequest_unallocated : sampleRequest.Unallocated := by
  intro index _
  match index with
  | 0 => decide +kernel
  | 1 => decide +kernel
  | 2 => decide +kernel
  | 3 => decide +kernel

theorem kernel_operation_agrees_sample :
    (sampleRequest.check = teecSuccess ∧ sampleRequest.Unallocated ∧
      sampleRequest.decode.ret = 0 ∧ sampleRequest.writeBack.1 = 0) ∧
    (sampleRequest.encode.1 = teecSuccess ∧
      (∀ index, sampleRequest.call.paramType index = sampleRequest.type index) ∧
      (sampleRequest.decode.ret = 0 ↔ ∀ index, sampleRequest.Decodable index) ∧
      (sampleRequest.decode.ret = 0 →
        (∀ index, sampleRequest.Decoded index) ∧
        (sampleRequest.writeBack.1 = 0 →
          sampleRequest.writeBack.2 = (List.finRange 4).flatMap sampleRequest.returned ∧
          ∀ index, teecTmpmemType (sampleRequest.type index) .output = true →
            sampleRequest.env.teeSize index 0 ≤
              referencedSize sampleRequest.memory sampleRequest.operation index))) :=
  ⟨⟨by decide +kernel, sampleRequest_unallocated, by decide +kernel, by decide +kernel⟩,
    kernel_operation_agrees sampleRequest (by decide +kernel) sampleRequest_unallocated⟩

end TzDriver.Client
