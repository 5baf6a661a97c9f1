/-
When the copy of the results back to the client goes through.
-/

import TzDriver.Client.CopyOut

namespace TzDriver.Client

section Conditions

variable {platform : Platform} (env : CallEnv platform) (mode : Mode) (index : Fin 4)
  (param : ClientParam)

/-- A write of `size` bytes, which `memcpy_s` sees as an area of `destSize`. -/
def Writes (dest : UInt64) (destSize size : Nat) (clean : Bool) : Prop :=
  dest ≠ 0 ∧ size ≤ destSize ∧
    (size = 0 ∨ clean = true ∧ (mode = .kernel → destSize ≤ securecMemMaxLen))

/-- The size word can be written, and what the TEE returns fits the buffer that
was allocated for it and reaches the client. -/
def ReturnsTmp : Prop :=
  param.sizeAddress ≠ 0 ∧ env.sizeWrite index = true ∧
    env.teeSize index 0 ≤ (env.entrySize index).getD 0 ∧
    (env.teeSize index 0 = 0 ∨
      Writes mode param.bufferAddress (env.teeSize index 1).toNat (env.teeSize index 2).toNat
        (env.bufferWrite index))

/-- The size word can be read and written, and what is copied fits the shared
memory behind the offset. -/
def ReturnsRef : Prop :=
  param.sizeAddress ≠ 0 ∧ (env.exitSize index).isSome = true ∧ env.sizeWrite index = true ∧
    ∀ sharedMem, findSharedMem env index param = some sharedMem → sharedMem.memType = .vmalloc →
      env.teeSize index 0 ≤ (env.exitSize index).getD 0 →
        0 < (sharedMem.len - param.offset).toNat ∧
          (sharedMem.len - param.offset).toNat ≤ securecMemMaxLen ∧
          (env.teeSize index 0).toNat ≤ (sharedMem.len - param.offset).toNat ∧
          env.copyOutOverlap index = false

def ReturnsValue : Prop :=
  param.aAddress ≠ 0 ∧ env.valueAWrite index = true ∧ param.bAddress ≠ 0 ∧
    env.valueBWrite index = true

/-- What an output parameter of the given type needs to be copied back. -/
def Returns (type : ParamType) : Prop :=
  if teecTmpmemType type .output then ReturnsTmp env mode index param
  else if teecMemrefType type .output then ReturnsRef env index param
  else if teecValueType type .output then ReturnsValue env index param
  else True

end Conditions

section Parameter

variable {platform : Platform} {env : CallEnv platform} {mode : Mode} {type : ParamType}
  {index : Fin 4} {param : ClientParam} {slot : Slot}

theorem writeToClient_eq_zero (index : Fin 4) (item : Item) {dest src : UInt64} {destSize size : Nat}
    {clean : Bool} (source : src ≠ 0) (writes : Writes mode dest destSize size clean) :
    (writeToClient index item dest destSize src size mode clean).1 = 0 := by
  obtain ⟨target, fits, delivered⟩ := writes
  unfold writeToClient
  rw [if_neg (not_or.mpr ⟨target, source⟩), if_neg (Nat.not_lt.mpr fits)]
  split
  · rfl
  · next some_ =>
      obtain ⟨rfl, short⟩ := delivered.resolve_left some_
      cases mode with
      | user => rfl
      | kernel => exact memcpyS_eq_zero.mpr ⟨by omega, short rfl, fits, rfl⟩

structure TmpAccepted (env : CallEnv platform) (index : Fin 4) (slot : Slot) : Prop where
  size : slot.tempSize = (env.entrySize index).getD 0
  buffer : slot.tempSize ≠ 0 → slot.tempBuffer ≠ 0

theorem allocForTmpMem_accepted
    (accepted : (allocForTmpMem env mode type index param Slot.zeroed).ret = 0) :
    TmpAccepted env index (allocForTmpMem env mode type index param Slot.zeroed).slot := by
  unfold allocForTmpMem at accepted ⊢
  simp only at accepted ⊢
  split at accepted
  · exact absurd accepted (show (-eFault : Int) ≠ 0 by decide)
  next readable =>
    rw [if_neg readable]
    unfold allocTmpBuffer at accepted ⊢
    simp only at accepted ⊢
    split at accepted
    · exact absurd accepted (show (-eFault : Int) ≠ 0 by decide)
    next small =>
      rw [if_neg small]
      split at accepted
      · next none_ =>
          rw [if_pos none_]
          exact ⟨none_.symm, fun some_ => absurd rfl some_⟩
      next some_ =>
        rw [if_neg some_]
        cases given : env.tmpBlock index with
        | none =>
            rw [given] at accepted
            exact absurd accepted (show (-eNoMem : Int) ≠ 0 by decide)
        | some block =>
            rw [given] at accepted
            simp only at accepted ⊢
            split at accepted
            · exact absurd accepted (show (-eFault : Int) ≠ 0 by decide)
            next copied =>
              rw [if_neg copied]
              exact ⟨rfl, fun _ => block.addr_ne_zero⟩

theorem updateTmpMem_eq_zero (accepted : TmpAccepted env index slot)
    (returns : ReturnsTmp env mode index param) :
    (updateTmpMem env mode index param slot true).1 = 0 := by
  obtain ⟨sizeAddress, sizeWrite, fits, copied⟩ := returns
  have sized : (writeWord index .size param.sizeAddress mode (env.sizeWrite index)).1 = 0 :=
    writeWord_eq_zero.mpr ⟨sizeAddress, sizeWrite⟩
  unfold updateTmpMem
  simp only
  rw [if_neg (not_not.mpr sized), if_neg (by rw [accepted.size]; exact UInt32.not_lt.mpr fits)]
  split
  · rfl
  · next some_ =>
      have room : slot.tempSize ≠ 0 := by
        intro none_
        rw [← accepted.size, none_] at fits
        exact some_ (UInt32.le_antisymm fits (UInt32.zero_le))
      have wrote := writeToClient_eq_zero index .buffer (accepted.buffer room)
        (copied.resolve_left some_)
      simp only
      rw [if_neg (not_not.mpr wrote)]

theorem updateForRefMem_eq_zero {sharedMem : SharedMem}
    (accepted : RefAccepted env index param slot sharedMem) (returns : ReturnsRef env index param) :
    (updateForRefMem env mode index param slot).1 = 0 := by
  obtain ⟨sizeAddress, readable, sizeWrite, fits⟩ := returns
  have orig : (readWord index .size param.sizeAddress mode (env.exitSize index)).1 = 0 :=
    readWord_eq_zero.mpr ⟨sizeAddress, readable⟩
  have sized : (writeWord index .size param.sizeAddress mode (env.sizeWrite index)).1 = 0 :=
    writeWord_eq_zero.mpr ⟨sizeAddress, sizeWrite⟩
  unfold updateForRefMem
  simp only
  rw [if_neg (not_not.mpr orig), if_neg (not_not.mpr sized), accepted.stored]
  simp only
  cases kind : sharedMem.memType with
  | reserved => rfl
  | vmalloc =>
      simp only
      unfold copyToSharemem
      split
      · next copies =>
          have room := fits sharedMem accepted.found kind copies.2
          rw [if_neg (not_not.mpr (memcpyS_eq_zero.mpr room))]
      · rfl

theorem updateForValue_eq_zero (returns : ReturnsValue env index param) :
    (updateForValue env mode index param).1 = 0 := by
  obtain ⟨aAddress, aWrite, bAddress, bWrite⟩ := returns
  have wroteA : (writeWord index .valueA param.aAddress mode (env.valueAWrite index)).1 = 0 :=
    writeWord_eq_zero.mpr ⟨aAddress, aWrite⟩
  have wroteB : (writeWord index .valueB param.bAddress mode (env.valueBWrite index)).1 = 0 :=
    writeWord_eq_zero.mpr ⟨bAddress, bWrite⟩
  unfold updateForValue
  simp only
  rw [if_neg (not_not.mpr wroteA), if_neg (not_not.mpr wroteB)]

theorem updateParam_eq_zero {prepareMode : Mode}
    (accepted : (allocParam env prepareMode type index param Slot.zeroed).ret = 0)
    (returns : Returns env mode index param type) :
    (updateParam env mode index param
      (allocParam env prepareMode type index param Slot.zeroed).slot type true).1 = 0 := by
  unfold Returns at returns
  unfold updateParam
  split
  · next tmp =>
      rw [if_pos tmp] at returns
      have kind : teecTmpmemType type .inout = true := by
        cases type <;> first | rfl | cases tmp
      unfold allocParam at accepted ⊢
      rw [if_pos kind] at accepted ⊢
      exact updateTmpMem_eq_zero (allocForTmpMem_accepted accepted) returns
  next notTmp =>
    rw [if_neg notTmp] at returns
    split
    · next ref =>
        rw [if_pos ref] at returns
        have kinds : teecTmpmemType type .inout = false ∧ teecMemrefType type .inout = true := by
          cases type <;> first | exact ⟨rfl, rfl⟩ | cases ref
        unfold allocParam at accepted ⊢
        rw [if_neg (Bool.eq_false_iff.mp kinds.1), if_pos kinds.2] at accepted ⊢
        obtain ⟨sharedMem, kept⟩ := allocForRefMem_accepted accepted
        exact updateForRefMem_eq_zero kept returns
    next notRef =>
      rw [if_neg notRef] at returns
      split
      · next value =>
          rw [Bool.true_and] at value
          rw [if_pos value] at returns
          exact updateForValue_eq_zero returns
      · rfl

end Parameter

section Operation

variable {platform : Platform} {env : CallEnv platform} {params : CallParams}

theorem updateLoop_eq_zero {indices : List (Fin 4)}
    (accepted : (allocOperation env params).ret = 0)
    (returns : ∀ index, Returns env (apiMode params.dev.kernelApi) index
      (params.context.params index) (params.paramType index)) :
    (updateLoop env params (allocOperation env params).slots true indices).1 = 0 := by
  induction indices with
  | nil => rfl
  | cons index rest ih =>
      obtain ⟨prepared, stored⟩ := allocOperation_slot accepted index
      have copied : (updateParam env (apiMode params.dev.kernelApi) index
          (params.context.params index) ((allocOperation env params).slots index)
          (params.paramType index) true).1 = 0 := by
        rw [stored]
        exact updateParam_eq_zero prepared (returns index)
      rw [updateLoop]
      simp only [copied, ne_eq, not_true_eq_false, if_false]
      exact ih

theorem updateClientOperation_eq_zero {slots : Fin 4 → Slot} {opInited : Bool}
    (ready : opInited = true →
      (allocOperation env params).ret = 0 ∧ slots = (allocOperation env params).slots)
    (returns : ∀ index, Returns env (apiMode params.dev.kernelApi) index
      (params.context.params index) (params.paramType index)) :
    (updateClientOperation env params slots opInited true).1 = 0 := by
  unfold updateClientOperation
  split
  · rfl
  next inited =>
    split
    · rfl
    · obtain ⟨accepted, rfl⟩ := ready (by simpa using inited)
      exact updateLoop_eq_zero accepted returns

end Operation

end TzDriver.Client
