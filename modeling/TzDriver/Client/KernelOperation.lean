/-
Operations of kernel clients (`linux/core/teek_client_api.c`): what
`teek_check_operation` accepts.

The type predicates are tried in a fixed order, and `is_val_param` also takes the ION
types.
-/

import Mathlib.Data.List.FinRange
import TzDriver.Client.Operation
import TzDriver.Session.LoginInfo

namespace TzDriver.Client

open TzDriver.Session

def teecErrorBadParameters : UInt32 := 0xFFFF0006
def teecErrorNotImplemented : UInt32 := 0xFFFF0009

def teecMemInput : UInt32 := 1
def teecMemOutput : UInt32 := 2

/-- The fields of `struct teec_sharedmemory` that a call reads. -/
structure TeecSharedmemory where
  buffer : UInt64
  size : UInt32
  flags : UInt32
  isAllocated : Bool
deriving DecidableEq, Repr

/-- `union teec_parameter` by its four words. -/
structure TeecParameter where
  word0 : UInt32
  word1 : UInt32
  word2 : UInt32
  word3 : UInt32
deriving DecidableEq, Repr

namespace TeecParameter

variable (param : TeecParameter)

def pointer : UInt64 := joinAddr param.word0 param.word1

def size : UInt32 := param.word2

def offset : UInt32 := param.word3

/-- `ionref.ion_share_fd`. -/
def ionShareFd : Int32 := ⟨param.word0⟩

end TeecParameter

structure TeecOperation where
  started : UInt32
  paramtypes : UInt32
  params : Fin 4 → TeecParameter

def TeecOperation.paramType (operation : TeecOperation) (index : Fin 4) : ParamType :=
  teecParamTypeGet operation.paramtypes index

/-- `is_ion_param` in a build with or without `CONFIG_ION`. -/
def isIonParam (configIon : Bool) (type : ParamType) : Bool :=
  configIon && (type == .ionInput || type == .ionSglistInput)

def teekCheckTmpMem (tmpref : TeecParameter) : UInt32 :=
  if tmpref.pointer = 0 ∨ tmpref.size = 0 then teecErrorBadParameters else teecSuccess

def isParticalMem (type : ParamType) : Bool :=
  type == .memrefPartialInput || type == .memrefPartialOutput || type == .memrefPartialInout

def isOffsetInvalid (memref : TeecParameter) (parent : TeecSharedmemory) : Bool :=
  decide (memref.offset + memref.size > parent.size) ||
    decide (memref.offset + memref.size < memref.offset) ||
    decide (memref.offset + memref.size < memref.size)

section Check

-- `sharedmemory` is the structure that a parent pointer leads to
variable (sharedmemory : UInt64 → TeecSharedmemory)

/-- Whether the parent's flags let a reference of this type through. -/
def flagsAllow (flags : UInt32) (type : ParamType) : Bool :=
  match type with
  | .memrefPartialInput => flags &&& teecMemInput != 0
  | .memrefPartialOutput => flags &&& teecMemOutput != 0
  | .memrefPartialInout => flags &&& teecMemInput != 0 && flags &&& teecMemOutput != 0
  | .memrefWhole => true
  | _ => false

def teekCheckRefMem (memref : TeecParameter) (type : ParamType) : UInt32 :=
  let parent := sharedmemory memref.pointer
  if memref.pointer = 0 ∨ parent.buffer = 0 then teecErrorBadParameters
  else if flagsAllow parent.flags type = false then teecErrorBadParameters
  else if isParticalMem type = true ∧ isOffsetInvalid memref parent = true then
    teecErrorBadParameters
  else teecSuccess

variable (configIon : Bool) (operation : TeecOperation)

/-- The body of the loop of `teek_check_operation`. -/
def teekCheckParam (index : Fin 4) : UInt32 :=
  let type := operation.paramType index
  let param := operation.params index
  if isTmpMem type then teekCheckTmpMem param
  else if isRefMem type then teekCheckRefMem sharedmemory param type
  else if isValParam type then teecSuccess
  else if isIonParam configIon type then
    if param.ionShareFd < 0 then teecErrorBadParameters else teecSuccess
  else if type = .none then teecSuccess
  else teecErrorBadParameters

def teekCheckLoop : List (Fin 4) → UInt32
  | [] => teecSuccess
  | index :: rest =>
      let ret := teekCheckParam sharedmemory configIon operation index
      if ret ≠ teecSuccess then ret else teekCheckLoop rest

/-- `teek_check_operation`; `none` is a NULL operation. -/
def teekCheckOperation : Option TeecOperation → UInt32
  | none => teecSuccess
  | some operation =>
      if operation.started = 0 then teecErrorNotImplemented
      else teekCheckLoop sharedmemory configIon operation (List.finRange 4)

end Check

/-! ### Well-formed operations -/

section WellFormed

variable (sharedmemory : UInt64 → TeecSharedmemory)

/-- A partial reference stays in its parent and moves as the parent's flags allow. -/
structure PartialOk (memref : TeecParameter) (input output : Bool) : Prop where
  parent : memref.pointer ≠ 0
  buffer : (sharedmemory memref.pointer).buffer ≠ 0
  input : input = true → (sharedmemory memref.pointer).flags &&& teecMemInput ≠ 0
  output : output = true → (sharedmemory memref.pointer).flags &&& teecMemOutput ≠ 0
  inside : memref.offset.toNat + memref.size.toNat ≤ (sharedmemory memref.pointer).size.toNat

/-- What a parameter of each type has to be. -/
def ParamOk (param : TeecParameter) : ParamType → Prop
  | .none => True
  | .valueInput => True
  | .valueOutput => True
  | .valueInout => True
  | .memrefTempInput => param.pointer ≠ 0 ∧ param.size ≠ 0
  | .memrefTempOutput => param.pointer ≠ 0 ∧ param.size ≠ 0
  | .memrefTempInout => param.pointer ≠ 0 ∧ param.size ≠ 0
  | .memrefPartialInput => PartialOk sharedmemory param true false
  | .memrefPartialOutput => PartialOk sharedmemory param false true
  | .memrefPartialInout => PartialOk sharedmemory param true true
  | .memrefWhole => param.pointer ≠ 0 ∧ (sharedmemory param.pointer).buffer ≠ 0
  | .ionInput => 0 ≤ param.ionShareFd
  | .ionSglistInput => 0 ≤ param.ionShareFd
  | .memrefSharedInout => False
  | .undefined _ => False

structure WellFormed (operation : TeecOperation) : Prop where
  started : operation.started ≠ 0
  params : ∀ index, ParamOk sharedmemory (operation.params index) (operation.paramType index)

end WellFormed

def isIon (type : ParamType) : Bool :=
  type == .ionInput || type == .ionSglistInput

/-! ### What one parameter has to pass -/

section Params

variable {sharedmemory : UInt64 → TeecSharedmemory} {configIon : Bool} {operation : TeecOperation}

/-- The wrapping test of the offset is the one without wrap-around. -/
theorem isOffsetInvalid_eq_false (memref : TeecParameter) (parent : TeecSharedmemory) :
    isOffsetInvalid memref parent = false ↔
      memref.offset.toNat + memref.size.toNat ≤ parent.size.toNat := by
  have offset := memref.offset.toNat_lt
  have size := memref.size.toNat_lt
  have limit := parent.size.toNat_lt
  unfold isOffsetInvalid
  simp only [Bool.or_eq_false_iff, decide_eq_false_iff_not, gt_iff_lt, UInt32.lt_iff_toNat_lt,
    UInt32.toNat_add]
  omega

theorem bad_ne_success : teecErrorBadParameters ≠ teecSuccess := by
  decide

theorem teekCheckTmpMem_success (param : TeecParameter) :
    teekCheckTmpMem param = teecSuccess ↔ param.pointer ≠ 0 ∧ param.size ≠ 0 := by
  unfold teekCheckTmpMem
  by_cases bad : param.pointer = 0 ∨ param.size = 0
  · rw [if_pos bad]
    apply iff_of_false bad_ne_success
    intro good
    rcases bad with null | empty
    · exact good.1 null
    · exact good.2 empty
  · rw [if_neg bad]
    exact iff_of_true rfl (not_or.mp bad)

theorem teekCheckRefMem_success (param : TeecParameter) {type : ParamType} {input output : Bool}
    (isPartial : isParticalMem type = true)
    (allowed : ∀ flags, flagsAllow flags type = true ↔
      (input = true → flags &&& teecMemInput ≠ 0) ∧
        (output = true → flags &&& teecMemOutput ≠ 0)) :
    teekCheckRefMem sharedmemory param type = teecSuccess ↔
      PartialOk sharedmemory param input output := by
  unfold teekCheckRefMem
  simp only
  by_cases null : param.pointer = 0 ∨ (sharedmemory param.pointer).buffer = 0
  · rw [if_pos null]
    apply iff_of_false bad_ne_success
    intro good
    rcases null with noParent | noBuffer
    · exact good.parent noParent
    · exact good.buffer noBuffer
  · rw [if_neg null]
    obtain ⟨parent, buffer⟩ := not_or.mp null
    by_cases passes : flagsAllow (sharedmemory param.pointer).flags type = true
    · obtain ⟨inputOk, outputOk⟩ := (allowed _).mp passes
      rw [if_neg (by rw [passes]; decide)]
      cases invalid : isOffsetInvalid param (sharedmemory param.pointer) with
      | true =>
          rw [if_pos ⟨isPartial, rfl⟩]
          apply iff_of_false bad_ne_success
          intro good
          rw [(isOffsetInvalid_eq_false _ _).mpr good.inside] at invalid
          cases invalid
      | false =>
          rw [if_neg (by intro both; cases both.2)]
          exact iff_of_true rfl
            ⟨parent, buffer, inputOk, outputOk, (isOffsetInvalid_eq_false _ _).mp invalid⟩
    · rw [if_pos (Bool.eq_false_iff.mpr passes)]
      apply iff_of_false bad_ne_success
      intro good
      exact passes ((allowed _).mpr ⟨good.input, good.output⟩)

/-- A parameter passes if it is well-formed or ION, and no WHOLE reference does. -/
theorem teekCheckParam_success (index : Fin 4) :
    teekCheckParam sharedmemory configIon operation index = teecSuccess ↔
      operation.paramType index ≠ .memrefWhole ∧
        (ParamOk sharedmemory (operation.params index) (operation.paramType index) ∨
          isIon (operation.paramType index) = true) := by
  unfold teekCheckParam
  simp only
  generalize operation.params index = param
  cases operation.paramType index with
  | none => simp [isTmpMem, isRefMem, isValParam, isIonParam, ParamOk]
  | valueInput => simp [isTmpMem, isRefMem, isValParam, ParamOk]
  | valueOutput => simp [isTmpMem, isRefMem, isValParam, ParamOk]
  | valueInout => simp [isTmpMem, isRefMem, isValParam, ParamOk]
  | memrefTempInput => simpa [isTmpMem, ParamOk, isIon] using teekCheckTmpMem_success param
  | memrefTempOutput => simpa [isTmpMem, ParamOk, isIon] using teekCheckTmpMem_success param
  | memrefTempInout => simpa [isTmpMem, ParamOk, isIon] using teekCheckTmpMem_success param
  | memrefPartialInput =>
      have check := @teekCheckRefMem_success sharedmemory param .memrefPartialInput true false rfl
        (by intro flags; simp [flagsAllow])
      simpa [isTmpMem, isRefMem, ParamOk, isIon] using check
  | memrefPartialOutput =>
      have check := @teekCheckRefMem_success sharedmemory param .memrefPartialOutput false true rfl
        (by intro flags; simp [flagsAllow])
      simpa [isTmpMem, isRefMem, ParamOk, isIon] using check
  | memrefPartialInout =>
      have check := @teekCheckRefMem_success sharedmemory param .memrefPartialInout true true rfl
        (by intro flags; simp [flagsAllow])
      simpa [isTmpMem, isRefMem, ParamOk, isIon] using check
  | ionInput => simp [isTmpMem, isRefMem, isValParam, isIon]
  | ionSglistInput => simp [isTmpMem, isRefMem, isValParam, isIon]
  | memrefWhole => simp [isTmpMem, isRefMem, isValParam, isIonParam, bad_ne_success]
  | memrefSharedInout =>
      simp [isTmpMem, isRefMem, isValParam, isIonParam, bad_ne_success, ParamOk, isIon]
  | undefined nibble =>
      simp [isTmpMem, isRefMem, isValParam, isIonParam, bad_ne_success, ParamOk, isIon]

theorem teekCheckLoop_success (indices : List (Fin 4)) :
    teekCheckLoop sharedmemory configIon operation indices = teecSuccess ↔
      ∀ index ∈ indices, teekCheckParam sharedmemory configIon operation index = teecSuccess := by
  induction indices with
  | nil =>
      apply iff_of_true rfl
      intro index impossible
      cases impossible
  | cons first rest ih =>
      unfold teekCheckLoop
      rw [List.forall_mem_cons, ← ih]
      by_cases passes : teekCheckParam sharedmemory configIon operation first = teecSuccess
      · rw [if_neg (not_not_intro passes)]
        exact (and_iff_right passes).symm
      · rw [if_pos passes]
        exact iff_of_false passes fun both => passes both.1

theorem teekCheckOperation_success :
    teekCheckOperation sharedmemory configIon (some operation) = teecSuccess ↔
      operation.started ≠ 0 ∧
        ∀ index, operation.paramType index ≠ .memrefWhole ∧
          (ParamOk sharedmemory (operation.params index) (operation.paramType index) ∨
            isIon (operation.paramType index) = true) := by
  change (if operation.started = 0 then teecErrorNotImplemented
    else teekCheckLoop sharedmemory configIon operation (List.finRange 4)) = teecSuccess ↔ _
  by_cases stopped : operation.started = 0
  · rw [if_pos stopped]
    exact iff_of_false (by decide) fun both => both.1 stopped
  · rw [if_neg stopped, teekCheckLoop_success, and_iff_right stopped]
    constructor
    · intro passes index
      exact (teekCheckParam_success index).mp (passes index (List.mem_finRange index))
    · intro passes index _
      exact (teekCheckParam_success index).mpr (passes index)

end Params

/-! ### Exactly the well-formed ones -/

section Exact

variable (sharedmemory : UInt64 → TeecSharedmemory) (operation : TeecOperation)

def HasWhole : Prop :=
  ∃ index, operation.paramType index = .memrefWhole

def HasBadIon : Prop :=
  ∃ index, isIon (operation.paramType index) = true ∧ (operation.params index).ionShareFd < 0

/-- Some parameter other than an ION reference is malformed. -/
def HasMalformed : Prop :=
  ∃ index, isIon (operation.paramType index) = false ∧
    ¬ParamOk sharedmemory (operation.params index) (operation.paramType index)

variable {sharedmemory operation}

theorem paramOk_of_isIon {param : TeecParameter} {type : ParamType} (ion : isIon type = true) :
    ParamOk sharedmemory param type ↔ ¬param.ionShareFd < 0 := by
  unfold isIon at ion
  simp only [Bool.or_eq_true, beq_iff_eq] at ion
  rcases ion with rfl | rfl
  · exact Int32.not_lt.symm
  · exact Int32.not_lt.symm

/-- Without other faults, an operation is well-formed if no ION descriptor is negative. -/
theorem wellFormed_of_clean (started : operation.started ≠ 0)
    (clean : ¬HasMalformed sharedmemory operation) :
    WellFormed sharedmemory operation ↔ ¬HasBadIon operation := by
  constructor
  · intro good bad
    obtain ⟨index, ion, negative⟩ := bad
    exact (paramOk_of_isIon ion).mp (good.params index) negative
  · intro noBad
    refine ⟨started, ?_⟩
    intro index
    cases ion : isIon (operation.paramType index) with
    | true =>
        apply (paramOk_of_isIon ion).mpr
        intro negative
        exact noBad ⟨index, ion, negative⟩
    | false =>
        by_contra malformed
        exact clean ⟨index, ion, malformed⟩

theorem accepted_of_clean (configIon : Bool) (started : operation.started ≠ 0)
    (clean : ¬HasMalformed sharedmemory operation) :
    teekCheckOperation sharedmemory configIon (some operation) = teecSuccess ↔
      ¬HasWhole operation := by
  rw [teekCheckOperation_success]
  constructor
  · intro passes whole
    obtain ⟨index, same⟩ := whole
    exact (passes.2 index).1 same
  · intro noWhole
    refine ⟨started, ?_⟩
    intro index
    refine ⟨fun same => noWhole ⟨index, same⟩, ?_⟩
    cases ion : isIon (operation.paramType index) with
    | true => exact Or.inr rfl
    | false =>
        apply Or.inl
        by_contra malformed
        exact clean ⟨index, ion, malformed⟩

/-- `teek_check_operation` gives the right verdict if and only if the operation was not
started, is malformed in some other way, or has WHOLE references and negative ION
descriptors either both or not at all. -/
theorem teekCheckOperation_exact_iff (sharedmemory : UInt64 → TeecSharedmemory)
    (configIon : Bool) (operation : TeecOperation) :
    (teekCheckOperation sharedmemory configIon (some operation) = teecSuccess ↔
        WellFormed sharedmemory operation) ↔
      operation.started = 0 ∨ HasMalformed sharedmemory operation ∨
        (HasWhole operation ↔ HasBadIon operation) := by
  by_cases started : operation.started = 0
  · apply iff_of_true
    · apply iff_of_false
      · intro accepted
        exact (teekCheckOperation_success.mp accepted).1 started
      · intro good
        exact good.started started
    · exact Or.inl started
  · by_cases malformed : HasMalformed sharedmemory operation
    · apply iff_of_true
      · obtain ⟨index, notIon, bad⟩ := malformed
        apply iff_of_false
        · intro accepted
          rcases ((teekCheckOperation_success.mp accepted).2 index).2 with good | ion
          · exact bad good
          · rw [notIon] at ion
            cases ion
        · intro good
          exact bad (good.params index)
      · exact Or.inr (Or.inl malformed)
    · rw [accepted_of_clean configIon started malformed, wellFormed_of_clean started malformed,
        not_iff_not]
      constructor
      · intro same
        exact Or.inr (Or.inr same)
      · intro given
        rcases given with stopped | other | same
        · exact absurd stopped started
        · exact absurd other malformed
        · exact same

end Exact

def singleParam (paramtypes : UInt32) (param : TeecParameter) : TeecOperation :=
  { started := 1
    paramtypes := paramtypes
    params := fun index => if index = 0 then param else ⟨0, 0, 0, 0⟩ }

def registeredBuffer : TeecSharedmemory := ⟨0x2000, 16, 3, false⟩

/-- A WHOLE reference to a registered buffer is refused, and an ION reference with
descriptor -1 is accepted. -/
theorem check_refuses_whole_accepts_bad_ion :
    (WellFormed (fun _ => registeredBuffer) (singleParam 0xc ⟨0x1000, 0, 0, 0⟩) ∧
      teekCheckOperation (fun _ => registeredBuffer) true
        (some (singleParam 0xc ⟨0x1000, 0, 0, 0⟩)) = teecErrorBadParameters) ∧
    (¬WellFormed (fun _ => registeredBuffer) (singleParam 8 ⟨0xFFFFFFFF, 0, 0, 0⟩) ∧
      teekCheckOperation (fun _ => registeredBuffer) true
        (some (singleParam 8 ⟨0xFFFFFFFF, 0, 0, 0⟩)) = teecSuccess) := by
  have whole (index : Fin 4) : ParamOk (fun _ => registeredBuffer)
      ((singleParam 0xc ⟨0x1000, 0, 0, 0⟩).params index)
      ((singleParam 0xc ⟨0x1000, 0, 0, 0⟩).paramType index) := by
    match index with
    | 0 => exact ⟨by decide, by decide⟩
    | 1 => trivial
    | 2 => trivial
    | 3 => trivial
  refine ⟨⟨⟨by decide, whole⟩, by decide⟩, ?_, by decide⟩
  intro good
  exact absurd (good.params 0) (show ¬(0 : Int32) ≤ ⟨0xFFFFFFFF⟩ by decide)

end TzDriver.Client
