/-
The encoding of a kernel client's operation (`proc_teek_encode` in
`linux/core/teek_client_api.c`).

The operation, its parents and the buffers lie in one memory.
-/

import Mathlib.Data.List.FinRange
import TzDriver.Client.KernelOperation

namespace TzDriver.Client

open TzDriver.Session

abbrev KernelMemory := UInt64 → UInt8

def word32 (memory : KernelMemory) (addr : UInt64) : UInt32 :=
  (memory addr).toUInt32 ||| (memory (addr + 1)).toUInt32 <<< 8 |||
    (memory (addr + 2)).toUInt32 <<< 16 ||| (memory (addr + 3)).toUInt32 <<< 24

def bytesAt (memory : KernelMemory) (addr : UInt64) (length : Nat) : List UInt8 :=
  (List.range length).map fun place => memory (addr + UInt64.ofNat place)

def paramAddr (operation : UInt64) (index : Fin 4) : UInt64 :=
  operation + 8 + 16 * UInt64.ofNat index.val

def sizeField (operation : UInt64) (index : Fin 4) : UInt64 :=
  paramAddr operation index + 8

def parameterAt (memory : KernelMemory) (addr : UInt64) : TeecParameter :=
  ⟨word32 memory addr, word32 memory (addr + 4), word32 memory (addr + 8),
    word32 memory (addr + 12)⟩

def operationAt (memory : KernelMemory) (operation : UInt64) : TeecOperation :=
  { started := word32 memory operation
    paramtypes := word32 memory (operation + 4)
    params := fun index => parameterAt memory (paramAddr operation index) }

def sharedmemoryAt (memory : KernelMemory) (parent : UInt64) : TeecSharedmemory :=
  { buffer := joinAddr (word32 memory parent) (word32 memory (parent + 4))
    size := word32 memory (parent + 8)
    flags := word32 memory (parent + 12)
    isAllocated := memory (parent + 20) != 0 }

/-! ### The encoding -/

def setBufferAddr (param : ClientParam) (addr : UInt64) : ClientParam :=
  { param with buffer := addr.toUInt32, bufferHAddr := (addr >>> 32).toUInt32 }

def setSizeAddr (param : ClientParam) (addr : UInt64) : ClientParam :=
  { param with sizeAddr := addr.toUInt32, sizeHAddr := (addr >>> 32).toUInt32 }

def setBAddr (param : ClientParam) (addr : UInt64) : ClientParam :=
  { param with offset := addr.toUInt32, hOffset := (addr >>> 32).toUInt32 }

section Encode

variable (configIon : Bool) (memory : KernelMemory) (operation : UInt64)

/-- `encode_for_part_mem`: the parameter and its type. -/
def encodeForPartMem (index : Fin 4) (type : ParamType) (param : ClientParam) :
    ClientParam × UInt32 :=
  let memref := (operationAt memory operation).params index
  let parent := sharedmemoryAt memory memref.pointer
  let sized :=
    if type = .memrefWhole then
      setSizeAddr { param with offset := 0 } (memref.pointer + 8)
    else setSizeAddr { param with offset := memref.offset } (sizeField operation index)
  let placed :=
    if parent.isAllocated then setBufferAddr sized parent.buffer
    else setBufferAddr { sized with offset := 0 } (parent.buffer + memref.offset.toUInt64)
  let translated :=
    if type = .memrefWhole then
      if parent.flags = teecMemInput then ParamType.memrefPartialInput.code
      else if parent.flags = teecMemOutput then ParamType.memrefPartialOutput.code
      else ParamType.memrefPartialInout.code
    else type.code
  (placed, if parent.isAllocated then translated else translated - (0xd - 5))

/-- The body of the loop of `proc_teek_encode`; `none` is a type that is not correct. -/
def encodeParam (index : Fin 4) (param : ClientParam) : Option (ClientParam × UInt32) :=
  let type := (operationAt memory operation).paramType index
  let addr := paramAddr operation index
  if isTmpMem type then
    some (setSizeAddr (setBufferAddr param ((operationAt memory operation).params index).pointer)
      (sizeField operation index), type.code)
  else if isRefMem type then some (encodeForPartMem memory operation index type param)
  else if isValParam type then some (setBAddr (setBufferAddr param addr) (addr + 4), type.code)
  else if isIonParam configIon type then
    some (setBAddr (setBufferAddr param addr) (addr + 4), type.code)
  else if type = .none then some (param, type.code)
  else none

def encodeLoop : List (Fin 4) → (Fin 4 → ClientParam) → (Fin 4 → UInt32) →
    UInt32 × (Fin 4 → ClientParam) × (Fin 4 → UInt32)
  | [], params, types => (teecSuccess, params, types)
  | index :: rest, params, types =>
      match encodeParam configIon memory operation index (params index) with
      | none => (teecErrorBadParameters, params, types)
      | some (param, type) =>
          encodeLoop rest (Function.update params index param) (Function.update types index type)

def procTeekEncode (context : ClientContext) : UInt32 × ClientContext :=
  let given := fun index => ((operationAt memory operation).paramType index).code
  let loop := encodeLoop configIon memory operation (List.finRange 4) context.params given
  if loop.1 ≠ teecSuccess then (loop.1, { context with params := loop.2.1 })
  else (teecSuccess, { context with params := loop.2.1, paramTypes := teecParamTypes loop.2.2 })

end Encode

/-! ### What the parameters refer to -/

/-- The type that the driver is told for an operation without allocated parents. -/
def sentType : ParamType → ParamType
  | .memrefPartialInput => .memrefTempInput
  | .memrefPartialOutput => .memrefTempOutput
  | .memrefPartialInout => .memrefTempInout
  | type => type

section Referenced

variable (memory : KernelMemory) (operation : UInt64) (index : Fin 4)

def referenced : UInt64 :=
  let param := (operationAt memory operation).params index
  if isRefMem ((operationAt memory operation).paramType index) then
    (sharedmemoryAt memory param.pointer).buffer + param.offset.toUInt64
  else param.pointer

def referencedSize : UInt32 :=
  ((operationAt memory operation).params index).size

end Referenced

/-! ### Types in nibbles -/

theorem getLsbD_of_nibble {value : UInt32} (small : value.toNat < 16) {bit : Nat}
    (high : 4 ≤ bit) : value.toBitVec.getLsbD bit = false := by
  have power : 2 ^ 4 ≤ 2 ^ bit := Nat.pow_le_pow_right (by decide) high
  apply Nat.testBit_lt_two_pow
  exact Nat.lt_of_lt_of_le small power

theorem getLsbD_shifted {types : Fin 4 → UInt32} (small : ∀ index, (types index).toNat < 16)
    (index other : Fin 4) {bit : Nat} (below : bit < 4) :
    ((types other).toBitVec <<< (4 * other.val)).getLsbD (4 * index.val + bit) =
      (decide (other = index) && (types index).toBitVec.getLsbD bit) := by
  have bound := index.isLt
  rw [BitVec.getLsbD_shiftLeft, decide_eq_true (show 4 * index.val + bit < 32 by omega),
    Bool.true_and]
  rcases Nat.lt_trichotomy other.val index.val with less | same | more
  · rw [getLsbD_of_nibble (small other) (by omega), Bool.and_false,
      decide_eq_false (by intro equal; rw [equal] at less; exact Nat.lt_irrefl _ less),
      Bool.false_and]
  · obtain rfl : other = index := Fin.ext same
    rw [decide_eq_false (by omega), decide_eq_true rfl, Nat.add_sub_cancel_left]
    rfl
  · rw [decide_eq_true (show 4 * index.val + bit < 4 * other.val by omega),
      decide_eq_false (by intro equal; rw [equal] at more; exact Nat.lt_irrefl _ more)]
    rfl

theorem teecParamTypes_toBitVec (types : Fin 4 → UInt32) :
    (teecParamTypes types).toBitVec =
      (types 3).toBitVec <<< (4 * (3 : Fin 4).val) ||| (types 2).toBitVec <<< (4 * (2 : Fin 4).val) |||
        (types 1).toBitVec <<< (4 * (1 : Fin 4).val) |||
        (types 0).toBitVec <<< (4 * (0 : Fin 4).val) := by
  have whole : (types 0).toBitVec <<< (4 * (0 : Fin 4).val) = (types 0).toBitVec :=
    BitVec.shiftLeft_zero _
  rw [whole]
  rfl

theorem shiftRight_toBitVec (word : UInt32) (index : Fin 4) :
    (word >>> (UInt32.ofNat index.val <<< 2)).toBitVec = word.toBitVec >>> (4 * index.val) := by
  match index with
  | 0 => rfl
  | 1 => rfl
  | 2 => rfl
  | 3 => rfl

theorem nibble_of_types {types : Fin 4 → UInt32} (small : ∀ index, (types index).toNat < 16)
    (index : Fin 4) :
    (teecParamTypes types >>> (UInt32.ofNat index.val <<< 2)) &&& 0x0F = types index := by
  have mask : (0x0F : UInt32).toBitVec = 15#32 := rfl
  apply UInt32.toBitVec_inj.mp
  apply BitVec.eq_of_getLsbD_eq
  intro bit inside
  rw [UInt32.toBitVec_and, BitVec.getLsbD_and, shiftRight_toBitVec, BitVec.getLsbD_ushiftRight,
    teecParamTypes_toBitVec, mask]
  by_cases below : bit < 4
  · have all : ∀ place < 4, (15#32).getLsbD place = true := by decide
    rw [all bit below, Bool.and_true]
    simp only [BitVec.getLsbD_or, getLsbD_shifted small index _ below]
    match index with
    | 0 => simp
    | 1 => simp
    | 2 => simp
    | 3 => simp
  · have nibble : (15 : UInt32).toNat < 16 := by decide
    rw [getLsbD_of_nibble (small index) (by omega), ← mask, getLsbD_of_nibble nibble (by omega),
      Bool.and_false]

theorem ofNibble_code {type : ParamType} (defined : ∀ nibble, type ≠ .undefined nibble) :
    ParamType.ofNibble type.code = type := by
  cases type with
  | undefined nibble => exact absurd rfl (defined nibble)
  | _ => decide

theorem code_lt {type : ParamType} (defined : ∀ nibble, type ≠ .undefined nibble) :
    type.code.toNat < 16 := by
  cases type with
  | undefined nibble => exact absurd rfl (defined nibble)
  | _ => decide

theorem teecParamTypeGet_types {types : Fin 4 → ParamType}
    (defined : ∀ index nibble, types index ≠ .undefined nibble) (index : Fin 4) :
    teecParamTypeGet (teecParamTypes fun place => (types place).code) index = types index := by
  have nibble := @nibble_of_types (fun place => (types place).code)
    (fun place => code_lt (defined place)) index
  unfold teecParamTypeGet
  rw [nibble]
  exact ofNibble_code (defined index)

/-! ### What the encoding leaves -/

section Encoded

variable {configIon : Bool} {memory : KernelMemory} {operation : UInt64}

/-- The check accepted the parameter, and a partial reference has an unallocated parent. -/
structure Encodable (memory : KernelMemory) (operation : UInt64) (index : Fin 4) : Prop where
  notWhole : (operationAt memory operation).paramType index ≠ .memrefWhole
  known : ParamOk (sharedmemoryAt memory) ((operationAt memory operation).params index)
    ((operationAt memory operation).paramType index) ∨
      isIon ((operationAt memory operation).paramType index) = true
  unallocated : isRefMem ((operationAt memory operation).paramType index) = true →
    (sharedmemoryAt memory ((operationAt memory operation).params index).pointer).isAllocated = false

structure EncodedParam (memory : KernelMemory) (operation : UInt64) (index : Fin 4)
    (param : ClientParam) : Prop where
  buffer : isTmpMem (sentType ((operationAt memory operation).paramType index)) = true →
    param.bufferAddress = referenced memory operation index
  size : isTmpMem (sentType ((operationAt memory operation).paramType index)) = true →
    param.sizeAddress = sizeField operation index
  valueA : isValParam ((operationAt memory operation).paramType index) = true →
    param.aAddress = paramAddr operation index
  valueB : isValParam ((operationAt memory operation).paramType index) = true →
    param.bAddress = paramAddr operation index + 4

theorem bufferAddress_set (param : ClientParam) (addr : UInt64) :
    (setBufferAddr param addr).bufferAddress = addr :=
  joinAddr_split addr

theorem sizeAddress_set (param : ClientParam) (addr : UInt64) :
    (setSizeAddr param addr).sizeAddress = addr :=
  joinAddr_split addr

theorem bAddress_set (param : ClientParam) (addr : UInt64) :
    (setBAddr param addr).bAddress = addr :=
  joinAddr_split addr

theorem encodeForPartMem_unallocated {index : Fin 4} {type : ParamType} (param : ClientParam)
    (notWhole : type ≠ .memrefWhole)
    (unallocated : (sharedmemoryAt memory
      ((operationAt memory operation).params index).pointer).isAllocated = false) :
    (encodeForPartMem memory operation index type param).2 = type.code - 8 ∧
      (encodeForPartMem memory operation index type param).1.bufferAddress =
        (sharedmemoryAt memory ((operationAt memory operation).params index).pointer).buffer +
          ((operationAt memory operation).params index).offset.toUInt64 ∧
      (encodeForPartMem memory operation index type param).1.sizeAddress =
        sizeField operation index := by
  unfold encodeForPartMem
  simp only [unallocated, if_neg notWhole]
  refine ⟨rfl, bufferAddress_set _ _, ?_⟩
  exact joinAddr_split _

theorem sentType_of_isRefMem {type : ParamType} (ref : isRefMem type = true) :
    (sentType type).code = type.code - 8 ∧ isValParam type = false := by
  cases type with
  | memrefPartialInput => decide
  | memrefPartialOutput => decide
  | memrefPartialInout => decide
  | _ => cases ref

theorem sentType_of_not_isRefMem {type : ParamType} (notRef : isRefMem type = false) :
    sentType type = type := by
  cases type with
  | memrefPartialInput => cases notRef
  | memrefPartialOutput => cases notRef
  | memrefPartialInout => cases notRef
  | _ => rfl

theorem isValParam_of_isTmpMem {type : ParamType} (tmp : isTmpMem type = true) :
    isValParam type = false ∧ isRefMem type = false := by
  cases type with
  | memrefTempInput => decide
  | memrefTempOutput => decide
  | memrefTempInout => decide
  | _ => cases tmp

theorem isTmpMem_of_isValParam {type : ParamType} (value : isValParam type = true) :
    isTmpMem type = false ∧ isRefMem type = false := by
  cases type with
  | valueInput => decide
  | valueOutput => decide
  | valueInout => decide
  | ionInput => decide
  | ionSglistInput => decide
  | _ => cases value

theorem Encodable.none {index : Fin 4} (encodable : Encodable memory operation index)
    (notTmp : isTmpMem ((operationAt memory operation).paramType index) = false)
    (notRef : isRefMem ((operationAt memory operation).paramType index) = false)
    (notValue : isValParam ((operationAt memory operation).paramType index) = false) :
    (operationAt memory operation).paramType index = .none := by
  have notWhole := encodable.notWhole
  have known := encodable.known
  revert notTmp notRef notValue notWhole known
  cases (operationAt memory operation).paramType index with
  | none => simp
  | memrefWhole => simp
  | memrefSharedInout => simp [ParamOk, isIon]
  | undefined nibble => simp [ParamOk, isIon]
  | _ => simp [isTmpMem, isRefMem, isValParam]

section Encoded

variable {index : Fin 4} {param : ClientParam}

theorem EncodedParam.referring
    (notValue : isValParam ((operationAt memory operation).paramType index) = false)
    (buffer : param.bufferAddress = referenced memory operation index)
    (size : param.sizeAddress = sizeField operation index) :
    EncodedParam memory operation index param := by
  constructor
  · intro _
    exact buffer
  · intro _
    exact size
  · intro value
    rw [notValue] at value
    cases value
  · intro value
    rw [notValue] at value
    cases value

theorem EncodedParam.plain
    (notTmp : isTmpMem (sentType ((operationAt memory operation).paramType index)) = false)
    (addresses : isValParam ((operationAt memory operation).paramType index) = true →
      param.aAddress = paramAddr operation index ∧
        param.bAddress = paramAddr operation index + 4) :
    EncodedParam memory operation index param := by
  constructor
  · intro tmp
    rw [notTmp] at tmp
    cases tmp
  · intro tmp
    rw [notTmp] at tmp
    cases tmp
  · intro value
    exact (addresses value).1
  · intro value
    exact (addresses value).2

theorem encodeParam_spec (encodable : Encodable memory operation index) (given : ClientParam) :
    ∃ param, encodeParam configIon memory operation index given =
        some (param, (sentType ((operationAt memory operation).paramType index)).code) ∧
      EncodedParam memory operation index param := by
  unfold encodeParam
  simp only
  cases tmp : isTmpMem ((operationAt memory operation).paramType index) with
  | true =>
      obtain ⟨notValue, notRef⟩ := isValParam_of_isTmpMem tmp
      rw [if_pos rfl, sentType_of_not_isRefMem notRef]
      refine ⟨_, rfl, EncodedParam.referring notValue ?_ (sizeAddress_set _ _)⟩
      unfold referenced
      rw [notRef]
      exact joinAddr_split _
  | false =>
      rw [if_neg (by decide)]
      cases ref : isRefMem ((operationAt memory operation).paramType index) with
      | true =>
          obtain ⟨code, notValue⟩ := sentType_of_isRefMem ref
          obtain ⟨type, buffer, size⟩ := encodeForPartMem_unallocated given encodable.notWhole
            (encodable.unallocated ref)
          rw [if_pos rfl, code, ← type]
          refine ⟨_, rfl, EncodedParam.referring notValue ?_ size⟩
          unfold referenced
          rw [ref]
          exact buffer
      | false =>
          have notTmp : isTmpMem (sentType ((operationAt memory operation).paramType index)) =
              false := by
            rw [sentType_of_not_isRefMem ref, tmp]
          rw [if_neg (by decide)]
          cases value : isValParam ((operationAt memory operation).paramType index) with
          | true =>
              rw [if_pos rfl, sentType_of_not_isRefMem ref]
              refine ⟨_, rfl, EncodedParam.plain notTmp ?_⟩
              intro _
              exact ⟨joinAddr_split _, bAddress_set _ _⟩
          | false =>
              have none := encodable.none tmp ref value
              refine ⟨given, ?_, EncodedParam.plain notTmp ?_⟩
              · rw [none]
                simp [isIonParam, sentType]
              · intro impossible
                rw [value] at impossible
                cases impossible

end Encoded

theorem encodeLoop_spec {indices : List (Fin 4)} (distinct : indices.Nodup)
    (encodable : ∀ index ∈ indices, Encodable memory operation index) :
    ∀ params types, ∃ after sent,
      encodeLoop configIon memory operation indices params types = (teecSuccess, after, sent) ∧
        (∀ index ∈ indices, EncodedParam memory operation index (after index) ∧
          sent index = (sentType ((operationAt memory operation).paramType index)).code) ∧
        ∀ index, index ∉ indices → after index = params index ∧ sent index = types index := by
  induction indices with
  | nil =>
      intro params types
      refine ⟨params, types, rfl, ?_, fun _ _ => ⟨rfl, rfl⟩⟩
      intro index impossible
      cases impossible
  | cons first rest ih =>
      intro params types
      obtain ⟨fresh, distinctRest⟩ := List.nodup_cons.mp distinct
      obtain ⟨param, encodes, good⟩ := @encodeParam_spec configIon memory operation first
        (encodable first List.mem_cons_self) (params first)
      obtain ⟨after, sent, runs, inside, outside⟩ := ih distinctRest
        (fun index member => encodable index (List.mem_cons_of_mem _ member))
        (Function.update params first param) (Function.update types first _)
      refine ⟨after, sent, ?_, ?_, ?_⟩
      · unfold encodeLoop
        rw [encodes]
        exact runs
      · intro index member
        rcases List.mem_cons.mp member with rfl | later
        · obtain ⟨sameParam, sameType⟩ := outside index fresh
          rw [sameParam, sameType, Function.update_self, Function.update_self]
          exact ⟨good, rfl⟩
        · exact inside index later
      · intro index away
        have notFirst : index ≠ first := fun same => away (same ▸ List.mem_cons_self)
        obtain ⟨sameParam, sameType⟩ := outside index fun later =>
          away (List.mem_cons_of_mem _ later)
        rw [sameParam, sameType, Function.update_of_ne notFirst, Function.update_of_ne notFirst]
        exact ⟨rfl, rfl⟩

theorem Encodable.defined {index : Fin 4} (encodable : Encodable memory operation index)
    (nibble : UInt32) :
    sentType ((operationAt memory operation).paramType index) ≠ .undefined nibble := by
  have known := encodable.known
  revert known
  cases (operationAt memory operation).paramType index with
  | undefined other => simp [ParamOk, isIon]
  | _ => simp [sentType]

/-- Every parameter of an accepted operation is encoded. -/
theorem procTeekEncode_spec (encodable : ∀ index, Encodable memory operation index)
    (context : ClientContext) :
    (procTeekEncode configIon memory operation context).1 = teecSuccess ∧
      ∀ index,
        EncodedParam memory operation index
          ((procTeekEncode configIon memory operation context).2.params index) ∧
        teecParamTypeGet (procTeekEncode configIon memory operation context).2.paramTypes index =
          sentType ((operationAt memory operation).paramType index) := by
  obtain ⟨after, sent, runs, inside, -⟩ := @encodeLoop_spec configIon memory operation
    (List.finRange 4) (List.nodup_finRange 4) (fun index _ => encodable index) context.params
    (fun index => ((operationAt memory operation).paramType index).code)
  have types : sent = fun index => (sentType ((operationAt memory operation).paramType index)).code := by
    funext index
    exact (inside index (List.mem_finRange index)).2
  have encoded : procTeekEncode configIon memory operation context =
      (teecSuccess, { context with params := after, paramTypes := teecParamTypes sent }) := by
    unfold procTeekEncode
    simp only [runs]
    exact if_neg (not_not_intro rfl)
  rw [encoded, types]
  refine ⟨rfl, ?_⟩
  intro index
  refine ⟨(inside index (List.mem_finRange index)).1, ?_⟩
  exact teecParamTypeGet_types (fun place => (encodable place).defined) index

end Encoded

end TzDriver.Client
