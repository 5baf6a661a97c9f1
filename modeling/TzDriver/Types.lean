/-
The records and codes that the client, session and SMC layers share
(`tc_ns_client.h`, `teek_ns_client.h`, `teek_client_constants.h`).
-/

import TzDriver.Platform

namespace TzDriver

/-- The sixteen bytes of a service uuid. -/
def Uuid : Type := BitVec 128
deriving DecidableEq, Repr, Inhabited

/-! ### Return codes -/

def teecSuccess : UInt32 := 0
def teecErrorGeneric : UInt32 := 0xFFFF0000
def teecErrorShortBuffer : UInt32 := 0xFFFF0010
def teecPending : UInt32 := 0xFFFF2000
def teecPending2 : UInt32 := 0xFFFF2001
def teecClientIntr : UInt32 := 0xFFFF4000
def teeErrorIsDead : UInt32 := 0xFFFFABAB

def teecOriginComms : UInt32 := 2

/-! ### Commands -/

def globalCmdIdOpenSession : UInt32 := 2
def globalCmdIdCloseSession : UInt32 := 3
def globalCmdIdKillTask : UInt32 := 0x10
def globalCmdIdSetServeCmd : UInt32 := 0x1b

def teekLoginIdentify : UInt32 := 0x80000001

inductive CmdType where
  | global
  | ta
  | taAgent
  | ta2taAgent
  | buildinAgent
deriving DecidableEq, Repr

/-- `struct tc_ns_smc_cmd`. -/
structure SmcCmd where
  uuid : Uuid
  cmdType : CmdType
  cmdId : UInt32
  devFileId : UInt32
  contextId : UInt32
  agentId : UInt32
  operationPhys : UInt32
  operationHPhys : UInt32
  loginMethod : UInt32
  loginDataPhy : UInt32
  loginDataHAddr : UInt32
  loginDataLen : UInt32
  errOrigin : UInt32
  retVal : UInt32
  eventNr : UInt32
  uid : UInt32
  caPid : UInt32
  pid : UInt32
  eventindex : UInt32
  started : Bool
deriving DecidableEq, Repr

/-- The zeroed command that `kzalloc` and `{ {0}, 0 }` give. -/
def SmcCmd.zeroed : SmcCmd :=
  { uuid := 0#128, cmdType := .global, cmdId := 0, devFileId := 0, contextId := 0, agentId := 0
    operationPhys := 0, operationHPhys := 0, loginMethod := 0, loginDataPhy := 0
    loginDataHAddr := 0, loginDataLen := 0, errOrigin := 0, retVal := 0, eventNr := 0, uid := 0
    caPid := 0, pid := 0, eventindex := 0, started := false }

/-! ### Client contexts -/

inductive ParamType where
  | none
  | valueInput
  | valueOutput
  | valueInout
  | memrefTempInput
  | memrefTempOutput
  | memrefTempInout
  | ionInput
  | ionSglistInput
  | memrefSharedInout
  | memrefWhole
  | memrefPartialInput
  | memrefPartialOutput
  | memrefPartialInout
  | undefined (nibble : UInt32)
deriving DecidableEq, Repr

namespace ParamType

def ofNibble (nibble : UInt32) : ParamType :=
  if nibble = 0 then .none
  else if nibble = 1 then .valueInput
  else if nibble = 2 then .valueOutput
  else if nibble = 3 then .valueInout
  else if nibble = 5 then .memrefTempInput
  else if nibble = 6 then .memrefTempOutput
  else if nibble = 7 then .memrefTempInout
  else if nibble = 8 then .ionInput
  else if nibble = 9 then .ionSglistInput
  else if nibble = 0xa then .memrefSharedInout
  else if nibble = 0xc then .memrefWhole
  else if nibble = 0xd then .memrefPartialInput
  else if nibble = 0xe then .memrefPartialOutput
  else if nibble = 0xf then .memrefPartialInout
  else .undefined nibble

def code : ParamType → UInt32
  | .none => 0
  | .valueInput => 1
  | .valueOutput => 2
  | .valueInout => 3
  | .memrefTempInput => 5
  | .memrefTempOutput => 6
  | .memrefTempInout => 7
  | .ionInput => 8
  | .ionSglistInput => 9
  | .memrefSharedInout => 0xa
  | .memrefWhole => 0xc
  | .memrefPartialInput => 0xd
  | .memrefPartialOutput => 0xe
  | .memrefPartialInout => 0xf
  | .undefined nibble => nibble

end ParamType

/-- The four parameters of a call are named by literals of `Fin 4`. -/
instance paramCount : NeZero 4 := ⟨by decide⟩

def teecParamTypeGet (paramTypes : UInt32) (index : Fin 4) : ParamType :=
  .ofNibble ((paramTypes >>> (UInt32.ofNat index.val <<< 2)) &&& 0x0F)

def teecParamTypes (types : Fin 4 → UInt32) : UInt32 :=
  types 3 <<< 12 ||| types 2 <<< 8 ||| types 1 <<< 4 ||| types 0

theorem ParamType.code_ofNibble (nibble : UInt32) : (ParamType.ofNibble nibble).code = nibble := by
  have branch {condition : Prop} [Decidable condition] {first second : ParamType}
      (yes : condition → first.code = nibble) (no : second.code = nibble) :
      (if condition then first else second).code = nibble := by
    by_cases holds : condition
    · rw [if_pos holds]
      exact yes holds
    · rw [if_neg holds]
      exact no
  unfold ParamType.ofNibble
  iterate 14 refine branch Eq.symm ?_
  rfl

theorem teecParamTypeGet_code (paramTypes : UInt32) (index : Fin 4) :
    ∃ nibble : Fin 16, (teecParamTypeGet paramTypes index).code = UInt32.ofNat nibble.val := by
  rw [teecParamTypeGet, ParamType.code_ofNibble]
  generalize paramTypes >>> (UInt32.ofNat index.val <<< 2) = word
  have bound : (word &&& 0x0F).toNat ≤ 15 := by
    rw [UInt32.toNat_and]
    exact Nat.and_le_right
  exact ⟨⟨(word &&& 0x0F).toNat, by omega⟩, UInt32.ofNat_toNat.symm⟩

/-- `low | ((uint64_t)high << ADDR_TRANS_NUM)`. -/
def joinAddr (low high : UInt32) : UInt64 :=
  low.toUInt64 ||| high.toUInt64 <<< 32

/-- The two words of an address give it back. -/
theorem joinAddr_split (addr : UInt64) : joinAddr addr.toUInt32 (addr >>> 32).toUInt32 = addr := by
  have low : addr.toUInt32.toUInt64.toBitVec = (addr.toBitVec.setWidth 32).setWidth 64 := rfl
  have high : ((addr >>> 32).toUInt32.toUInt64 <<< 32).toBitVec =
      (((addr.toBitVec >>> 32).setWidth 32).setWidth 64) <<< 32 := rfl
  apply UInt64.toBitVec_inj.mp
  rw [joinAddr, UInt64.toBitVec_or, low, high]
  apply BitVec.eq_of_getLsbD_eq
  intro bit inside
  simp only [BitVec.getLsbD_or, BitVec.getLsbD_setWidth, BitVec.getLsbD_shiftLeft,
    BitVec.getLsbD_ushiftRight, inside, decide_true, Bool.true_and]
  by_cases below : bit < 32
  · simp [below]
  · have above : 32 + (bit - 32) = bit := by omega
    have fits : bit - 32 < 64 ∧ bit - 32 < 32 := by omega
    simp [below, above, fits]

/-- `union tc_ns_client_param`, by the words of its `memref` member. -/
structure ClientParam where
  buffer : UInt32
  bufferHAddr : UInt32
  offset : UInt32
  hOffset : UInt32
  sizeAddr : UInt32
  sizeHAddr : UInt32
deriving DecidableEq, Repr

namespace ClientParam

def bufferAddress (param : ClientParam) : UInt64 := joinAddr param.buffer param.bufferHAddr

def sizeAddress (param : ClientParam) : UInt64 := joinAddr param.sizeAddr param.sizeHAddr

/-- `value.a_addr` and `value.a_h_addr` share the words of `buffer` and
`buffer_h_addr`. -/
def aAddress (param : ClientParam) : UInt64 := joinAddr param.buffer param.bufferHAddr

/-- `value.b_addr` and `value.b_h_addr` share the words of `offset` and `h_offset`. -/
def bAddress (param : ClientParam) : UInt64 := joinAddr param.offset param.hOffset

end ClientParam

/-- `struct tc_ns_client_context`; `returns` and `login` are flattened, and the
file pointer is its two words. -/
structure ClientContext where
  uuid : Uuid
  sessionId : UInt32
  cmdId : UInt32
  returnsCode : UInt32
  returnsOrigin : UInt32
  loginMethod : UInt32
  loginMdata : UInt32
  params : Fin 4 → ClientParam
  paramTypes : UInt32
  started : UInt8
  callingPid : UInt32
  fileSize : UInt32
  fileAddr : UInt32
  fileHAddr : UInt32
deriving DecidableEq

/-- The fields of `struct tc_ns_dev_file` that a call reads, with the kernel
addresses of its login fields. -/
structure DevFile where
  devFileId : UInt32
  kernelApi : UInt8
  pkgNameLen : UInt32
  pubKeyLen : UInt32
  pkgNameLenAddr : UInt64
  pkgNameAddr : UInt64
  pubKeyLenAddr : UInt64
  pubKeyAddr : UInt64
deriving DecidableEq, Repr

end TzDriver
