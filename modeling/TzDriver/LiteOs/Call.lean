/-
`tc_client_call` of the LiteOS driver (`liteos/core/gp_ops.c`), by its result, by the
command it sends and by what it leaves in the client's context.

An address is one word here, and the high words of a parameter are not read.  What is
the same in both drivers is taken from the Linux model, at a parameter whose high words
are zero.
-/

import TzDriver.Client.Call

namespace TzDriver.LiteOs

open TzDriver.Client

/-- A parameter as the driver reads it. -/
def lowWords (param : ClientParam) : ClientParam :=
  { param with bufferHAddr := 0, hOffset := 0, sizeHAddr := 0 }

/-- What one call meets outside the driver, up to the final answer of the TEE. -/
structure SettledEnv (platform : Platform) extends CallEnv platform where
  settled : (handleTaPending .opened reply laterReplies).isSome = true

def SettledEnv.final {platform : Platform} (env : SettledEnv platform) : SmcReply :=
  ((handleTaPending .opened env.reply env.laterReplies).get env.settled).1

/-! ### Preparing the parameters -/

/-- The buffer of a parameter; `buffer_h_addr` is always zero. -/
def setBuffer (platform : Platform) (slot : Slot) (virt : UInt64) : Slot :=
  { slot with
    param := ⟨(platform.mailboxVirtToPhys virt).toUInt32, slot.param.size⟩
    bufferHAddr := 0 }

section Prepare

variable {platform : Platform} (env : CallEnv platform) (mode : Mode) (type : ParamType)
  (index : Fin 4) (clientParam : ClientParam)

/-- `alloc_for_tmp_mem` after the size word was read; `mailbox_alloc` refuses a size
of zero. -/
def allocTmpBuffer (bufferSize : UInt32) (slot : Slot) : Int × Slot :=
  if bufferSize > maxSharedSize then (-eFault, slot)
  else if bufferSize = 0 then (-eNoMem, slot)
  else
    match env.tmpBlock index with
    | none => (-eNoMem, slot)
    | some block =>
        let owned : Slot := { slot with tempBuffer := block.addr, tempSize := bufferSize }
        if (updateInputData env mode type index clientParam bufferSize).1 ≠ 0 then (-eFault, owned)
        else
          let placed := setBuffer platform owned block.addr
          (0,
            { placed with
              param := ⟨placed.param.buffer, bufferSize⟩
              transParamtype := type.code })

def allocForTmpMem (slot : Slot) : Int × Slot :=
  if (readWord index .size clientParam.sizeAddress mode (env.entrySize index)).1 ≠ 0 then
    (-eFault, slot)
  else allocTmpBuffer env mode type index clientParam ((env.entrySize index).getD 0) slot

/-- The loop over `shared_mem_list`; every entry is copied to the mailbox. -/
def refSharedMem (bufferSize : UInt32) (slot : Slot) : Int × Slot :=
  match findSharedMem env index clientParam with
  | none => (0, slot)
  | some sharedMem =>
      if isRefmemOffsetValid clientParam sharedMem bufferSize = false then (0, slot)
      else
        match (mailboxCopyAlloc (sharedMem.kernelAddr + clientParam.offset.toUInt64)
            bufferSize.toNat (env.refBlock index) (env.refOverlap index)).1 with
        | none => (-eNoMem, slot)
        | some block =>
            (0,
              { setBuffer platform slot block.addr with
                mbBuffer := block.addr, sharemem := some sharedMem })

def allocForRefMem (slot : Slot) : Int × Slot :=
  let bufferSize := (env.entrySize index).getD 0
  if (readWord index .size clientParam.sizeAddress mode (env.entrySize index)).1 ≠ 0 ∨
      bufferSize = 0 then (-eInval, slot)
  else
    let found := refSharedMem env index clientParam bufferSize
      { slot with param := ⟨0, slot.param.size⟩ }
    if found.1 ≠ 0 then found
    else if isPhyaddrValid found.2 = false then (-eInval, found.2)
    else
      (0,
        { found.2 with
          param := ⟨found.2.param.buffer, bufferSize⟩
          transParamtype := type.code - (0xd - 5) })

/-- The dispatch of `alloc_operation` on one parameter type; ION is not supported. -/
def allocParam (slot : Slot) : Int × Slot :=
  if teecTmpmemType type .inout then allocForTmpMem env mode type index clientParam slot
  else if teecMemrefType type .inout then allocForRefMem env mode type index clientParam slot
  else if teecValueType type .inout then
    let moved := transferClientValue env mode type index clientParam slot
    (moved.ret, moved.slot)
  else if type = .ionInput ∨ type = .ionSglistInput then (-1, slot)
  else (0, slot)

end Prepare

/-! ### Copying the parameters back -/

section Update

variable {platform : Platform} (env : CallEnv platform) (mode : Mode) (index : Fin 4)
  (clientParam : ClientParam) (slot : Slot)

/-- `update_tmp_mem`; a size of zero goes to `write_to_client` like any other. -/
def updateTmpMem (isComplete : Bool) : Int :=
  if (writeWord index .size clientParam.sizeAddress mode (env.sizeWrite index)).1 ≠ 0 then -eFault
  else if env.teeSize index 0 > slot.tempSize then if isComplete then -eFault else 0
  else if (writeToClient index .buffer clientParam.bufferAddress (env.teeSize index 1).toNat
      slot.tempBuffer (env.teeSize index 2).toNat mode (env.bufferWrite index)).1 ≠ 0 then -eNoMem
  else 0

/-- `update_for_ref_mem`; `mb_buffer` and `sharemem` are set together. -/
def updateForRefMem : Int :=
  if (readWord index .size clientParam.sizeAddress mode (env.exitSize index)).1 ≠ 0 then -eFault
  else if (writeWord index .size clientParam.sizeAddress mode (env.sizeWrite index)).1 ≠ 0 then
    -eFault
  else
    match slot.sharemem with
    | none => 0
    | some sharedMem =>
        (copyToSharemem env index clientParam slot sharedMem (env.teeSize index 0)
          ((env.exitSize index).getD 0)).1

def updateParam (type : ParamType) (isComplete : Bool) : Int :=
  if teecTmpmemType type .output then updateTmpMem env mode index clientParam slot isComplete
  else if teecMemrefType type .output then updateForRefMem env mode index clientParam slot
  else if isComplete && teecValueType type .output then
    (updateForValue env mode index clientParam).1
  else 0

end Update

/-! ### The call -/

/-- A command with the final answer to it; `written` tells that all outputs have been
written to the client. -/
structure Exchange where
  cmd : SmcCmd
  final : SmcReply
  written : Bool

/-- How a call returns; `sent` is what it exchanged with the TEE, if it came to the SMC
at all. -/
structure CallResult where
  ret : Int
  context : ClientContext
  sent : Option Exchange

section Call

variable {platform : Platform} (env : SettledEnv platform) (params : CallParams)

def allocLoop : List (Fin 4) → (Fin 4 → Slot) → Int × (Fin 4 → Slot)
  | [], slots => (0, slots)
  | index :: rest, slots =>
      let step := allocParam env.toCallEnv (params.kernelParams index) (params.paramType index)
        index (lowWords (params.context.params index)) (slots index)
      let stored := Function.update slots index step.2
      if step.1 ≠ 0 then (step.1, stored) else allocLoop rest stored

/-- `alloc_operation`, which `tc_client_call` leaves out for a context without types. -/
def allocOperation : Int × (Fin 4 → Slot) :=
  if params.context.paramTypes = 0 then (0, fun _ => .zeroed)
  else allocLoop env params (List.finRange 4) fun _ => .zeroed

def updateLoop (slots : Fin 4 → Slot) (isComplete : Bool) : List (Fin 4) → Int
  | [] => 0
  | index :: rest =>
      let ret := updateParam env.toCallEnv (apiMode params.dev.kernelApi) index
        (lowWords (params.context.params index)) (slots index) (params.paramType index) isComplete
      if ret ≠ 0 then ret else updateLoop slots isComplete rest

def updateClientOperation (slots : Fin 4 → Slot) (isComplete : Bool) : Int :=
  if params.context.paramTypes = 0 then 0
  else updateLoop env params slots isComplete (List.finRange 4)

def initSmcCmd (mbPack : UInt64) : SmcCmd :=
  let context := params.context
  { SmcCmd.zeroed with
    uid := env.uid
    cmdType := if params.isGlobal then .global else .ta
    uuid := context.uuid
    cmdId := context.cmdId
    devFileId := params.dev.devFileId
    contextId := context.sessionId
    errOrigin := context.returnsOrigin
    started := context.started != 0
    caPid := env.caPid
    pid := env.pid
    operationPhys :=
      if context.paramTypes = 0 then 0 else (platform.mailboxVirtToPhys mbPack).toUInt32
    loginMethod := context.loginMethod }

/-- `check_login_for_encrypt`; `currentMm` tells that the task is no kernel thread. -/
def checkLoginForEncrypt (mbPack : UInt64) (cmd : SmcCmd) : Int × SmcCmd :=
  if needCheckLogin env.toCallEnv params cmd && params.sess != .null then
    if memcpyS loginDataLen.toNat loginDataLen.toNat env.loginOverlap ≠ 0 then (-eFault, cmd)
    else
      (0,
        { cmd with
          loginDataPhy := (platform.mailboxVirtToPhys (mbPack + loginDataOffset)).toUInt32
          loginDataLen := loginDataLen })
  else (0, cmd)

def configSmcCmdContext (mbPack : UInt64) : Int × SmcCmd :=
  if memcpyS 16 16 env.uuidOverlap ≠ 0 then (-eFault, { SmcCmd.zeroed with uid := env.uid })
  else checkLoginForEncrypt env params mbPack (initSmcCmd env params mbPack)

/-- `post_proc_smc_return`, with `err_origin` after it. -/
def postProcSmcReturn (slots : Fin 4 → Slot) (reply : SmcReply) : Int × UInt32 :=
  if reply.ret ≠ 0 then
    (if reply.ret = teecClientIntr then -eRestartSys else eFault,
      if reply.ret = teecErrorShortBuffer ∧ updateClientOperation env params slots false ≠ 0 then
        teecOriginComms
      else reply.cmd.errOrigin)
  else
    let ret := updateClientOperation env params slots true
    (ret, if ret ≠ 0 then teecOriginComms else reply.cmd.errOrigin)

/-- `release_tc_call_resource`, by what it writes to the context. -/
def releaseContext (context : ClientContext) (teeRet errOrigin : UInt32) : ClientContext :=
  { context with returnsCode := teeRet, returnsOrigin := errOrigin }

def tcClientCall : CallResult :=
  match env.smcCmdAlloc, env.cmdPack with
  | false, _ | true, none => ⟨-eNoMem, params.context, none⟩
  | true, some pack =>
      let operation := allocOperation env params
      if operation.1 ≠ 0 then ⟨operation.1, releaseContext params.context 0 0, none⟩
      else
        let config := configSmcCmdContext env params pack.addr
        if config.1 ≠ 0 then
          ⟨config.1, releaseContext params.context 0 config.2.errOrigin, none⟩
        else
          let post := postProcSmcReturn env params operation.2 env.final
          let context := { params.context with sessionId := resetSessionId params env.reply }
          let written := env.final.ret == 0 && updateClientOperation env params operation.2 true == 0
          ⟨post.1, releaseContext context env.final.ret post.2,
            some ⟨config.2, env.final, written⟩⟩

end Call

/-! ### Results -/

/-- Success, or an error number that the driver chose itself. -/
def OwnResult (ret : Int) : Prop :=
  -eInval ≤ ret ∧ ret ≤ 0

theorem ownResult_zero : OwnResult 0 := ⟨by decide, by decide⟩

theorem ownResult_eFault : OwnResult (-eFault) := ⟨by decide, by decide⟩

theorem ownResult_eNoMem : OwnResult (-eNoMem) := ⟨by decide, by decide⟩

theorem ownResult_eInval : OwnResult (-eInval) := ⟨by decide, by decide⟩

theorem OwnResult.ne_restart {ret : Int} (own : OwnResult ret) : ret ≠ -eRestartSys := by
  intro restart
  have low := own.1
  rw [restart] at low
  exact absurd low (by decide)

section Results

variable {platform : Platform} (env : CallEnv platform) (mode : Mode) (type : ParamType)
  (index : Fin 4) (clientParam : ClientParam) (slot : Slot)

theorem allocForTmpMem_own : OwnResult (allocForTmpMem env mode type index clientParam slot).1 := by
  unfold allocForTmpMem
  split
  · exact ownResult_eFault
  unfold allocTmpBuffer
  split
  · exact ownResult_eFault
  split
  · exact ownResult_eNoMem
  split
  · exact ownResult_eNoMem
  dsimp only
  split
  · exact ownResult_eFault
  · exact ownResult_zero

theorem refSharedMem_own (bufferSize : UInt32) :
    OwnResult (refSharedMem env index clientParam bufferSize slot).1 := by
  unfold refSharedMem
  split
  · exact ownResult_zero
  split
  · exact ownResult_zero
  split
  · exact ownResult_eNoMem
  · exact ownResult_zero

theorem allocForRefMem_own : OwnResult (allocForRefMem env mode type index clientParam slot).1 := by
  unfold allocForRefMem
  dsimp only
  split
  · exact ownResult_eInval
  split
  · exact refSharedMem_own env index clientParam _ _
  split
  · exact ownResult_eInval
  · exact ownResult_zero

theorem transferClientValue_own :
    OwnResult (transferClientValue env mode type index clientParam slot).ret := by
  unfold transferClientValue
  dsimp only
  split
  · exact ownResult_eFault
  split
  · exact ownResult_eFault
  · exact ownResult_zero

theorem allocParam_own : OwnResult (allocParam env mode type index clientParam slot).1 := by
  unfold allocParam
  split
  · exact allocForTmpMem_own env mode type index clientParam slot
  split
  · exact allocForRefMem_own env mode type index clientParam slot
  split
  · exact transferClientValue_own env mode type index clientParam slot
  split
  · exact (show OwnResult (-1) from ⟨by decide, by decide⟩)
  · exact ownResult_zero

theorem updateTmpMem_own (isComplete : Bool) :
    OwnResult (updateTmpMem env mode index clientParam slot isComplete) := by
  unfold updateTmpMem
  split
  · exact ownResult_eFault
  split
  · split
    · exact ownResult_eFault
    · exact ownResult_zero
  split
  · exact ownResult_eNoMem
  · exact ownResult_zero

theorem updateForRefMem_own : OwnResult (updateForRefMem env mode index clientParam slot) := by
  unfold updateForRefMem
  split
  · exact ownResult_eFault
  split
  · exact ownResult_eFault
  split
  · exact ownResult_zero
  unfold copyToSharemem
  split
  · split
    · exact ownResult_eFault
    · exact ownResult_zero
  · exact ownResult_zero

theorem updateForValue_own : OwnResult (updateForValue env mode index clientParam).1 := by
  unfold updateForValue
  dsimp only
  split
  · exact ownResult_eFault
  dsimp only
  split
  · exact ownResult_eFault
  · exact ownResult_zero

theorem updateParam_own (isComplete : Bool) :
    OwnResult (updateParam env mode index clientParam slot type isComplete) := by
  unfold updateParam
  split
  · exact updateTmpMem_own env mode index clientParam slot isComplete
  split
  · exact updateForRefMem_own env mode index clientParam slot
  split
  · exact updateForValue_own env mode index clientParam
  · exact ownResult_zero

end Results

section Call

variable {platform : Platform} (env : SettledEnv platform) (params : CallParams)

theorem allocLoop_own (indices : List (Fin 4)) (slots : Fin 4 → Slot) :
    OwnResult (allocLoop env params indices slots).1 := by
  induction indices generalizing slots with
  | nil => exact ownResult_zero
  | cons index rest ih =>
      unfold allocLoop
      dsimp only
      split
      · exact allocParam_own _ _ _ _ _ _
      · exact ih _

theorem allocOperation_own : OwnResult (allocOperation env params).1 := by
  unfold allocOperation
  split
  · exact ownResult_zero
  · exact allocLoop_own env params _ _

theorem updateLoop_own (slots : Fin 4 → Slot) (isComplete : Bool) (indices : List (Fin 4)) :
    OwnResult (updateLoop env params slots isComplete indices) := by
  induction indices with
  | nil => exact ownResult_zero
  | cons index rest ih =>
      unfold updateLoop
      dsimp only
      split
      · exact updateParam_own _ _ _ _ _ _ _
      · exact ih

theorem updateClientOperation_own (slots : Fin 4 → Slot) (isComplete : Bool) :
    OwnResult (updateClientOperation env params slots isComplete) := by
  unfold updateClientOperation
  split
  · exact ownResult_zero
  · exact updateLoop_own env params slots isComplete _

theorem configSmcCmdContext_own (mbPack : UInt64) :
    OwnResult (configSmcCmdContext env params mbPack).1 := by
  unfold configSmcCmdContext
  split
  · exact ownResult_eFault
  unfold checkLoginForEncrypt
  split
  · split
    · exact ownResult_eFault
    · exact ownResult_zero
  · exact ownResult_zero

/-- The command of a call goes to the TEE: everything it needs could be allocated and
its parameters read. -/
def CallSent : Prop :=
  env.smcCmdAlloc = true ∧
    ∃ pack, env.cmdPack = some pack ∧ (allocOperation env params).1 = 0 ∧
      (configSmcCmdContext env params pack.addr).1 = 0

/-- How a call returns: with an error of its own before the SMC, or with what the final
answer and the outputs give. -/
inductive CallReturn (result : CallResult) : Prop
  | unsent (unsent : ¬CallSent env params) (own : OwnResult result.ret) (failed : result.ret ≠ 0)
      (nothing : result.sent = none)
  | answered (sent : CallSent env params) (exchange : Exchange)
      (made : result.sent = some exchange) (final : exchange.final = env.final)
      (succeeded : result.ret = 0 ↔ env.final.ret = teecSuccess ∧ exchange.written = true)
      (restarts : result.ret = -eRestartSys ↔ env.final.ret = teecClientIntr)
      (noOutputs : params.context.paramTypes = 0 → env.final.ret = teecSuccess →
        exchange.written = true)

variable {env params}

theorem postProcSmcReturn_ret {slots : Fin 4 → Slot} :
    ((postProcSmcReturn env params slots env.final).1 = 0 ↔ env.final.ret = teecSuccess ∧
        (env.final.ret == 0 && updateClientOperation env params slots true == 0) = true) ∧
      ((postProcSmcReturn env params slots env.final).1 = -eRestartSys ↔
        env.final.ret = teecClientIntr) := by
  unfold postProcSmcReturn
  have own := updateClientOperation_own env params slots true
  by_cases answer : env.final.ret = 0
  · rw [if_neg (not_not_intro answer)]
    dsimp only
    rw [answer]
    refine ⟨?_, iff_of_false own.ne_restart (by decide)⟩
    simp [teecSuccess]
  · rw [if_pos answer]
    dsimp only
    by_cases interrupted : env.final.ret = teecClientIntr
    · rw [if_pos interrupted]
      exact ⟨iff_of_false (by decide) (fun both => answer both.1), iff_of_true rfl interrupted⟩
    · rw [if_neg interrupted]
      exact ⟨iff_of_false (by decide) (fun both => answer both.1),
        iff_of_false (by decide) interrupted⟩

theorem tcClientCall_return : CallReturn env params (tcClientCall env params) := by
  unfold tcClientCall
  split
  · next unallocated =>
      refine .unsent ?_ ownResult_eNoMem (show (-eNoMem : Int) ≠ 0 by decide) rfl
      intro sent
      cases unallocated.symm.trans sent.1
  · next unpacked =>
      refine .unsent ?_ ownResult_eNoMem (show (-eNoMem : Int) ≠ 0 by decide) rfl
      rintro ⟨_, pack, packed, _⟩
      cases unpacked.symm.trans packed
  · next pack allocated packed =>
      dsimp only
      split
      · next failed =>
          refine .unsent ?_ (allocOperation_own env params) failed rfl
          rintro ⟨_, _, _, prepared, _⟩
          exact failed prepared
      next prepared =>
        split
        · next failed =>
            refine .unsent ?_ (configSmcCmdContext_own env params _) failed rfl
            rintro ⟨_, other, same, _, configured⟩
            cases packed.symm.trans same
            exact failed configured
        · next configured =>
            refine .answered ⟨allocated, pack, packed, not_not.mp prepared, not_not.mp configured⟩
              _ rfl rfl ?_ ?_ ?_
            · exact postProcSmcReturn_ret.1
            · exact postProcSmcReturn_ret.2
            · intro untyped answer
              simp [updateClientOperation, untyped, answer, teecSuccess]

end Call

end TzDriver.LiteOs
