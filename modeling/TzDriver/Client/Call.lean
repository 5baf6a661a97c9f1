/-
`tc_client_call` (`linux/core/gp_ops.c`): the whole path of one client request
from its allocations over the SMC and its re-sends to the release of everything
it took.
-/

import Mathlib.Data.List.FinRange
import TzDriver.Client.Operation

namespace TzDriver.Client

def tcCallGlobal : UInt8 := 0x01
def tcCallSync : UInt8 := 0x02
def tcCallLogin : UInt8 := 0x04

/-- `sizeof(struct tc_ns_operation)`: where `login_data` starts in the pack. -/
def loginDataOffset : UInt64 := 120

/-- `MAX_SHA_256_SZ * (NUM_OF_SO + 1)`. -/
def loginDataLen : UInt32 := 64

/-- The session pointer of a call.  The session of an open is fresh from `kzalloc`:
`init_new_sess_node` sets its wait queue up and lists it once the call has returned. -/
inductive SessionPtr where
  | null
  | opening
  | opened
  deriving DecidableEq

/-- `struct tc_call_params`. -/
structure CallParams where
  dev : DevFile
  context : ClientContext
  sess : SessionPtr
  flags : UInt8

namespace CallParams

variable (params : CallParams)

def paramType (index : Fin 4) : ParamType :=
  teecParamTypeGet params.context.paramTypes index

/-- `kernel_params` in `alloc_operation`: parameters 2 and 3 of a login call are
the driver's own. -/
def kernelParams (index : Fin 4) : Mode :=
  if params.flags &&& tcCallLogin ≠ 0 ∧ 2 ≤ index.val then .kernel
  else apiMode params.dev.kernelApi

def isGlobal : Bool :=
  params.flags &&& tcCallGlobal != 0

end CallParams

/-- `free_operation`, driven by the types of the context. -/
def freeOperation (platform : Platform) (params : CallParams) (slots : Fin 4 → Slot) :
    List Event :=
  (List.finRange 4).flatMap fun index =>
    freeParam platform (params.paramType index) (slots index)

section Operation

variable {platform : Platform} (env : CallEnv platform) (params : CallParams)

/-- The state of the four parameters while `alloc_operation` runs, with its
return value and what it did. -/
structure Operation where
  ret : Int
  slots : Fin 4 → Slot
  events : List Event

def allocLoop : List (Fin 4) → (Fin 4 → Slot) → Operation
  | [], slots => ⟨0, slots, []⟩
  | index :: rest, slots =>
      let step := allocParam env (params.kernelParams index) (params.paramType index) index
        (params.context.params index) (slots index)
      let stored := Function.update slots index step.slot
      if step.ret ≠ 0 then ⟨step.ret, stored, step.events⟩
      else
        let later := allocLoop rest stored
        { later with events := step.events ++ later.events }

/-- `alloc_operation`; a failed one has already run `free_operation`. -/
def allocOperation : Operation :=
  let allocated := allocLoop env params (List.finRange 4) fun _ => Slot.zeroed
  if allocated.ret ≠ 0 then
    { allocated with
      events := allocated.events ++ freeOperation platform params allocated.slots }
  else allocated

def updateLoop (slots : Fin 4 → Slot) (isComplete : Bool) : List (Fin 4) → Int × List Event
  | [] => (0, [])
  | index :: rest =>
      let step := updateParam env (apiMode params.dev.kernelApi) index
        (params.context.params index) (slots index) (params.paramType index) isComplete
      if step.1 ≠ 0 then step
      else
        let later := updateLoop slots isComplete rest
        (later.1, step.2 ++ later.2)

def updateClientOperation (slots : Fin 4 → Slot) (opInited isComplete : Bool) :
    Int × List Event :=
  if opInited = false then (0, [])
  else if params.context.paramTypes = 0 then (0, [])
  else updateLoop env params slots isComplete (List.finRange 4)

def allocStep (slots : Fin 4 → Slot) (index : Fin 4) : Prepared :=
  allocParam env (params.kernelParams index) (params.paramType index) index
    (params.context.params index) (slots index)

variable {env params}

theorem allocLoop_cons_error {index : Fin 4} {rest : List (Fin 4)} {slots : Fin 4 → Slot}
    (failed : (allocStep env params slots index).ret ≠ 0) :
    allocLoop env params (index :: rest) slots =
      ⟨(allocStep env params slots index).ret,
        Function.update slots index (allocStep env params slots index).slot,
        (allocStep env params slots index).events⟩ :=
  if_pos failed

theorem allocLoop_cons_ok {index : Fin 4} {rest : List (Fin 4)} {slots : Fin 4 → Slot}
    (accepted : (allocStep env params slots index).ret = 0) :
    allocLoop env params (index :: rest) slots =
      { allocLoop env params rest
          (Function.update slots index (allocStep env params slots index).slot) with
        events := (allocStep env params slots index).events ++
          (allocLoop env params rest
            (Function.update slots index (allocStep env params slots index).slot)).events } :=
  if_neg (not_not_intro accepted)

theorem allocLoop_frame {indices : List (Fin 4)} {slots : Fin 4 → Slot} {index : Fin 4}
    (outside : index ∉ indices) :
    (allocLoop env params indices slots).slots index = slots index := by
  induction indices generalizing slots with
  | nil => rfl
  | cons first rest ih =>
      have notFirst : index ≠ first := fun same => outside (same ▸ List.mem_cons_self)
      by_cases accepted : (allocStep env params slots first).ret = 0
      · rw [allocLoop_cons_ok accepted]
        exact (ih fun member => outside (List.mem_cons_of_mem _ member)).trans
          (Function.update_of_ne notFirst _ _)
      · rw [allocLoop_cons_error accepted]
        exact Function.update_of_ne notFirst _ _

theorem allocLoop_slot {indices : List (Fin 4)} (distinct : indices.Nodup)
    {slots : Fin 4 → Slot} (accepted : (allocLoop env params indices slots).ret = 0)
    {index : Fin 4} (member : index ∈ indices) :
    (allocStep env params slots index).ret = 0 ∧
      (allocLoop env params indices slots).slots index =
        (allocStep env params slots index).slot := by
  induction indices generalizing slots with
  | nil => cases member
  | cons first rest ih =>
      obtain ⟨fresh, distinctRest⟩ := List.nodup_cons.mp distinct
      by_cases stepOk : (allocStep env params slots first).ret = 0
      · rw [allocLoop_cons_ok stepOk] at accepted ⊢
        rcases List.mem_cons.mp member with same | later
        · subst same
          refine ⟨stepOk, ?_⟩
          exact (allocLoop_frame fresh).trans (Function.update_self _ _ _)
        · have notFirst : index ≠ first := fun same => fresh (same ▸ later)
          have tail := ih distinctRest accepted later
          simp only [allocStep, Function.update_of_ne notFirst] at tail
          exact tail
      · rw [allocLoop_cons_error stepOk] at accepted
        exact absurd accepted stepOk

theorem allocLoop_events {indices : List (Fin 4)} (distinct : indices.Nodup)
    {slots : Fin 4 → Slot} (accepted : (allocLoop env params indices slots).ret = 0) :
    (allocLoop env params indices slots).events =
      indices.flatMap fun index => (allocStep env params slots index).events := by
  induction indices generalizing slots with
  | nil => rfl
  | cons first rest ih =>
      obtain ⟨fresh, distinctRest⟩ := List.nodup_cons.mp distinct
      by_cases stepOk : (allocStep env params slots first).ret = 0
      · rw [allocLoop_cons_ok stepOk] at accepted ⊢
        have tail := ih distinctRest accepted
        rw [List.flatMap_cons]
        refine congrArg ((allocStep env params slots first).events ++ ·) (tail.trans ?_)
        apply List.flatMap_congr
        intro index later
        have notFirst : index ≠ first := fun same => fresh (same ▸ later)
        unfold allocStep
        rw [Function.update_of_ne notFirst]
      · rw [allocLoop_cons_error stepOk] at accepted
        exact absurd accepted stepOk

theorem allocLoop_ret {indices : List (Fin 4)} (distinct : indices.Nodup)
    {slots : Fin 4 → Slot}
    (each : ∀ index ∈ indices, (allocStep env params slots index).ret = 0) :
    (allocLoop env params indices slots).ret = 0 := by
  induction indices generalizing slots with
  | nil => rfl
  | cons first rest ih =>
      obtain ⟨fresh, distinctRest⟩ := List.nodup_cons.mp distinct
      rw [allocLoop_cons_ok (each first List.mem_cons_self)]
      apply ih distinctRest
      intro index later
      have notFirst : index ≠ first := fun same => fresh (same ▸ later)
      have own := each index (List.mem_cons_of_mem _ later)
      unfold allocStep at own ⊢
      rw [Function.update_of_ne notFirst]
      exact own

theorem allocOperation_eq (accepted : (allocOperation env params).ret = 0) :
    allocOperation env params = allocLoop env params (List.finRange 4) fun _ => Slot.zeroed := by
  unfold allocOperation at accepted ⊢
  by_cases loopOk : (allocLoop env params (List.finRange 4) fun _ => Slot.zeroed).ret = 0
  · exact if_neg (not_not_intro loopOk)
  · simp only [ne_eq, loopOk, not_false_eq_true, if_true] at accepted

theorem allocOperation_slot (accepted : (allocOperation env params).ret = 0) (index : Fin 4) :
    (allocStep env params (fun _ => Slot.zeroed) index).ret = 0 ∧
      (allocOperation env params).slots index =
        (allocStep env params (fun _ => Slot.zeroed) index).slot := by
  have loop := allocOperation_eq accepted
  rw [loop] at accepted ⊢
  exact allocLoop_slot (List.nodup_finRange 4) accepted (List.mem_finRange index)

theorem allocOperation_events (accepted : (allocOperation env params).ret = 0) :
    (allocOperation env params).events =
      (List.finRange 4).flatMap fun index =>
        (allocStep env params (fun _ => Slot.zeroed) index).events := by
  have loop := allocOperation_eq accepted
  rw [loop] at accepted ⊢
  exact allocLoop_events (List.nodup_finRange 4) accepted

theorem allocOperation_ret_iff :
    (allocOperation env params).ret = 0 ↔
      ∀ index, (allocStep env params (fun _ => Slot.zeroed) index).ret = 0 := by
  constructor
  · intro accepted index
    exact (allocOperation_slot accepted index).1
  · intro each
    have loopOk := allocLoop_ret (List.nodup_finRange 4) fun index _ => each index
    unfold allocOperation
    rw [if_neg (not_not_intro loopOk)]
    exact loopOk

def updateStep (env : CallEnv platform) (params : CallParams) (slots : Fin 4 → Slot)
    (isComplete : Bool) (index : Fin 4) : Int × List Event :=
  updateParam env (apiMode params.dev.kernelApi) index (params.context.params index) (slots index)
    (params.paramType index) isComplete

theorem updateLoop_ok {slots : Fin 4 → Slot} {isComplete : Bool} {indices : List (Fin 4)}
    (updated : (updateLoop env params slots isComplete indices).1 = 0) :
    (∀ index ∈ indices, (updateStep env params slots isComplete index).1 = 0) ∧
      (updateLoop env params slots isComplete indices).2 =
        indices.flatMap fun index => (updateStep env params slots isComplete index).2 := by
  induction indices with
  | nil =>
      refine ⟨?_, rfl⟩
      intro index impossible
      cases impossible
  | cons first rest ih =>
      by_cases stepOk : (updateStep env params slots isComplete first).1 = 0
      · have loop : updateLoop env params slots isComplete (first :: rest) =
            ((updateLoop env params slots isComplete rest).1,
              (updateStep env params slots isComplete first).2 ++
                (updateLoop env params slots isComplete rest).2) :=
          if_neg (not_not_intro stepOk)
        rw [loop] at updated ⊢
        obtain ⟨each, events⟩ := ih updated
        refine ⟨List.forall_mem_cons.mpr ⟨stepOk, each⟩, ?_⟩
        rw [List.flatMap_cons, ← events]
      · have loop : updateLoop env params slots isComplete (first :: rest) =
            updateStep env params slots isComplete first := if_pos stepOk
        rw [loop] at updated
        exact absurd updated stepOk

end Operation

/-! ### The command -/

section Command

variable {platform : Platform} (env : CallEnv platform) (params : CallParams)

def initSmcCmd (mbPack : UInt64) (cmd : SmcCmd) : SmcCmd :=
  let operation := platform.mailboxVirtToPhys mbPack
  let context := params.context
  { cmd with
    cmdType := if params.isGlobal then .global else .ta
    uuid := context.uuid
    cmdId := context.cmdId
    devFileId := params.dev.devFileId
    contextId := context.sessionId
    errOrigin := context.returnsOrigin
    started := context.started != 0
    caPid := env.caPid
    pid := env.pid
    operationPhys := if context.paramTypes = 0 then 0 else operation.toUInt32
    operationHPhys := if context.paramTypes = 0 then 0 else (operation >>> 32).toUInt32
    loginMethod :=
      if params.dev.kernelApi = 1 then teekLoginIdentify else context.loginMethod }

def needCheckLogin (cmd : SmcCmd) : Bool :=
  params.dev.pubKeyLen == 4 && cmd.cmdId == globalCmdIdOpenSession && env.currentMm &&
    params.isGlobal

def checkLoginForEncrypt (mbPack : UInt64) (cmd : SmcCmd) : Int × SmcCmd :=
  if needCheckLogin env params cmd && params.sess != .null then
    if memcpyS loginDataLen.toNat loginDataLen.toNat env.loginOverlap ≠ 0 then (-eFault, cmd)
    else
      let loginData := platform.mailboxVirtToPhys (mbPack + loginDataOffset)
      (0,
        { cmd with
          loginDataPhy := loginData.toUInt32
          loginDataHAddr := (loginData >>> 32).toUInt32
          loginDataLen := loginDataLen })
  else (0, { cmd with loginDataPhy := 0, loginDataHAddr := 0, loginDataLen := 0 })

def configSmcCmdContext (mbPack : UInt64) (cmd : SmcCmd) : Int × SmcCmd :=
  if memcpyS 16 16 env.uuidOverlap ≠ 0 then (-eFault, cmd)
  else checkLoginForEncrypt env params mbPack (initSmcCmd env params mbPack cmd)

/-- The session id after the first answer. -/
def resetSessionId (reply : SmcReply) : UInt32 :=
  if params.isGlobal && params.context.cmdId == globalCmdIdOpenSession && reply.ret != 0 &&
      reply.ret != teecPending then 0
  else reply.cmd.contextId

/-- Whether `pend_ca_thread` returns.  No notification finds a session that is not
listed, and the queue of the wait is not initialised. -/
def pendCaThread (sess : SessionPtr) : Bool :=
  sess != .opening

/-- `handle_ta_pending`: wait and re-send until the answer is final.  `none` while
the answers that came are all pending, and for ever where the wait has no end. -/
def handleTaPending (sess : SessionPtr) :
    SmcReply → List SmcReply → Option (SmcReply × List Event)
  | reply, rest =>
      if reply.ret ≠ teecPending then some (reply, [])
      else if pendCaThread sess = false then none
      else
        match rest with
        | [] => none
        | next :: later =>
            (handleTaPending sess next later).map fun final => (final.1, .smc next :: final.2)

/-- How `handle_ta_pending` comes to an end. -/
inductive PendingEnds (sess : SessionPtr) :
    SmcReply → List SmcReply → SmcReply × List Event → Prop where
  | finished {reply : SmcReply} {later : List SmcReply} (final : reply.ret ≠ teecPending) :
      PendingEnds sess reply later (reply, [])
  | resent {reply next : SmcReply} {later : List SmcReply} {final : SmcReply × List Event}
      (pending : reply.ret = teecPending) (woken : pendCaThread sess = true)
      (ends : PendingEnds sess next later final) :
      PendingEnds sess reply (next :: later) (final.1, .smc next :: final.2)

theorem PendingEnds.of_eq_some {sess : SessionPtr} {reply : SmcReply} {later : List SmcReply}
    {final : SmcReply × List Event} (ended : handleTaPending sess reply later = some final) :
    PendingEnds sess reply later final := by
  induction later generalizing reply final with
  | nil =>
      rw [handleTaPending] at ended
      split at ended
      · next finished =>
          cases ended
          exact .finished finished
      split at ended
      · cases ended
      · cases ended
  | cons next rest ih =>
      rw [handleTaPending] at ended
      split at ended
      · next finished =>
          cases ended
          exact .finished finished
      · next pending =>
          split at ended
          · cases ended
          · next woken =>
              obtain ⟨tail, tailEnded, same⟩ := Option.map_eq_some_iff.mp ended
              subst same
              exact .resent (not_not.mp pending) (Bool.eq_true_of_not_eq_false woken) (ih tailEnded)

def postProcSmcReturn (slots : Fin 4 → Slot) (opInited : Bool) (teeRet : UInt32) :
    Int × List Event :=
  if teeRet ≠ 0 then
    let ret := if teeRet = teecClientIntr then -eRestartSys else eFault
    let events :=
      if teeRet = teecErrorShortBuffer then
        (updateClientOperation env params slots opInited false).2
      else []
    (ret, events)
  else updateClientOperation env params slots opInited true

end Command

/-! ### The call -/

structure CallResult where
  ret : Int
  context : ClientContext
  events : List Event

section Call

variable {platform : Platform} (env : CallEnv platform) (params : CallParams)

/-- `release_tc_call_resource` behind the label `free_src`. -/
def finishCall (pack : MailboxPtr platform) (slots : Fin 4 → Slot) (opInited : Bool)
    (context : ClientContext) (cmd : SmcCmd) (teeRet : UInt32) (ret : Int)
    (events : List Event) : CallResult :=
  { ret := ret
    context :=
      { context with
        returnsCode := teeRet
        returnsOrigin := if ret < 0 then teecOriginComms else cmd.errOrigin }
    events :=
      events ++
        ((if opInited then freeOperation platform params slots else []) ++
          [.kfreeSmcCmd, .mailboxFree pack.addr]) }

/-- The part of `tc_client_call` from `config_smc_cmd_context` on. -/
def sendCall (pack : MailboxPtr platform) (slots : Fin 4 → Slot) (opInited : Bool)
    (cmd : SmcCmd) (events : List Event) : Option CallResult :=
  let config := configSmcCmdContext env params pack.addr cmd
  if config.1 ≠ 0 then
    some (finishCall params pack slots opInited params.context config.2 0 config.1 events)
  else
    let context := { params.context with sessionId := resetSessionId params env.reply }
    match handleTaPending params.sess env.reply env.laterReplies with
    | none => none
    | some (final, resends) =>
        let post := postProcSmcReturn env params slots opInited final.ret
        some
          (finishCall params pack slots opInited context final.cmd final.ret post.1
            (events ++ .smc env.reply :: (resends ++ post.2)))

def tcClientCall : Option CallResult :=
  if env.smcCmdAlloc = false then some ⟨-eNoMem, params.context, []⟩
  else
    match env.cmdPack with
    | none => some ⟨-eNoMem, params.context, [.kzallocSmcCmd, .kfreeSmcCmd]⟩
    | some pack =>
        let taken : List Event := [.kzallocSmcCmd, .mailboxAlloc pack.addr 4096]
        let cmd := { SmcCmd.zeroed with errOrigin := teecOriginComms, uid := env.uid }
        if params.context.paramTypes = 0 then
          sendCall env params pack (fun _ => Slot.zeroed) false cmd taken
        else
          let operation := allocOperation env params
          if operation.ret ≠ 0 then
            some
              (finishCall params pack operation.slots false params.context cmd 0 operation.ret
                (taken ++ operation.events))
          else
            sendCall env params pack operation.slots true cmd (taken ++ operation.events)

end Call

/-! ### A quiet outside

Fixed inputs that the concrete cases of the later modules vary. -/

def flatPlatform : Platform :=
  { checksVirtAddr := true
    virtAddrValid := fun ptr => ptr != 0
    mailboxVirtToPhys := id
    resMemVirtToPhys := id }

def flatPtr (page : UInt64) (proper : zeroOrNullPtr page = false) : MailboxPtr flatPlatform :=
  { addr := page
    proper := proper
    mapped := by
      intro _
      simp only [flatPlatform, bne_iff_ne]
      intro null
      rw [null] at proper
      revert proper
      decide }

/-- Every allocation and every copy works and the TEE answers success. -/
def calmEnv : CallEnv flatPlatform :=
  { smcCmdAlloc := true
    cmdPack := some (flatPtr 0x10000 (by decide))
    entrySize := fun _ => some 0
    inputCopy := fun _ => true
    valueA := fun _ => some 0
    valueB := fun _ => some 0
    tmpBlock := fun index => some (flatPtr
      (if index = 0 then 0x20000 else if index = 1 then 0x30000
        else if index = 2 then 0x40000 else 0x50000) (by revert index; decide))
    refBlock := fun index => some (flatPtr
      (if index = 0 then 0x60000 else if index = 1 then 0x70000
        else if index = 2 then 0x80000 else 0x90000) (by revert index; decide))
    refOverlap := fun _ => false
    sharedMemList := fun _ => []
    uuidOverlap := false
    loginOverlap := false
    uid := 0
    caPid := 1
    pid := 1
    currentMm := true
    reply := ⟨teecSuccess, { SmcCmd.zeroed with contextId := 1 }⟩
    laterReplies := []
    teeSize := fun _ _ => 0
    exitSize := fun _ => some 0
    sizeWrite := fun _ => true
    bufferWrite := fun _ => true
    valueAWrite := fun _ => true
    valueBWrite := fun _ => true
    copyOutOverlap := fun _ => false }

def userDev : DevFile :=
  { devFileId := 1, kernelApi := 0, pkgNameLen := 0, pubKeyLen := 0
    pkgNameLenAddr := 0xffff000000200000, pkgNameAddr := 0xffff000000200010
    pubKeyLenAddr := 0xffff000000200200, pubKeyAddr := 0xffff000000200210 }

def emptyContext : ClientContext :=
  { uuid := 0#128, sessionId := 0, cmdId := 0, returnsCode := 0, returnsOrigin := 0
    loginMethod := 0, loginMdata := 0
    params := fun _ =>
      { buffer := 0, bufferHAddr := 0, offset := 0, hOffset := 0, sizeAddr := 0, sizeHAddr := 0 }
    paramTypes := 0, started := 0, callingPid := 0, fileSize := 0, fileAddr := 0, fileHAddr := 0 }

end TzDriver.Client
