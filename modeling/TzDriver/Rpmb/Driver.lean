/-
`rpmb_ioctl_cmd` on the `mplat` platform (`linux/agent_rpmb/mplat/rpmb_driver.c`).

The results of the eMMC and UFS commands are the environment.  Every step of an
operation is recorded with whether it succeeded, whatever the driver makes of it.
-/

import TzDriver.Platform

namespace TzDriver.Rpmb

inductive RpmbOpType where
  | rd
  | wrData
  | wrCnt
  | unknown (value : UInt32)
deriving DecidableEq, Repr

def RpmbOpType.known : RpmbOpType → Bool
  | .unknown _ => false
  | _ => true

/-- The request types of a frame. -/
inductive ReqType where
  | programKey
  | getWriteCounter
  | writeData
  | readData
deriving DecidableEq, Repr

inductive BootType where
  | sdmmc
  | ufs
  | other (value : UInt32)
deriving DecidableEq, Repr

inductive Step where
  | switchRpmb
  | request
  | resultRead
  | response
  | switchMain
  | cmdReq
  | copyFrame
deriving DecidableEq, Repr

structure IocData where
  buf : Bool
  bufBytes : UInt64
  blocks : UInt32
deriving DecidableEq, Repr

structure IocRpmbData where
  cmd0 : IocData
  cmd1 : IocData
  cmd2 : IocData
deriving DecidableEq, Repr

/-- What one request to the card meets: the transfer buffer, and the errors that
`mmc_wait_for_req` leaves in `sbc`, `cmd` and `data`. -/
structure MmcRequest where
  transferBuf : Bool
  sbcError : Int
  cmdError : Int
  dataError : Int

/-- What one `emmc_rpmb_switch` meets: command queueing, and the results of
`mmc_cmdq_disable` and `mmc_switch`.  `mmc_cmdq_enable` may fail without a consequence. -/
structure MmcSwitch where
  cmdq : Bool
  cmdqDisable : Int
  mmcSwitch : Int

/-- The world of one call.  `cqSupport` and `ufsSupport` are build options;
`RPMB_ALLOC_ERROR` comes from the kernel's headers. -/
structure Env where
  bootType : BootType
  cqSupport : Bool
  ufsSupport : Bool
  card : Bool
  drvdata : Bool
  rpmbPart : Bool
  mmcCard : Bool
  partCurr : UInt32
  mainType : UInt32
  toRpmb : MmcSwitch
  toMain : MmcSwitch
  requests : Step → MmcRequest
  frameAlloc : Bool
  rpmbCmdReq : Int
  allocError : Int
  allocError_ne : allocError ≠ 0

structure Report where
  ret : Int
  steps : List (Step × Bool)
deriving DecidableEq, Repr

def extCsdPartConfigAccRpmb : UInt32 := 3

def sizeofRpmbFrame : Nat := 512

section Emmc

variable (env : Env)

/-- `emmc_rpmb_switch`: its result and `part_curr`. -/
def emmcRpmbSwitch (switch : MmcSwitch) (partCurr partType : UInt32) : Int × UInt32 :=
  if partCurr = partType then (0, partCurr)
  else if env.cqSupport ∧ switch.cmdq ∧ switch.cmdqDisable ≠ 0 then (switch.cmdqDisable, partCurr)
  else if env.mmcCard ∧ switch.mmcSwitch ≠ 0 then (switch.mmcSwitch, partCurr)
  else (0, partType)

/-- `emmc_rpmb_send_command`, whose `blks` has 16 bits. -/
def emmcRpmbSendCommand (step : Step) (blks : Nat) : Int :=
  if blks % 65536 = 0 then -eInval
  else if (env.requests step).transferBuf = false then -eNoMem
  else if (env.requests step).cmdError ≠ 0 then (env.requests step).cmdError
  else if (env.requests step).dataError ≠ 0 then (env.requests step).dataError
  else 0

/-- The request was made and none of its parts failed. -/
def commandOk (step : Step) (blks : Nat) : Bool :=
  decide (emmcRpmbSendCommand env step blks = 0) && decide ((env.requests step).sbcError = 0)

def stepBlocks (type : ReqType) (data : IocRpmbData) : Step → Nat
  | .request => if type = .writeData then data.cmd0.blocks.toNat else 1
  -- a read first takes over the count of the second command
  | .response => if type = .readData then data.cmd1.blocks.toNat else 1
  | _ => 1

def hasResultRead (type : ReqType) : Bool :=
  type == .writeData || type == .programKey

def emmcRpmbCmdProc (type : ReqType) (data : IocRpmbData) : Report :=
  let send := fun step => emmcRpmbSendCommand env step (stepBlocks type data step)
  let made := fun step => (step, commandOk env step (stepBlocks type data step))
  if send .request ≠ 0 then ⟨send .request, [made .request]⟩
  else if hasResultRead type then
    if send .resultRead ≠ 0 then ⟨send .resultRead, [made .request, made .resultRead]⟩
    else ⟨send .response, [made .request, made .resultRead, made .response]⟩
  else ⟨send .response, [made .request, made .response]⟩

/-- The frames of an operation; `none` is the default branch. -/
def RpmbOpType.reqType : RpmbOpType → Option ReqType
  | .rd => some .readData
  | .wrCnt => some .getWriteCounter
  | .wrData => some .writeData
  | .unknown _ => none

/-- The switch to the RPMB partition and the one back to the main partition. -/
def switchThere : Int × UInt32 :=
  emmcRpmbSwitch env env.toRpmb env.partCurr extCsdPartConfigAccRpmb

def switchBack : Int × UInt32 :=
  emmcRpmbSwitch env env.toMain (switchThere env).2 env.mainType

/-- What stands between the two switches. -/
def emmcWork (operation : RpmbOpType) (data : IocRpmbData) : Report :=
  if (switchThere env).1 ≠ 0 then ⟨(switchThere env).1, []⟩
  else
    match operation.reqType with
    | some type => emmcRpmbCmdProc env type data
    | none => ⟨(switchThere env).1, []⟩

/-- The result of the switch back replaces that of the work. -/
def rpmbOperationEmmc (operation : RpmbOpType) (data : IocRpmbData) : Report :=
  if env.card = false then ⟨-1, []⟩
  else if env.drvdata = false then ⟨-1, []⟩
  else if env.rpmbPart = false then ⟨-1, []⟩
  else
    ⟨(switchBack env).1,
      (.switchRpmb, decide ((switchThere env).1 = 0)) ::
        ((emmcWork env operation data).steps ++ [(.switchMain, decide ((switchBack env).1 = 0))])⟩

end Emmc

section Ufs

variable (env : Env)

/-- `rpmb_req_read_data_ufs` and `rpmb_req_get_wc_ufs`. -/
def rpmbReqUfs : Report :=
  ⟨env.rpmbCmdReq, [(.cmdReq, decide (env.rpmbCmdReq = 0))]⟩

def rpmbReqWriteDataUfs (data : IocRpmbData) : Report :=
  if env.frameAlloc = false then ⟨env.allocError, []⟩
  else if data.cmd2.buf = false then ⟨-1, [(.cmdReq, decide (env.rpmbCmdReq = 0))]⟩
  else
    let ret := memcpyS data.cmd2.bufBytes.toNat sizeofRpmbFrame false
    ⟨ret, [(.cmdReq, decide (env.rpmbCmdReq = 0)), (.copyFrame, decide (ret = 0))]⟩

def rpmbOperationUfs (operation : RpmbOpType) (data : IocRpmbData) : Report :=
  match operation with
  | .rd => rpmbReqUfs env
  | .wrCnt => rpmbReqUfs env
  | .wrData => rpmbReqWriteDataUfs env data
  | .unknown _ => ⟨-1, []⟩

/-- `rpmb_ioctl_cmd`; `none` is a NULL `storage_data`. -/
def rpmbIoctlCmd (operation : RpmbOpType) (data : Option IocRpmbData) : Report :=
  match data with
  | none => ⟨-1, []⟩
  | some data =>
      if env.bootType = .sdmmc then rpmbOperationEmmc env operation data
      else if env.ufsSupport ∧ env.bootType = .ufs then rpmbOperationUfs env operation data
      else ⟨0, []⟩

end Ufs

/-! ### When success means success -/

/-- A call that reports success knew its operation and made no step that failed. -/
def Honest (operation : RpmbOpType) (report : Report) : Prop :=
  report.ret = 0 → operation.known = true ∧ ∀ step ∈ report.steps, step.2 = true

section Conditions

variable (env : Env)

def FramesOk (type : ReqType) (data : IocRpmbData) : Prop :=
  commandOk env .request (stepBlocks type data .request) = true ∧
    (hasResultRead type = true → commandOk env .resultRead 1 = true) ∧
    commandOk env .response (stepBlocks type data .response) = true

/-- The condition on eMMC: the switch back fails, or nothing before it does. -/
def EmmcHonest (operation : RpmbOpType) (data : IocRpmbData) : Prop :=
  (env.card && env.drvdata && env.rpmbPart) = true →
    (switchBack env).1 ≠ 0 ∨
      (switchThere env).1 = 0 ∧ ∃ type, operation.reqType = some type ∧ FramesOk env type data

/-- The condition on UFS: a write whose answer is copied back was itself accepted. -/
def UfsHonest (operation : RpmbOpType) (data : IocRpmbData) : Prop :=
  operation = .wrData → env.frameAlloc = true → data.cmd2.buf = true →
    memcpyS data.cmd2.bufBytes.toNat sizeofRpmbFrame false = 0 → env.rpmbCmdReq = 0

def HonestWhen (operation : RpmbOpType) (data : Option IocRpmbData) : Prop :=
  match data with
  | none => True
  | some data =>
      if env.bootType = .sdmmc then EmmcHonest env operation data
      else if env.ufsSupport ∧ env.bootType = .ufs then UfsHonest env operation data
      else operation.known = true

end Conditions

section Honest

variable {env : Env} {operation : RpmbOpType} {data : IocRpmbData}

theorem send_of_commandOk {step : Step} {blks : Nat} (ok : commandOk env step blks = true) :
    emmcRpmbSendCommand env step blks = 0 :=
  of_decide_eq_true (Bool.and_eq_true_iff.mp ok).1

/-- All frames that `emmc_rpmb_cmd_proc` sent went through exactly when all frames of the
operation would. -/
theorem emmcRpmbCmdProc_steps_iff (type : ReqType) :
    (∀ step ∈ (emmcRpmbCmdProc env type data).steps, step.2 = true) ↔ FramesOk env type data := by
  unfold FramesOk emmcRpmbCmdProc
  simp only
  by_cases requested : emmcRpmbSendCommand env .request (stepBlocks type data .request) = 0
  · rw [if_neg (not_not_intro requested)]
    by_cases reads : hasResultRead type = true
    · rw [if_pos reads]
      by_cases read : emmcRpmbSendCommand env .resultRead (stepBlocks type data .resultRead) = 0
      · rw [if_neg (not_not_intro read)]
        simp only [List.forall_mem_cons, List.not_mem_nil, false_imp_iff, implies_true, and_true,
          reads, forall_const]
        exact Iff.rfl
      · rw [if_pos read]
        constructor
        · intro all
          exact absurd (send_of_commandOk (all _ (List.mem_cons_of_mem _ List.mem_cons_self))) read
        · intro frames
          exact absurd (send_of_commandOk (frames.2.1 reads)) read
    · rw [if_neg reads]
      simp only [List.forall_mem_cons, List.not_mem_nil, false_imp_iff, implies_true, and_true,
        reads, Bool.false_eq_true, true_and]
  · rw [if_pos requested]
    constructor
    · intro all
      exact absurd (send_of_commandOk (all _ List.mem_cons_self)) requested
    · intro frames
      exact absurd (send_of_commandOk frames.1) requested

theorem known_of_reqType {type : ReqType} (given : operation.reqType = some type) :
    operation.known = true := by
  cases operation with
  | unknown value => cases given
  | _ => rfl

theorem emmcWork_steps_iff (operation : RpmbOpType) :
    (switchThere env).1 = 0 ∧ operation.known = true ∧
        (∀ step ∈ (emmcWork env operation data).steps, step.2 = true) ↔
      (switchThere env).1 = 0 ∧ ∃ type, operation.reqType = some type ∧ FramesOk env type data := by
  refine and_congr_right ?_
  intro switched
  unfold emmcWork
  rw [if_neg (not_not_intro switched)]
  cases asked : operation.reqType with
  | none =>
      refine iff_of_false ?_ ?_
      · rintro ⟨known, _⟩
        cases operation with
        | unknown value => cases known
        | _ => cases asked
      · rintro ⟨type, impossible, _⟩
        cases impossible
  | some type =>
      simp only [known_of_reqType asked, true_and, Option.some.injEq, exists_eq_left']
      exact emmcRpmbCmdProc_steps_iff type

theorem rpmbOperationEmmc_honest_iff :
    Honest operation (rpmbOperationEmmc env operation data) ↔ EmmcHonest env operation data := by
  have refused : Honest operation ⟨-1, []⟩ := by
    intro impossible
    cases impossible
  unfold rpmbOperationEmmc EmmcHonest
  cases card : env.card with
  | false => exact iff_of_true refused (by intro impossible; cases impossible)
  | true =>
  cases drvdata : env.drvdata with
  | false => exact iff_of_true refused (by intro impossible; cases impossible)
  | true =>
  cases part : env.rpmbPart with
  | false => exact iff_of_true refused (by intro impossible; cases impossible)
  | true =>
  rw [← emmcWork_steps_iff]
  simp only [Bool.true_eq_false, if_false, Bool.and_self, forall_const, Honest,
    List.forall_mem_cons, List.forall_mem_append, List.not_mem_nil, false_imp_iff, implies_true,
    and_true, decide_eq_true_eq]
  by_cases returned : (switchBack env).1 = 0
  · simp only [returned, ne_eq, not_true_eq_false, false_or, forall_const, and_true]
    constructor
    · rintro ⟨known, switched, steps⟩
      exact ⟨switched, known, steps⟩
    · rintro ⟨switched, known, steps⟩
      exact ⟨known, switched, steps⟩
  · simp only [returned, false_imp_iff, ne_eq, not_false_eq_true, true_or]

theorem rpmbReqUfs_honest (known : operation.known = true) : Honest operation (rpmbReqUfs env) := by
  intro returned
  refine ⟨known, ?_⟩
  intro step member
  rw [List.mem_singleton.mp member]
  exact decide_eq_true returned

theorem rpmbOperationUfs_honest_iff :
    Honest operation (rpmbOperationUfs env operation data) ↔ UfsHonest env operation data := by
  unfold UfsHonest rpmbOperationUfs
  cases operation with
  | rd => exact iff_of_true (rpmbReqUfs_honest rfl) (by intro impossible; cases impossible)
  | wrCnt => exact iff_of_true (rpmbReqUfs_honest rfl) (by intro impossible; cases impossible)
  | unknown value =>
      refine iff_of_true ?_ (by intro impossible; cases impossible)
      intro impossible
      cases impossible
  | wrData =>
      unfold rpmbReqWriteDataUfs
      cases allocated : env.frameAlloc with
      | false =>
          refine iff_of_true ?_ (by intro _ impossible; cases impossible)
          intro impossible
          exact absurd impossible env.allocError_ne
      | true =>
      cases given : data.cmd2.buf with
      | false =>
          refine iff_of_true ?_ (by intro _ _ impossible; cases impossible)
          intro impossible
          cases impossible
      | true =>
          simp only [Bool.true_eq_false, if_false, Honest, List.forall_mem_cons, List.not_mem_nil,
            false_imp_iff, implies_true, and_true, decide_eq_true_eq, forall_const,
            RpmbOpType.known, true_and]
          constructor
          · intro honest copied
            exact (honest copied).1
          · intro accepted copied
            exact ⟨accepted copied, copied⟩

/-- A call reports success honestly exactly under the conditions of its device. -/
theorem rpmb_success_honest_iff (env : Env) (operation : RpmbOpType) (data : Option IocRpmbData) :
    Honest operation (rpmbIoctlCmd env operation data) ↔ HonestWhen env operation data := by
  unfold rpmbIoctlCmd HonestWhen
  cases data with
  | none =>
      refine iff_of_true ?_ trivial
      intro impossible
      cases impossible
  | some data =>
      simp only
      split
      · exact rpmbOperationEmmc_honest_iff
      split
      · exact rpmbOperationUfs_honest_iff
      · constructor
        · intro honest
          exact (honest rfl).1
        · intro known _
          refine ⟨known, ?_⟩
          intro step impossible
          cases impossible

/-- A card whose commands all go through, except that the request of a write times out. -/
def failingWriteEnv : Env :=
  { bootType := .sdmmc
    cqSupport := false
    ufsSupport := false
    card := true
    drvdata := true
    rpmbPart := true
    mmcCard := true
    partCurr := 0
    mainType := 0
    toRpmb := ⟨false, 0, 0⟩
    toMain := ⟨false, 0, 0⟩
    requests := fun step => ⟨true, 0, if step = .request then -110 else 0, 0⟩
    frameAlloc := true
    rpmbCmdReq := 0
    allocError := 5
    allocError_ne := by decide }

def oneBlock : IocRpmbData :=
  ⟨⟨true, 512, 1⟩, ⟨true, 512, 1⟩, ⟨true, 512, 1⟩⟩

/-- The write failed, and the call returns 0. -/
theorem rpmb_failed_write_reported_as_success :
    (rpmbIoctlCmd failingWriteEnv .wrData (some oneBlock)).ret = 0 ∧
      (.request, false) ∈ (rpmbIoctlCmd failingWriteEnv .wrData (some oneBlock)).steps ∧
      ¬Honest .wrData (rpmbIoctlCmd failingWriteEnv .wrData (some oneBlock)) := by
  have failed : (.request, false) ∈
      (rpmbIoctlCmd failingWriteEnv .wrData (some oneBlock)).steps := by decide
  refine ⟨by decide, failed, ?_⟩
  intro honest
  cases (honest (by decide)).2 _ failed

end Honest

end TzDriver.Rpmb
