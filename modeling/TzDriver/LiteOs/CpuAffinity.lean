/-
The CPU affinity of a task that enters the TEE on LiteOS (`liteos/core/smc_smp.c`), in a
build whose `CONFIG_CPU_AFF_NR` is not zero.

A call saves the mask of its task, binds the task to CPU 0 and sends the SMC.  The list of
rounds is what the TEE answers and what is true of the task's signals behind each answer; a
call that has not returned at the end of the list has no result.  `unsigned long` has 32 bits.
-/

import Mathlib.Data.UInt

namespace TzDriver.LiteOs

def smcOpsSchedto : UInt32 := 1
def smcOpsStartFiqshd : UInt32 := 3
def smcOpsAbortTask : UInt32 := 5
def smcExitNormal : UInt32 := 0
def smcExitPreempted : UInt32 := 1
def smcExitMax : UInt32 := 4
def tspRequest : UInt32 := 0xB2000008

def cpu0OnlyMask : UInt16 := 1

/-! ### Masks -/

/-- `LosTaskCB`, by its id and its `cpuAffiMask`. -/
structure LosTask where
  taskId : UInt32
  cpuAffiMask : UInt16
deriving DecidableEq

/-- `LOS_TaskCpuAffiSet` of the kernel: the mask before and the mask that is asked for give the
mask after.  It stores a mask with a CPU that the kernel runs on, CPU 0 being one, and refuses
every other mask. -/
structure TaskCpuAffi where
  kernelCpuMask : UInt16
  set : UInt16 → UInt16 → UInt16
  stores : ∀ before mask, mask &&& kernelCpuMask ≠ 0 → set before mask = mask
  refuses : ∀ before mask, mask &&& kernelCpuMask = 0 → set before mask = before
  cpuZero : cpu0OnlyMask &&& kernelCpuMask ≠ 0

section Masks

variable (affi : TaskCpuAffi) (task : LosTask)

def kthreadBindMask (mask : UInt16) : LosTask :=
  { task with cpuAffiMask := affi.set task.cpuAffiMask mask }

/-- `set_cpu_strategy`, with what it stores in `old_mask`. -/
def setCpuStrategy : LosTask × UInt16 :=
  (kthreadBindMask affi task cpu0OnlyMask, task.cpuAffiMask)

def restoreCpu (oldMask : UInt16) : LosTask :=
  kthreadBindMask affi task oldMask

theorem setCpuStrategy_mask : (setCpuStrategy affi task).1.cpuAffiMask = cpu0OnlyMask :=
  affi.stores _ _ affi.cpuZero

/-- A mask is stored again if it is there already or has a CPU of the kernel. -/
theorem restoreCpu_mask_iff (oldMask : UInt16) :
    (restoreCpu affi task oldMask).cpuAffiMask = oldMask ↔
      oldMask = task.cpuAffiMask ∨ oldMask &&& affi.kernelCpuMask ≠ 0 := by
  by_cases runnable : oldMask &&& affi.kernelCpuMask = 0
  · have refused := affi.refuses task.cpuAffiMask oldMask runnable
    change affi.set task.cpuAffiMask oldMask = oldMask ↔ _
    rw [refused]
    constructor
    · intro same
      exact Or.inl same.symm
    · intro either
      exact (either.resolve_right (fun some_ => some_ runnable)).symm
  · have stored := affi.stores task.cpuAffiMask oldMask runnable
    exact ⟨fun _ => Or.inr runnable, fun _ => stored⟩

end Masks

/-! ### The SMC -/

structure SmcCmdRet where
  exit : UInt32
  ta : UInt32
  target : UInt32
deriving DecidableEq

inductive CmdState where
  | start
  | killing
  | killed
deriving DecidableEq

/-- `struct smc_param`; the secret is what its pointer points to. -/
structure SmcParam where
  r0 : UInt32
  r1 : UInt32
  r2 : UInt32
  r3 : UInt32
  r4 : UInt32
  secret : Option SmcCmdRet
  cmd : UInt32
  ca : UInt64
  ta : UInt32
  exitReason : UInt32
  target : UInt32
  state : CmdState
  ops : UInt64

/-- The registers that one SMC returns with, and what `sigkill_pending` and
`is_thread_reported` tell behind it. -/
structure Round where
  ret : UInt32
  exitReason : UInt32
  ta : UInt32
  target : UInt32
  sigkillPending : Bool
  threadReported : Bool

/-- The registers that `do_smp_smc_send` sets up for an SMC behind a preempted one. -/
def SmcParam.resend (param : SmcParam) (secret : SmcCmdRet) : SmcParam :=
  match param.state with
  | .killing =>
      { param with
        r0 := param.cmd, state := .killed, r1 := smcOpsAbortTask, r2 := param.ca.toUInt32 }
  | .start =>
      { param with
        r0 := param.cmd, r1 := smcOpsSchedto, r2 := param.ca.toUInt32, r3 := secret.ta
        r4 := secret.target }
  | .killed =>
      { param with
        r0 := param.cmd, r1 := smcOpsSchedto, r2 := param.ca.toUInt32, r3 := secret.ta
        r4 := secret.target }

/-- `do_smp_smc_send`; its return value is that of the round. -/
def doSmpSmcSend (param : SmcParam) (round : Round) : SmcParam :=
  let asked :=
    match param.secret with
    | none => param
    | some secret =>
        let resent := if secret.exit = smcExitPreempted then param.resend secret else param
        if param.ops = smcOpsSchedto.toUInt64 ∨ param.ops = smcOpsStartFiqshd.toUInt64 then
          { resent with r4 := secret.target }
        else resent
  { asked with exitReason := round.exitReason, ta := round.ta, target := round.target }

/-! ### The calls -/

structure Sent where
  ret : UInt32
  task : LosTask
  secret : Option SmcCmdRet

/-- `smp_smc_send` from its label `RETRY` on. -/
def retryLoop (affi : TaskCpuAffi) (needKill : Bool) (task : LosTask) (param : SmcParam) :
    List Round → Option Sent
  | [] => none
  | round :: rest =>
      let (bound, oldMask) := setCpuStrategy affi task
      let sent := doSmpSmcSend param round
      match sent.secret with
      | none => some { ret := round.ret, task := bound, secret := none }
      | some _ =>
          let filled : SmcCmdRet :=
            { exit := sent.exitReason, ta := sent.ta, target := sent.target }
          if sent.exitReason = smcExitPreempted then
            let kills := needKill && round.sigkillPending && sent.state == .start &&
              round.threadReported
            retryLoop affi needKill bound
              { sent with
                secret := some filled, state := if kills then .killing else sent.state } rest
          else
            some { ret := round.ret, task := restoreCpu affi bound oldMask, secret := some filled }

def smpSmcSend (affi : TaskCpuAffi) (task : LosTask) (cmd ops ca : UInt32)
    (secret : Option SmcCmdRet) (needKill : Bool) (rounds : List Round) : Option Sent :=
  retryLoop affi needKill task
    { r0 := cmd, r1 := ops, r2 := ca, r3 := 0, r4 := 0, exitReason := 0, ta := 0, target := 0
      state := .start, cmd := cmd, ca := ca.toUInt64, secret := secret, ops := ops.toUInt64 } rounds

/-- `send_smc_cmd`, by the answers of its SMCs. -/
def sendSmcCmd (wait : Bool) : List UInt32 → Option UInt32
  | [] => none
  | ret :: rest => if ret = tspRequest ∧ wait = true then sendSmcCmd wait rest else some ret

def rawSmcSend (affi : TaskCpuAffi) (task : LosTask) (wait : Bool) (answers : List UInt32) :
    Option (LosTask × UInt32) :=
  let (bound, oldMask) := setCpuStrategy affi task
  (sendSmcCmd wait answers).map fun r0 => (restoreCpu affi bound oldMask, r0)

/-! ### What a round does -/

section Rounds

variable {affi : TaskCpuAffi} {needKill : Bool} {task : LosTask} {param : SmcParam}

theorem resend_secret (secret : SmcCmdRet) : (param.resend secret).secret = param.secret := by
  unfold SmcParam.resend
  split
  · rfl
  · rfl
  · rfl

theorem doSmpSmcSend_secret (round : Round) : (doSmpSmcSend param round).secret = param.secret := by
  unfold doSmpSmcSend
  dsimp only
  split
  · rfl
  · split
    · split
      · exact resend_secret _
      · rfl
    · split
      · exact resend_secret _
      · rfl

theorem retryLoop_null (none_ : param.secret = none) (round : Round) (rest : List Round) :
    retryLoop affi needKill task param (round :: rest) =
      some { ret := round.ret, task := (setCpuStrategy affi task).1, secret := none } := by
  rw [retryLoop]
  simp only [doSmpSmcSend_secret, none_]

theorem retryLoop_last {secret : SmcCmdRet} (given : param.secret = some secret) {round : Round}
    (last : round.exitReason ≠ smcExitPreempted) (rest : List Round) :
    retryLoop affi needKill task param (round :: rest) =
      some
        { ret := round.ret
          task := restoreCpu affi (setCpuStrategy affi task).1 task.cpuAffiMask
          secret :=
            some { exit := round.exitReason, ta := round.ta, target := round.target } } := by
  have exit : (doSmpSmcSend param round).exitReason = round.exitReason := rfl
  rw [retryLoop]
  simp only [doSmpSmcSend_secret, given, exit, if_neg last]
  rfl

theorem retryLoop_preempted {secret : SmcCmdRet} (given : param.secret = some secret)
    {round : Round} (preempted : round.exitReason = smcExitPreempted) (rest : List Round) :
    ∃ (next : SmcParam) (filled : SmcCmdRet), next.secret = some filled ∧
      retryLoop affi needKill task param (round :: rest) =
        retryLoop affi needKill (setCpuStrategy affi task).1 next rest := by
  let sent := doSmpSmcSend param round
  let kills :=
    needKill && round.sigkillPending && sent.state == .start && round.threadReported
  let filled : SmcCmdRet := { exit := sent.exitReason, ta := sent.ta, target := sent.target }
  let next : SmcParam :=
    { sent with secret := some filled, state := if kills then .killing else sent.state }
  have exit : sent.exitReason = smcExitPreempted := preempted
  refine ⟨next, filled, rfl, ?_⟩
  rw [retryLoop]
  simp only [doSmpSmcSend_secret, given]
  exact if_pos exit

theorem retryLoop_bound {rounds : List Round} {sent : Sent}
    (bound : task.cpuAffiMask = cpu0OnlyMask)
    (returned : retryLoop affi needKill task param rounds = some sent) :
    sent.task.cpuAffiMask = cpu0OnlyMask := by
  induction rounds generalizing task param with
  | nil => cases returned
  | cons round rest ih =>
      cases given : param.secret with
      | none =>
          rw [retryLoop_null given] at returned
          cases returned
          exact setCpuStrategy_mask affi task
      | some secret =>
          by_cases preempted : round.exitReason = smcExitPreempted
          · obtain ⟨next, filled, _, goesOn⟩ := retryLoop_preempted given preempted rest
            rw [goesOn] at returned
            exact ih (setCpuStrategy_mask affi task) returned
          · rw [retryLoop_last given preempted] at returned
            cases returned
            rw [bound]
            exact (restoreCpu_mask_iff affi _ _).mpr (Or.inr affi.cpuZero)

theorem retryLoop_returns_iff {rounds : List Round} {secret : SmcCmdRet}
    (given : param.secret = some secret) :
    (retryLoop affi needKill task param rounds).isSome = true ↔
      ∃ round ∈ rounds, round.exitReason ≠ smcExitPreempted := by
  induction rounds generalizing task param secret with
  | nil =>
      constructor
      · intro returned
        cases returned
      · intro ⟨round, member, _⟩
        cases member
  | cons round rest ih =>
      rw [List.exists_mem_cons_iff]
      by_cases preempted : round.exitReason = smcExitPreempted
      · obtain ⟨next, filled, kept, goesOn⟩ :=
          @retryLoop_preempted affi needKill task param secret given round preempted rest
        rw [goesOn, ih kept]
        constructor
        · exact Or.inr
        · intro either
          exact either.resolve_left (fun other => other preempted)
      · rw [retryLoop_last given preempted]
        exact ⟨fun _ => Or.inl preempted, fun _ => rfl⟩

/-- The first round decides whether the mask is restored. -/
theorem retryLoop_restores_iff {first : Round} {rest : List Round} {sent : Sent}
    (returned : retryLoop affi needKill task param (first :: rest) = some sent) :
    sent.task.cpuAffiMask = task.cpuAffiMask ↔
      task.cpuAffiMask = cpu0OnlyMask ∨
        param.secret.isSome = true ∧ first.exitReason ≠ smcExitPreempted ∧
          task.cpuAffiMask &&& affi.kernelCpuMask ≠ 0 := by
  cases given : param.secret with
  | none =>
      rw [retryLoop_null given] at returned
      cases returned
      rw [setCpuStrategy_mask]
      constructor
      · intro same
        exact Or.inl same.symm
      · rintro (bound | ⟨some_, _⟩)
        · exact bound.symm
        · cases some_
  | some secret =>
      by_cases preempted : first.exitReason = smcExitPreempted
      · obtain ⟨next, filled, _, goesOn⟩ := retryLoop_preempted given preempted rest
        rw [goesOn] at returned
        rw [retryLoop_bound (setCpuStrategy_mask affi task) returned]
        constructor
        · intro same
          exact Or.inl same.symm
        · rintro (bound | ⟨_, other, _⟩)
          · exact bound.symm
          · exact absurd preempted other
      · rw [retryLoop_last given preempted] at returned
        cases returned
        rw [restoreCpu_mask_iff, setCpuStrategy_mask]
        apply or_congr_right
        constructor
        · intro runnable
          exact ⟨rfl, preempted, runnable⟩
        · intro ⟨_, _, runnable⟩
          exact runnable

end Rounds

/-! ### The mask at the return -/

/-- `raw_smc_send` saves the mask once, and restores every mask that the kernel has a CPU of. -/
theorem rawSmcSend_restores {affi : TaskCpuAffi} {task after : LosTask} {wait : Bool}
    {answers : List UInt32} {r0 : UInt32}
    (runnable : task.cpuAffiMask &&& affi.kernelCpuMask ≠ 0)
    (returned : rawSmcSend affi task wait answers = some (after, r0)) :
    after.cpuAffiMask = task.cpuAffiMask := by
  obtain ⟨answer, _, same⟩ := Option.map_eq_some_iff.mp returned
  cases same
  exact (restoreCpu_mask_iff affi _ _).mpr (Or.inr runnable)

/-- A call with a secret returns when the TEE answers with an exit that is not preempted. -/
theorem smpSmcSend_returns_iff {affi : TaskCpuAffi} {task : LosTask} {cmd ops ca : UInt32}
    {secret : SmcCmdRet} {needKill : Bool} {rounds : List Round} :
    (smpSmcSend affi task cmd ops ca (some secret) needKill rounds).isSome = true ↔
      ∃ round ∈ rounds, round.exitReason ≠ smcExitPreempted :=
  retryLoop_returns_iff rfl

/-- At the return of `smp_smc_send` the mask is the one at its entry exactly if that is the one
of CPU 0, or if there is a secret, the first answer is not preempted, and the kernel runs on a
CPU of the mask. -/
theorem smp_smc_send_restores_iff {affi : TaskCpuAffi} {task : LosTask} {cmd ops ca : UInt32}
    {secret : Option SmcCmdRet} {needKill : Bool} {first : Round} {rest : List Round} {sent : Sent}
    (returned : smpSmcSend affi task cmd ops ca secret needKill (first :: rest) = some sent) :
    sent.task.cpuAffiMask = task.cpuAffiMask ↔
      task.cpuAffiMask = cpu0OnlyMask ∨
        secret.isSome = true ∧ first.exitReason ≠ smcExitPreempted ∧
          task.cpuAffiMask &&& affi.kernelCpuMask ≠ 0 := by
  unfold smpSmcSend at returned
  exact retryLoop_restores_iff returned

def fourCpus : TaskCpuAffi where
  kernelCpuMask := 15
  set := fun before mask => if mask &&& 15 = 0 then before else mask
  stores := fun _ _ some_ => if_neg some_
  refuses := fun _ _ none_ => if_pos none_
  cpuZero := by decide

def preemptedRound : Round :=
  { ret := 0, exitReason := smcExitPreempted, ta := 0, target := 0, sigkillPending := false
    threadReported := false }

def normalRound : Round :=
  { ret := 0, exitReason := smcExitNormal, ta := 0, target := 0, sigkillPending := false
    threadReported := false }

def emptySecret : SmcCmdRet := { exit := smcExitMax, ta := 0, target := 0 }

theorem smp_smc_send_restores_iff_one_round :
    ((smpSmcSend fourCpus ⟨7, 6⟩ tspRequest smcOpsSchedto 7 (some emptySecret) false
      [normalRound]).map fun sent => sent.task.cpuAffiMask) = some 6 := by
  cases returned : smpSmcSend fourCpus ⟨7, 6⟩ tspRequest smcOpsSchedto 7 (some emptySecret) false
      [normalRound] with
  | none => cases returned
  | some sent =>
      have restored := (smp_smc_send_restores_iff returned).mpr
        (Or.inr ⟨rfl, by decide, by decide⟩)
      exact congrArg some restored

/-- After one preempted round, and without a secret, a task of CPUs 1 and 2 stays on CPU 0. -/
theorem smp_smc_send_leaves_cpu_zero :
    ((smpSmcSend fourCpus ⟨7, 6⟩ tspRequest smcOpsSchedto 7 (some emptySecret) false
        [preemptedRound, normalRound]).map fun sent => sent.task.cpuAffiMask) = some 1 ∧
      ((smpSmcSend fourCpus ⟨7, 6⟩ tspRequest smcOpsSchedto 7 none false [normalRound]).map
        fun sent => sent.task.cpuAffiMask) = some 1 := by
  decide

end TzDriver.LiteOs
