/-
`smp_smc_send_func`, section by section, for any number of clients.

A client is one command: it keeps its number over the re-sends that follow a
`TEEC_PENDING` answer.  What power management, the SMC, the waiting and the
allocator do is the `Choice` of a step.
-/

import Mathlib.Logic.Function.Basic
import TzDriver.Lib.Runs
import TzDriver.Smc.Queue

namespace TzDriver.Smc

open TzDriver.Lib

/-- The operations of `enum smc_ops_exit` that the sender asks for. -/
inductive SmcOps where
  | normal
  | schedto
  | abortTask
deriving DecidableEq

/-- The exit reasons that `smp_smc_send_func` tells apart. -/
inductive SmcExit where
  | normal
  | abort
  | other
deriving DecidableEq

/-- How `proc_normal_exit` comes back before it looks at the slot again: a changed
affinity, a timeout without a timer irq, a pending SIGKILL, or anything else. -/
inductive Wait where
  | affinity
  | timeout
  | killed
  | woken
deriving DecidableEq

structure Choice where
  allocated : Bool
  rebooting : Bool
  poweredOn : Bool
  poweredDown : Bool
  crashed : Bool
  exit : SmcExit
  wait : Wait

/-- The locals of a call: `in`, `cmd`, `info`, `ops` and `pe`. -/
structure Call where
  input : SmcCmd
  cmd : SmcCmd
  cmdIndex : Nat
  savedIndex : Nat
  cmdUsage : CmdReuse
  ops : SmcOps
  pe : Nat

inductive Client where
  | idle
  | begins (input : SmcCmd) (reuse : Bool)
  | retry (call : Call)
  | occupying (call : Call) (retryCount : Nat)
  | filled (call : Call)
  | releasing (call : Call)
  | sending (call : Call)
  | sent (call : Call) (exit : SmcExit)
  | aborting (call : Call)
  | woken (call : Call)
  | done (call : Call)
  | cleaning (call : Call)
  | leaving (call : Call) (result : UInt32)
  -- returned `TEEC_PENDING`, and the caller has still to send again
  | waiting (input : SmcCmd)
  | returned (result : UInt32)

/-- `copied` records, for every response a client has copied out, the client and the
one it was written for. -/
structure State where
  slots : Nat → Slot
  pending : PendingHead
  clients : Nat → Client
  copied : List (Nat × Option Nat)

namespace State

variable (state : State)

def setSlot (index : Nat) (slot : Slot) : State :=
  { state with slots := Function.update state.slots index slot }

def setPending (pending : PendingHead) : State :=
  { state with pending := pending }

def goes (id : Nat) (client : Client) : State :=
  { state with clients := Function.update state.clients id client }

@[simp] theorem setPending_slots (pending : PendingHead) :
    (state.setPending pending).slots = state.slots := rfl

end State

/-! ### The sections of a call -/

section Sections

variable (config : Config) (choice : Choice) (state : State) (id : Nat)

/-- `init_for_smc_send` and the setup of `info`. -/
def beginsSection (input : SmcCmd) (reuse : Bool) : State :=
  if choice.allocated then
    let call : Call :=
      if reuse then
        { input := input, cmd := .zeroed, cmdIndex := input.eventNr.toNat
          savedIndex := input.eventNr.toNat, cmdUsage := .resend, ops := .normal
          pe := state.pending.count }
      else
        { input := input, cmd := input, cmdIndex := 0, savedIndex := 0, cmdUsage := .clear
          ops := .normal, pe := state.pending.count }
    (state.setPending state.pending.initPendingEntry).goes id (.retry call)
  else state.goes id (.returned teecErrorGeneric)

/-- The `retry` label and `smc_ops_normal`. -/
def retrySection (call : Call) : State :=
  if config.teeReboot && choice.rebooting && call.input.cmdId == globalCmdIdSetServeCmd then
    state.goes id (.returned teeErrorIsDead)
  else if call.ops = .normal then
    match call.cmdUsage with
    | .resend =>
        match (state.slots call.cmdIndex).reuseSmcInEntry with
        | some slot =>
            (state.setSlot call.cmdIndex slot).goes id
              (.sending { call with cmdIndex := call.savedIndex, cmdUsage := .clear })
        | none => state.goes id (.releasing call)
    | .clear => state.goes id (.occupying call 0)
  else state.goes id (.sending call)

/-- One pass of `occupy_free_smc_in_entry`. -/
def occupyingSection (call : Call) (retryCount : Nat) : State :=
  match (List.range config.maxSmcCmd).find? fun index => !(state.slots index).inBit with
  | some index =>
      (state.setSlot index ((state.slots index).occupySetbit id index call.cmd)).goes id
        (.filled { call with cmdIndex := index })
  | none =>
      if retryCount ≤ findSmcEntryRetryMaxCount then
        state.goes id (.occupying call (retryCount + 1))
      else state.goes id (.leaving call teecErrorGeneric)

def filledSection (call : Call) : State :=
  (state.setSlot call.cmdIndex (state.slots call.cmdIndex).finishEntry).goes id
    (.sending { call with savedIndex := call.cmdIndex })

def releasingSection (call : Call) : State :=
  (state.setSlot call.cmdIndex (state.slots call.cmdIndex).releaseSmcEntry).goes id
    (.leaving call teecErrorGeneric)

/-- `smp_smc_send_process`. -/
def sendingSection (call : Call) : State :=
  if !choice.poweredOn || !choice.poweredDown then
    state.goes id (.cleaning { call with cmd := { call.cmd with retVal := 0xFFFFFFFF } })
  else if choice.crashed then
    state.goes id (.cleaning { call with cmd := { call.cmd with retVal := teeErrorIsDead } })
  else state.goes id (.sent call choice.exit)

/-- `is_cmd_working_done` and the exit reason. -/
def sentSection (call : Call) (exit : SmcExit) : State :=
  if (state.slots call.cmdIndex).outBit then state.goes id (.done call)
  else
    match exit with
    | .normal =>
        match choice.wait with
        | .affinity | .timeout => state.goes id (.retry { call with ops := .schedto })
        | .killed => state.goes id (.aborting call)
        | .woken => state.goes id (.woken call)
    | .abort => state.goes id (.aborting call)
    | .other =>
        state.goes id (.cleaning { call with cmd := { call.cmd with retVal := teecErrorGeneric } })

/-- `process_abort_cmd`. -/
def abortingSection (call : Call) : State :=
  match (state.slots call.cmdIndex).setAbortCmd with
  | some slot => (state.setSlot call.cmdIndex slot).goes id (.retry { call with ops := .abortTask })
  | none => state.goes id (.retry { call with ops := .schedto })

/-- The second `is_cmd_working_done`, in `proc_ta_pending`. -/
def wokenSection (call : Call) : State :=
  if (state.slots call.cmdIndex).outBit then state.goes id (.done call)
  else state.goes id (.retry { call with ops := .schedto })

/-- `handle_cmd_working_done`. -/
def doneSection (call : Call) : State :=
  let slot := state.slots call.cmdIndex
  match slot.copySmcOutEntry with
  | none =>
      state.goes id (.cleaning { call with cmd := { call.cmd with retVal := teecErrorGeneric } })
  | some (usage, after) =>
      let copied := { state.setSlot call.cmdIndex after with
        copied := (id, slot.outFor) :: state.copied }
      if slot.out.retVal = teecPending2 then
        copied.goes id (.retry { call with cmd := slot.out, cmdUsage := usage, ops := .normal })
      else
        copied.goes id (.cleaning { call with input := slot.out, cmd := slot.out, cmdUsage := usage })

/-- `clean_smc_resrc` up to `release_pending_entry`. -/
def cleaningSection (call : Call) : State :=
  if call.cmdUsage ≠ .clear ∧ call.cmd.retVal ≠ teecPending then
    (state.setSlot call.cmdIndex (state.slots call.cmdIndex).releaseSmcEntry).goes id
      (.leaving call call.cmd.retVal)
  else state.goes id (.leaving call call.cmd.retVal)

/-- `release_pending_entry` and the return. -/
def leavingSection (call : Call) (result : UInt32) : State :=
  (state.setPending (state.pending.releasePendingEntry call.pe)).goes id
    (if result = teecPending then .waiting call.input else .returned result)

/-- One section of a client; `none` when it is not inside a call. -/
def clientStep : Option State :=
  match state.clients id with
  | .begins input reuse => some (beginsSection choice state id input reuse)
  | .retry call => some (retrySection config choice state id call)
  | .occupying call retryCount => some (occupyingSection config state id call retryCount)
  | .filled call => some (filledSection state id call)
  | .releasing call => some (releasingSection state id call)
  | .sending call => some (sendingSection choice state id call)
  | .sent call exit => some (sentSection choice state id call exit)
  | .aborting call => some (abortingSection state id call)
  | .woken call => some (wokenSection state id call)
  | .done call => some (doneSection state id call)
  | .cleaning call => some (cleaningSection state id call)
  | .leaving call result => some (leavingSection state id call result)
  | .idle | .waiting _ | .returned _ => none

end Sections

/-! ### The system -/

inductive Label where
  | call (id : Nat) (input : SmcCmd)
  | resend (id : Nat)
  | run (id : Nat) (choice : Choice)
  | take (index : Nat)
  | post (index : Nat) (request : Debt) (content : SmcCmd)
  | postKill (index : Nat) (request : Debt) (content : SmcCmd)
  | find (entry : Nat)
  | put (entry : Nat)

inductive State.Step (config : Config) : State → Label → State → Prop where
  | call {state : State} {id : Nat} {input : SmcCmd} (idle : state.clients id = .idle) :
      State.Step config state (.call id input) (state.goes id (.begins input false))
  | resend {state : State} {id : Nat} {input : SmcCmd} (waits : state.clients id = .waiting input) :
      State.Step config state (.resend id) (state.goes id (.begins input true))
  | run {state after : State} {id : Nat} {choice : Choice}
      (ran : clientStep config choice state id = some after) :
      State.Step config state (.run id choice) after
  | take {state : State} {index : Nat} (submitted : (state.slots index).inBit = true)
      (idle : (state.slots index).doingBit = false) :
      State.Step config state (.take index) (state.setSlot index (state.slots index).take)
  | post {state : State} {index : Nat} {request : Debt} {content : SmcCmd}
      (owed : request ∈ (state.slots index).owed) :
      State.Step config state (.post index request content)
        (state.setSlot index ((state.slots index).post request content))
  | postKill {state : State} {index : Nat} {request : Debt} {content : SmcCmd}
      (owed : request ∈ (state.slots index).owedKills) :
      State.Step config state (.postKill index request content)
        (state.setSlot index ((state.slots index).postKill request content))
  | find {state : State} {entry : Nat} (listed : entry ∈ state.pending.list) :
      State.Step config state (.find entry)
        (state.setPending (state.pending.findPendingEntry entry))
  | put {state : State} {entry : Nat} (visited : 0 < state.pending.visitors entry) :
      State.Step config state (.put entry)
        (state.setPending (state.pending.putPendingEntry entry))

def State.initial : State :=
  { slots := fun _ => .empty
    pending := { list := [], users := fun _ => 0, visitors := fun _ => 0, count := 0 }
    clients := fun _ => .idle
    copied := [] }

def smcMachine (config : Config) : Machine State Label :=
  { init := fun state => state = .initial
    step := State.Step config }

end TzDriver.Smc
