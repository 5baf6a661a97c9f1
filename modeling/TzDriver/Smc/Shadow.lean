/-
Shadow threads (`shadow_work_func`, `shadow_thread_fn` and the wake-ups of
`linux/core/smc_smp.c`).

A shadow thread lends its time to a thread of the TEE.  The model keeps, newest first, the
requests, the answers of the TEE, the waits that ran out of time and the wake-ups; the driver
keeps none of them.
-/

import Mathlib.Data.UInt
import TzDriver.Lib.Runs
import TzDriver.Platform

namespace TzDriver.Smc

open TzDriver.Lib

def idledCount : Nat := 100
def shadowExitRun : Int := 0x1234dead
def tspCrash : UInt64 := 0xB200000B

def smcExitNormal : UInt64 := 0
def smcExitPreempted : UInt64 := 1
/-- `SMC_EXIT_MAX`; 4 where there is no `SMC_EXIT_CRASH`. -/
def smcExitMax : UInt64 := 5

/-- `SMC_OPS_SCHEDTO`, `SMC_OPS_START_SHADOW` and `SMC_OPS_PROBE_ALIVE`. -/
inductive ShadowOps where
  | schedto
  | startShadow
  | probeAlive
deriving DecidableEq, Repr

/-- `struct smc_in_params`; `x0` is `TSP_REQUEST` and `x2` the pid of the thread. -/
structure SmcInParams where
  x1 : ShadowOps
  x3 : UInt64
  x4 : UInt64
deriving DecidableEq, Repr

structure SmcOutParams where
  ret : UInt64
  exitReason : UInt64
  ta : UInt64
  target : UInt64
deriving DecidableEq, Repr

inductive ShadowEvent where
  | request (inParams : SmcInParams)
  | answer (outParams : SmcOutParams)
  /-- `wait_event_freezable_timeout` returned 0 -/
  | timeout
  /-- a value was written to `pe->run` by another thread -/
  | wake (which : Int)
deriving DecidableEq, Repr

/-- Where a shadow thread is; `retryWoPm` is before `shadow_wo_pm`, `reset` between the test of
`pe->run` and its reset. -/
inductive ShadowPc where
  | queued
  | created
  | retry
  | retryWoPm
  | inTee
  | waiting
  | woken
  | reset
  | ended
deriving DecidableEq, Repr

/-- `arg` counts the blocks that hold the target, `powered` the successes of `power_on_cc` less
the calls of `power_down_cc`, and `listed` tells that `pe` is on the list of pending entries. -/
structure Shadow where
  pc : ShadowPc
  target : UInt64
  params : SmcOutParams
  nIdled : Nat
  run : Int
  listed : Bool
  arg : Int
  powered : Int
  trace : List ShadowEvent
deriving DecidableEq, Repr

/-- What one step of the thread meets. -/
structure ShadowWorld where
  kzalloc : Bool
  kthreadCreate : Bool
  initPendingEntry : Bool
  powerOnCc : Int
  powerDownCc : Int
  answer : SmcOutParams
  timedOut : Bool

def setShadowSmcParam (inParams : SmcInParams) (outParams : SmcOutParams) (nIdled : Nat) :
    SmcInParams × Nat :=
  if outParams.exitReason = smcExitPreempted then
    (⟨.schedto, outParams.ta, outParams.target⟩, nIdled)
  else if outParams.exitReason = smcExitNormal then
    if idledCount < nIdled then (⟨.probeAlive, 0, 0⟩, 0) else (⟨.schedto, 0, 0⟩, nIdled)
  else (inParams, nIdled)

namespace Shadow

variable (shadow : Shadow)

def initial (target : UInt64) : Shadow :=
  ⟨.queued, target, ⟨0, smcExitMax, 0, 0⟩, 0, 0, false, 0, 0, []⟩

def log (event : ShadowEvent) : Shadow := { shadow with trace := event :: shadow.trace }

def kfreeArg : Shadow := { shadow with arg := shadow.arg - 1 }

def powerDown : Shadow := { shadow with powered := shadow.powered - 1 }

def cleanWoPm : Shadow := { shadow.kfreeArg with listed := false, pc := .ended }

/-- `shadow_work_func` as far as the thread is concerned. -/
def shadowWorkFunc (world : ShadowWorld) : Shadow :=
  if world.kzalloc = false then { shadow with pc := .ended }
  else
    let target := { shadow with arg := shadow.arg + 1 }
    if world.kthreadCreate = false then { target.kfreeArg with pc := .ended }
    else { target with pc := .created }

def begin (world : ShadowWorld) : Shadow :=
  if world.initPendingEntry = false then { shadow.kfreeArg with pc := .ended }
  else { shadow with listed := true, run := 0, pc := .retry }

def powerOn (world : ShadowWorld) : Shadow :=
  if world.powerOnCc ≠ 0 then shadow.cleanWoPm
  else { shadow with powered := shadow.powered + 1, pc := .retryWoPm }

/-- `shadow_wo_pm` up to the SMC. -/
def shadowWoPm : Shadow :=
  let param := setShadowSmcParam ⟨.startShadow, 0, shadow.target⟩ shadow.params shadow.nIdled
  { shadow.log (.request param.1) with nIdled := param.2, pc := .inTee }

/-- `shadow_thread_fn` after the SMC, with the beginning of `proc_shadow_thread_normal_exit`. -/
def answered (world : ShadowWorld) : Shadow :=
  let got := { shadow.log (.answer world.answer) with params := world.answer }
  if world.answer.ret = tspCrash then got.powerDown.cleanWoPm
  else if world.answer.exitReason = smcExitPreempted then
    { got with nIdled := 0, pc := .retryWoPm }
  else if world.answer.exitReason = smcExitNormal then
    if world.powerDownCc ≠ 0 then got.powerDown.cleanWoPm
    else { got.powerDown with pc := .waiting }
  else got.powerDown.cleanWoPm

/-- `wait_event_freezable_timeout`; `none` while it waits. -/
def wait (world : ShadowWorld) : Option Shadow :=
  if shadow.run ≠ 0 then some { shadow with pc := .woken }
  else if world.timedOut then
    some { shadow.log .timeout with nIdled := shadow.nIdled + 1, pc := .woken }
  else none

def thread (world : ShadowWorld) : Option Shadow :=
  match shadow.pc with
  | .queued => some (shadow.shadowWorkFunc world)
  | .created => some (shadow.begin world)
  | .retry => some (shadow.powerOn world)
  | .retryWoPm => some shadow.shadowWoPm
  | .inTee => some (shadow.answered world)
  | .waiting => shadow.wait world
  | .woken =>
      if shadow.run = shadowExitRun then some shadow.cleanWoPm
      else some { shadow with pc := .reset }
  | .reset => some { shadow with run := 0, pc := .retry }
  | .ended => none

/-- `proc_smc_wakeup_ca` for the pid of the thread, and `wakeup_pe`.  A thread whose entry is
not on the list is not found. -/
def procSmcWakeupCa (which : Int) : Shadow :=
  if shadow.listed = false then shadow else { shadow.log (.wake which) with run := which }

end Shadow

/-- `wakeup` is `smc_wakeup_ca` or `smc_wakeup_broadcast`. -/
inductive ShadowLabel where
  | thread (world : ShadowWorld)
  | wakeup
  | smcShadowExit

def Shadow.exec (shadow : Shadow) : ShadowLabel → Option Shadow
  | .thread world => shadow.thread world
  | .wakeup => some (shadow.procSmcWakeupCa 1)
  | .smcShadowExit => some (shadow.procSmcWakeupCa shadowExitRun)

def shadowMachine : Machine Shadow ShadowLabel :=
  { init := fun shadow => ∃ target, shadow = .initial target
    step := fun before label after => before.exec label = some after }

/-! ### What the TEE is promised -/

def lastAnswer : List ShadowEvent → Option SmcOutParams
  | [] => none
  | .answer outParams :: _ => some outParams
  | _ :: older => lastAnswer older

/-- The waits that ran out of time since the last preemption or probe. -/
def idleWaits : List ShadowEvent → Nat
  | [] => 0
  | .timeout :: older => idleWaits older + 1
  | .answer outParams :: older =>
      if outParams.exitReason = smcExitPreempted then 0 else idleWaits older
  | .request inParams :: older => if inParams.x1 = .probeAlive then 0 else idleWaits older
  | .wake _ :: older => idleWaits older

/-- The request that what has happened calls for: the shadow is started once, a preempted thread
of the TEE is resumed where it was, and a TEE that has nothing to do is asked whether it lives
once in a while. -/
def nextRequest (target : UInt64) (trace : List ShadowEvent) : SmcInParams :=
  match lastAnswer trace with
  | none => ⟨.startShadow, 0, target⟩
  | some outParams =>
      if outParams.exitReason = smcExitPreempted then
        ⟨.schedto, outParams.ta, outParams.target⟩
      else if idledCount < idleWaits trace then ⟨.probeAlive, 0, 0⟩
      else ⟨.schedto, 0, 0⟩

def Follows (target : UInt64) : List ShadowEvent → Prop
  | [] => True
  | .request inParams :: older =>
      inParams = nextRequest target older ∧ Follows target older
  | _ :: older => Follows target older

/-! ### What a shadow thread holds -/

/-- The power, the block with the target and the place on the list. -/
structure ShadowHeld where
  powered : Int
  arg : Int
  listed : Bool
deriving DecidableEq, Repr

def ShadowPc.held : ShadowPc → ShadowHeld
  | .queued => ⟨0, 0, false⟩
  | .created => ⟨0, 1, false⟩
  | .retryWoPm => ⟨1, 1, true⟩
  | .inTee => ⟨1, 1, true⟩
  | .ended => ⟨0, 0, false⟩
  | _ => ⟨0, 1, true⟩

namespace Shadow

variable {shadow after : Shadow}

def held (shadow : Shadow) : ShadowHeld := ⟨shadow.powered, shadow.arg, shadow.listed⟩

/-- What the thread holds is told by where it is. -/
def Balanced (shadow : Shadow) : Prop := shadow.held = shadow.pc.held

theorem cleanWoPm_balanced {powered : Int} {listed : Bool} (held : shadow.held = ⟨powered, 1, listed⟩)
    (down : powered = 0) : shadow.cleanWoPm.Balanced := by
  have fields := ShadowHeld.mk.inj held
  show ShadowHeld.mk shadow.powered (shadow.arg - 1) false = ⟨0, 0, false⟩
  rw [fields.1, fields.2.1, down]
  rfl

theorem powerDown_held {arg : Int} {listed : Bool} (held : shadow.held = ⟨1, arg, listed⟩) :
    shadow.powerDown.held = ⟨0, arg, listed⟩ := by
  have fields := ShadowHeld.mk.inj held
  show ShadowHeld.mk (shadow.powered - 1) shadow.arg shadow.listed = _
  rw [fields.1, fields.2.1, fields.2.2]
  rfl

theorem answered_balanced (held : shadow.held = ShadowPc.inTee.held) (world : ShadowWorld) :
    (shadow.answered world).Balanced := by
  let got : Shadow := { shadow.log (.answer world.answer) with params := world.answer }
  have gotHeld : got.held = ⟨1, 1, true⟩ := held
  have down : got.powerDown.held = ⟨0, 1, true⟩ := powerDown_held gotHeld
  unfold answered
  dsimp only
  split
  · exact cleanWoPm_balanced down rfl
  · split
    · exact gotHeld
    · split
      · split
        · exact cleanWoPm_balanced down rfl
        · exact down
      · exact cleanWoPm_balanced down rfl

theorem thread_balanced (balanced : shadow.Balanced) {world : ShadowWorld}
    (taken : shadow.thread world = some after) : after.Balanced := by
  unfold Balanced at balanced
  unfold thread at taken
  cases at_ : shadow.pc with
  | queued =>
      rw [at_] at balanced taken
      have fields := ShadowHeld.mk.inj balanced
      cases taken
      unfold shadowWorkFunc
      split
      · exact balanced
      · dsimp only
        split
        · show ShadowHeld.mk shadow.powered (shadow.arg + 1 - 1) shadow.listed = ⟨0, 0, false⟩
          rw [fields.1, fields.2.1, fields.2.2]
          rfl
        · show ShadowHeld.mk shadow.powered (shadow.arg + 1) shadow.listed = ⟨0, 1, false⟩
          rw [fields.1, fields.2.1, fields.2.2]
          rfl
  | created =>
      rw [at_] at balanced taken
      have fields := ShadowHeld.mk.inj balanced
      cases taken
      unfold Shadow.begin
      split
      · show ShadowHeld.mk shadow.powered (shadow.arg - 1) shadow.listed = ⟨0, 0, false⟩
        rw [fields.1, fields.2.1, fields.2.2]
        rfl
      · show ShadowHeld.mk shadow.powered shadow.arg true = ⟨0, 1, true⟩
        rw [fields.1, fields.2.1]
  | retry =>
      rw [at_] at balanced taken
      have fields := ShadowHeld.mk.inj balanced
      cases taken
      unfold powerOn
      split
      · exact cleanWoPm_balanced balanced rfl
      · show ShadowHeld.mk (shadow.powered + 1) shadow.arg shadow.listed = ⟨1, 1, true⟩
        rw [fields.1, fields.2.1, fields.2.2]
        rfl
  | retryWoPm =>
      rw [at_] at balanced taken
      cases taken
      exact balanced
  | inTee =>
      rw [at_] at balanced taken
      cases taken
      exact answered_balanced balanced world
  | waiting =>
      rw [at_] at balanced taken
      simp only [wait] at taken
      split at taken
      · cases taken
        exact balanced
      · split at taken
        · cases taken
          exact balanced
        · cases taken
  | woken =>
      rw [at_] at balanced taken
      simp only at taken
      split at taken
      · cases taken
        exact cleanWoPm_balanced balanced rfl
      · cases taken
        exact balanced
  | reset =>
      rw [at_] at balanced taken
      cases taken
      exact balanced
  | ended =>
      rw [at_] at taken
      cases taken

theorem procSmcWakeupCa_balanced (balanced : shadow.Balanced) (which : Int) :
    (shadow.procSmcWakeupCa which).Balanced := by
  unfold procSmcWakeupCa
  split
  · exact balanced
  · exact balanced

theorem Balanced.of_reachable (reached : shadowMachine.Reachable shadow) : shadow.Balanced := by
  apply reached.invariant
  · rintro _ ⟨target, rfl⟩
    rfl
  · intro before label after balanced taken
    cases label with
    | thread world => exact thread_balanced balanced taken
    | wakeup =>
        cases taken
        exact procSmcWakeupCa_balanced balanced 1
    | smcShadowExit =>
        cases taken
        exact procSmcWakeupCa_balanced balanced shadowExitRun

end Shadow

/-! ### What a shadow thread asks for -/

def ShadowPc.goesOn : ShadowPc → Bool
  | .inTee => false
  | .ended => false
  | _ => true

namespace Shadow

variable {shadow after : Shadow}

/-- The variables of the thread tell what its requests depend on. -/
structure Protocol (shadow : Shadow) : Prop where
  unstarted : lastAnswer shadow.trace = none → shadow.params.exitReason = smcExitMax
  params : ∀ outParams, lastAnswer shadow.trace = some outParams → shadow.params = outParams
  reason : shadow.pc.goesOn = true → ∀ outParams, lastAnswer shadow.trace = some outParams →
    outParams.exitReason = smcExitPreempted ∨ outParams.exitReason = smcExitNormal
  idled : shadow.pc ≠ .ended → shadow.nIdled = idleWaits shadow.trace
  follows : Follows shadow.target shadow.trace

theorem Protocol.move (protocol : shadow.Protocol) (going : shadow.pc.goesOn = true)
    (trace : after.trace = shadow.trace) (params : after.params = shadow.params)
    (nIdled : after.nIdled = shadow.nIdled) (target : after.target = shadow.target) :
    after.Protocol := by
  constructor
  · rw [trace, params]
    exact protocol.unstarted
  · rw [trace, params]
    exact protocol.params
  · rw [trace]
    exact fun _ => protocol.reason going
  · rw [trace, nIdled]
    intro _
    apply protocol.idled
    intro ended
    rw [ended] at going
    cases going
  · rw [trace, target]
    exact protocol.follows

theorem setShadowSmcParam_eq (protocol : shadow.Protocol) (before : shadow.pc = .retryWoPm) :
    setShadowSmcParam ⟨.startShadow, 0, shadow.target⟩ shadow.params shadow.nIdled =
      (nextRequest shadow.target shadow.trace,
        if (nextRequest shadow.target shadow.trace).x1 = .probeAlive then 0
        else idleWaits shadow.trace) := by
  have idled : shadow.nIdled = idleWaits shadow.trace :=
    protocol.idled (by rw [before]; exact ShadowPc.noConfusion)
  have reason := protocol.reason (by rw [before]; rfl)
  cases last : lastAnswer shadow.trace with
  | none =>
      have next : nextRequest shadow.target shadow.trace = ⟨.startShadow, 0, shadow.target⟩ := by
        rw [nextRequest, last]
      have other : smcExitMax ≠ smcExitPreempted ∧ smcExitMax ≠ smcExitNormal := by decide
      rw [next, setShadowSmcParam, protocol.unstarted last, if_neg other.1, if_neg other.2, idled]
      rfl
  | some outParams =>
      have params := protocol.params outParams last
      rcases reason outParams last with preempted | normal
      · have next : nextRequest shadow.target shadow.trace =
            ⟨.schedto, outParams.ta, outParams.target⟩ := by
          rw [nextRequest, last]
          exact if_pos preempted
        rw [next, setShadowSmcParam, params, if_pos preempted, idled]
        rfl
      · have other : outParams.exitReason ≠ smcExitPreempted := by
          rw [normal]
          decide
        have next : nextRequest shadow.target shadow.trace =
            if idledCount < idleWaits shadow.trace then ⟨.probeAlive, 0, 0⟩
            else ⟨.schedto, 0, 0⟩ := by
          rw [nextRequest, last]
          exact if_neg other
        rw [next, setShadowSmcParam, params, if_neg other, if_pos normal, idled]
        by_cases probe : idledCount < idleWaits shadow.trace
        · rw [if_pos probe, if_pos probe]
          rfl
        · rw [if_neg probe, if_neg probe]
          rfl

theorem shadowWoPm_protocol (protocol : shadow.Protocol) (before : shadow.pc = .retryWoPm) :
    shadow.shadowWoPm.Protocol := by
  unfold shadowWoPm
  rw [setShadowSmcParam_eq protocol before]
  constructor
  · exact protocol.unstarted
  · exact protocol.params
  · rintro ⟨⟩
  · intro _
    rfl
  · exact ⟨rfl, protocol.follows⟩

theorem answered_protocol (protocol : shadow.Protocol) (before : shadow.pc = .inTee)
    (world : ShadowWorld) : (shadow.answered world).Protocol := by
  have idled : shadow.nIdled = idleWaits shadow.trace :=
    protocol.idled (by rw [before]; exact ShadowPc.noConfusion)
  have last : ∀ outParams,
      lastAnswer (.answer world.answer :: shadow.trace) = some outParams →
        world.answer = outParams := fun _ => Option.some.inj
  have ends : ∀ other : Shadow, other.trace = .answer world.answer :: shadow.trace →
      other.params = world.answer → other.target = shadow.target →
        other.cleanWoPm.Protocol := by
    intro other trace params target
    constructor
    · show lastAnswer other.trace = none → _
      rw [trace]
      rintro ⟨⟩
    · show ∀ outParams, lastAnswer other.trace = some outParams → other.params = outParams
      rw [trace, params]
      exact last
    · rintro ⟨⟩
    · exact fun notEnded => absurd rfl notEnded
    · show Follows other.target other.trace
      rw [trace, target]
      exact protocol.follows
  unfold answered
  dsimp only
  split
  · exact ends _ rfl rfl rfl
  · split
    · next preempted =>
        constructor
        · rintro ⟨⟩
        · exact last
        · intro _ outParams same
          rw [← last outParams same]
          exact .inl preempted
        · intro _
          show 0 = idleWaits (.answer world.answer :: shadow.trace)
          rw [idleWaits, if_pos preempted]
        · exact protocol.follows
    · next other =>
        split
        · next normal =>
            split
            · exact ends _ rfl rfl rfl
            · constructor
              · rintro ⟨⟩
              · exact last
              · intro _ outParams same
                rw [← last outParams same]
                exact .inr normal
              · intro _
                show shadow.nIdled = idleWaits (.answer world.answer :: shadow.trace)
                rw [idleWaits, if_neg other, idled]
              · exact protocol.follows
        · exact ends _ rfl rfl rfl

theorem wait_protocol (protocol : shadow.Protocol) (before : shadow.pc = .waiting)
    {world : ShadowWorld} (taken : shadow.wait world = some after) : after.Protocol := by
  have going : shadow.pc.goesOn = true := by
    rw [before]
    rfl
  unfold wait at taken
  split at taken
  · cases taken
    exact protocol.move going rfl rfl rfl rfl
  · split at taken
    · cases taken
      constructor
      · exact protocol.unstarted
      · exact protocol.params
      · exact fun _ => protocol.reason going
      · intro _
        show shadow.nIdled + 1 = idleWaits shadow.trace + 1
        rw [protocol.idled (by rw [before]; exact ShadowPc.noConfusion)]
      · exact protocol.follows
    · cases taken

theorem thread_protocol (protocol : shadow.Protocol) {world : ShadowWorld}
    (taken : shadow.thread world = some after) : after.Protocol := by
  have moves := @Protocol.move shadow
  unfold thread at taken
  cases before : shadow.pc with
  | queued =>
      rw [before] at taken
      cases taken
      unfold shadowWorkFunc
      split
      · exact moves protocol (by rw [before]; rfl) rfl rfl rfl rfl
      · dsimp only
        split
        · exact moves protocol (by rw [before]; rfl) rfl rfl rfl rfl
        · exact moves protocol (by rw [before]; rfl) rfl rfl rfl rfl
  | created =>
      rw [before] at taken
      cases taken
      unfold Shadow.begin
      split
      · exact moves protocol (by rw [before]; rfl) rfl rfl rfl rfl
      · exact moves protocol (by rw [before]; rfl) rfl rfl rfl rfl
  | retry =>
      rw [before] at taken
      cases taken
      unfold powerOn
      split
      · exact moves protocol (by rw [before]; rfl) rfl rfl rfl rfl
      · exact moves protocol (by rw [before]; rfl) rfl rfl rfl rfl
  | retryWoPm =>
      rw [before] at taken
      cases taken
      exact shadowWoPm_protocol protocol before
  | inTee =>
      rw [before] at taken
      cases taken
      exact answered_protocol protocol before world
  | waiting =>
      rw [before] at taken
      exact wait_protocol protocol before taken
  | woken =>
      rw [before] at taken
      dsimp only at taken
      split at taken
      · cases taken
        exact moves protocol (by rw [before]; rfl) rfl rfl rfl rfl
      · cases taken
        exact moves protocol (by rw [before]; rfl) rfl rfl rfl rfl
  | reset =>
      rw [before] at taken
      cases taken
      exact moves protocol (by rw [before]; rfl) rfl rfl rfl rfl
  | ended =>
      rw [before] at taken
      cases taken

theorem procSmcWakeupCa_protocol (protocol : shadow.Protocol) (which : Int) :
    (shadow.procSmcWakeupCa which).Protocol := by
  unfold procSmcWakeupCa
  split
  · exact protocol
  · exact ⟨protocol.unstarted, protocol.params, protocol.reason, protocol.idled,
      protocol.follows⟩

theorem initial_protocol (target : UInt64) : (initial target).Protocol := by
  constructor
  · intro _
    rfl
  · rintro outParams ⟨⟩
  · rintro _ outParams ⟨⟩
  · intro _
    rfl
  · exact trivial

theorem Protocol.of_reachable (reached : shadowMachine.Reachable shadow) : shadow.Protocol := by
  apply reached.invariant
  · rintro _ ⟨target, rfl⟩
    exact initial_protocol target
  · intro before label after protocol taken
    cases label with
    | thread world => exact thread_protocol protocol taken
    | wakeup =>
        cases taken
        exact procSmcWakeupCa_protocol protocol 1
    | smcShadowExit =>
        cases taken
        exact procSmcWakeupCa_protocol protocol shadowExitRun

end Shadow

/-- Whatever the TEE answers and whoever wakes the thread: every request is the one that the
history calls for, the power is on in the TEE and off while the thread waits, and a thread that
has ended has given back its power, its block and its place on the list, each once. -/
theorem shadow_requests_follow {shadow : Shadow} (reached : shadowMachine.Reachable shadow) :
    Follows shadow.target shadow.trace ∧
      (shadow.pc = .inTee → shadow.powered = 1) ∧ (shadow.pc = .waiting → shadow.powered = 0) ∧
      (shadow.pc = .ended → shadow.powered = 0 ∧ shadow.arg = 0 ∧ shadow.listed = false) := by
  have balanced := Shadow.Balanced.of_reachable reached
  unfold Shadow.Balanced at balanced
  constructor
  · exact (Shadow.Protocol.of_reachable reached).follows
  · constructor
    · intro inTee
      rw [inTee] at balanced
      exact (ShadowHeld.mk.inj balanced).1
    · constructor
      · intro waiting
        rw [waiting] at balanced
        exact (ShadowHeld.mk.inj balanced).1
      · intro ended
        rw [ended] at balanced
        exact ShadowHeld.mk.inj balanced

/-- The thread is started, the TEE is preempted once and then has nothing to do. -/
def shadowSleeps : List ShadowLabel :=
  let works (answer : SmcOutParams) : ShadowLabel := .thread ⟨true, true, true, 0, 0, answer, false⟩
  let idle : SmcOutParams := ⟨0, smcExitNormal, 0, 0⟩
  [works idle, works idle, works idle, works idle, works ⟨0, smcExitPreempted, 3, 9⟩, works idle,
    works idle]

def shadowExits : List ShadowLabel :=
  let idle : ShadowLabel := .thread ⟨true, true, true, 0, 0, ⟨0, smcExitNormal, 0, 0⟩, false⟩
  shadowSleeps ++ [.wakeup, idle, idle, idle, idle, idle, .smcShadowExit, idle, idle, idle]

def shadowRequests (trace : List ShadowEvent) : List SmcInParams :=
  trace.filterMap fun event =>
    match event with
    | .request inParams => some inParams
    | _ => none

/-- A new request, the resumption of the preempted thread, and the start for the target 7. -/
def exitedRequests : List SmcInParams :=
  [⟨.schedto, 0, 0⟩, ⟨.schedto, 3, 9⟩, ⟨.startShadow, 0, 7⟩]

theorem shadow_reached {test : Shadow → Bool} {labels : List ShadowLabel}
    (ran : (Machine.replay Shadow.exec (.initial 7) labels).map test = some true) :
    ∃ shadow, shadowMachine.Reachable shadow ∧ test shadow = true := by
  have sound : ∀ before label after, before.exec label = some after →
      shadowMachine.step before label after := fun _ _ _ ran => ran
  have booted : shadowMachine.Reachable (.initial 7) := .start ⟨7, rfl⟩
  exact Machine.Reachable.exists_of_replay sound booted ran

theorem shadow_requests_follow_exit :
    ∃ shadow : Shadow, shadow.pc = .ended ∧ shadowRequests shadow.trace = exitedRequests ∧
      Follows shadow.target shadow.trace ∧
        (shadow.pc = .inTee → shadow.powered = 1) ∧ (shadow.pc = .waiting → shadow.powered = 0) ∧
        (shadow.pc = .ended → shadow.powered = 0 ∧ shadow.arg = 0 ∧ shadow.listed = false) := by
  have ran : (Machine.replay Shadow.exec (.initial 7) shadowExits).map (fun shadow =>
      decide (shadow.pc = .ended ∧ shadowRequests shadow.trace = exitedRequests)) =
        some true := by decide
  obtain ⟨shadow, reached, passed⟩ := shadow_reached ran
  obtain ⟨ended, requests⟩ := of_decide_eq_true passed
  exact ⟨shadow, ended, requests, shadow_requests_follow reached⟩

end TzDriver.Smc
