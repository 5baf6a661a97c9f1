/-
Wake-ups of shadow threads (`proc_smc_wakeup_ca` and `wakeup_pe` of `linux/core/smc_smp.c`).

A wake-up and the order to exit are two values of one word, `pe->run`, that other threads write
at any time and the thread itself resets.
-/

import TzDriver.Lib.Runs
import TzDriver.Smc.Shadow

namespace TzDriver.Smc

open TzDriver.Lib

/-! ### Wake-ups -/

/-- Whether a wake-up has come since the last request. -/
def wakeOutstanding : List ShadowEvent → Bool
  | [] => false
  | .wake _ :: _ => true
  | .request _ :: _ => false
  | _ :: older => wakeOutstanding older

/-- From a request to the test of `pe->run`. -/
def ShadowPc.watches : ShadowPc → Bool
  | .inTee => true
  | .waiting => true
  | .woken => true
  | _ => false

namespace Shadow

variable {shadow after : Shadow}

/-- A wake-up that has come since the request is visible. -/
def Awake (shadow : Shadow) : Prop :=
  shadow.pc.watches = true → wakeOutstanding shadow.trace = true → shadow.run ≠ 0

theorem Awake.of_other (other : shadow.pc.watches = false) : shadow.Awake := by
  intro watches
  rw [other] at watches
  cases watches

theorem Awake.later (awake : shadow.Awake) (before : shadow.pc.watches = true)
    (trace : wakeOutstanding after.trace = wakeOutstanding shadow.trace)
    (run : after.run = shadow.run) : after.Awake := by
  intro _ out
  rw [run]
  rw [trace] at out
  exact awake before out

theorem answered_awake (awake : shadow.Awake) (before : shadow.pc = .inTee)
    (world : ShadowWorld) : (shadow.answered world).Awake := by
  have inTee : shadow.pc.watches = true := by
    rw [before]
    rfl
  unfold answered
  dsimp only
  split
  · exact awake.later inTee rfl rfl
  · split
    · exact awake.later inTee rfl rfl
    · split
      · split
        · exact awake.later inTee rfl rfl
        · exact awake.later inTee rfl rfl
      · exact awake.later inTee rfl rfl

theorem thread_awake (awake : shadow.Awake) {world : ShadowWorld}
    (taken : shadow.thread world = some after) : after.Awake := by
  unfold thread at taken
  cases before : shadow.pc with
  | queued =>
      rw [before] at taken
      cases taken
      unfold shadowWorkFunc
      split
      · exact .of_other rfl
      · dsimp only
        split
        · exact .of_other rfl
        · exact .of_other rfl
  | created =>
      rw [before] at taken
      cases taken
      unfold Shadow.begin
      split
      · exact .of_other rfl
      · exact .of_other rfl
  | retry =>
      rw [before] at taken
      cases taken
      unfold powerOn
      split
      · exact .of_other rfl
      · exact .of_other rfl
  | retryWoPm =>
      rw [before] at taken
      cases taken
      rintro _ ⟨⟩
  | inTee =>
      rw [before] at taken
      cases taken
      exact answered_awake awake before world
  | waiting =>
      rw [before] at taken
      simp only [wait] at taken
      split at taken
      · cases taken
        exact awake.later (by rw [before]; rfl) rfl rfl
      · split at taken
        · cases taken
          exact awake.later (by rw [before]; rfl) rfl rfl
        · cases taken
  | woken =>
      rw [before] at taken
      dsimp only at taken
      split at taken
      · cases taken
        exact .of_other rfl
      · cases taken
        exact .of_other rfl
  | reset =>
      rw [before] at taken
      cases taken
      exact .of_other rfl
  | ended =>
      rw [before] at taken
      cases taken

theorem procSmcWakeupCa_awake (awake : shadow.Awake) {which : Int} (nonzero : which ≠ 0) :
    (shadow.procSmcWakeupCa which).Awake := by
  unfold procSmcWakeupCa
  split
  · exact awake
  · exact fun _ _ => nonzero

theorem Awake.of_reachable (reached : shadowMachine.Reachable shadow) : shadow.Awake := by
  apply reached.invariant
  · rintro _ ⟨target, rfl⟩
    exact .of_other rfl
  · intro before label after awake taken
    cases label with
    | thread world => exact thread_awake awake taken
    | wakeup =>
        cases taken
        exact procSmcWakeupCa_awake awake (by decide)
    | smcShadowExit =>
        cases taken
        exact procSmcWakeupCa_awake awake (by decide)

end Shadow

/-- No wake-up is slept through: a thread that is asleep has been in the TEE since the last
one. -/
theorem shadow_wakes_served {shadow : Shadow} (reached : shadowMachine.Reachable shadow)
    (waiting : shadow.pc = .waiting) (asleep : shadow.run = 0) :
    wakeOutstanding shadow.trace = false := by
  have awake := Shadow.Awake.of_reachable reached (by rw [waiting]; rfl)
  cases out : wakeOutstanding shadow.trace with
  | false => rfl
  | true => exact absurd asleep (awake out)

/-- The thread of `shadowSleeps` is woken, and woken again while it is in the TEE; then it
sleeps. -/
def shadowWokenTwice : List ShadowLabel :=
  let idle : ShadowLabel := .thread ⟨true, true, true, 0, 0, ⟨0, smcExitNormal, 0, 0⟩, false⟩
  shadowSleeps ++ [.wakeup] ++ List.replicate 5 idle ++ [.wakeup] ++ List.replicate 7 idle

theorem shadow_wakes_served_woken_twice :
    ∃ shadow : Shadow, shadow.pc = .waiting ∧ shadow.trace.count (.wake 1) = 2 ∧
      wakeOutstanding shadow.trace = false := by
  have ran : (Machine.replay Shadow.exec (.initial 7) shadowWokenTwice).map (fun shadow =>
      decide (shadow.pc = .waiting ∧ shadow.run = 0 ∧ shadow.trace.count (.wake 1) = 2)) =
        some true := by
    decide
  obtain ⟨shadow, reached, passed⟩ := shadow_reached ran
  obtain ⟨waiting, asleep, woken⟩ := of_decide_eq_true passed
  exact ⟨shadow, waiting, woken, shadow_wakes_served reached waiting asleep⟩

/-! ### The order to exit -/

def exitOrdered : List ShadowEvent → Bool
  | [] => false
  | .wake which :: older => decide (which = shadowExitRun) || exitOrdered older
  | _ :: older => exitOrdered older

/-- Whether the TEE has had nothing more to do since then. -/
def returnedSince : List ShadowEvent → Bool
  | [] => false
  | .answer outParams :: older =>
      returnedSince older || exitOrdered older && decide (outParams.exitReason = smcExitNormal)
  | _ :: older => returnedSince older

/-- The thread does not go to the TEE again. -/
def Obeys : List ShadowEvent → Prop
  | [] => True
  | .request _ :: older => returnedSince older = false ∧ Obeys older
  | _ :: older => Obeys older

/-- An order to exit is one value of `pe->run` among others: it is overwritten by a later
wake-up, and by the reset where it comes after the test. -/
def Shadow.Undisturbed (shadow : Shadow) : ShadowLabel → Prop
  | .wakeup => exitOrdered shadow.trace = false
  | .smcShadowExit => shadow.pc ≠ .reset
  | .thread _ => True

def ShadowPc.starts : ShadowPc → Bool
  | .queued => true
  | .created => true
  | _ => false

/-- Where a thread is that does not go back to the TEE once it sees the order. -/
def ShadowPc.leaves : ShadowPc → Bool
  | .waiting => true
  | .woken => true
  | .ended => true
  | _ => false

namespace Shadow

variable {shadow after : Shadow}

structure Obedient (shadow : Shadow) : Prop where
  fresh : shadow.pc.starts = true → shadow.trace = []
  seen : exitOrdered shadow.trace = true → shadow.run = shadowExitRun ∧ shadow.pc ≠ .reset
  returned : returnedSince shadow.trace = true → shadow.pc.leaves = true
  obeys : Obeys shadow.trace

theorem exitOrdered_of_returned {trace : List ShadowEvent} (returned : returnedSince trace = true) :
    exitOrdered trace = true := by
  induction trace with
  | nil => cases returned
  | cons event older ih =>
      cases event with
      | answer outParams =>
          rw [returnedSince, Bool.or_eq_true, Bool.and_eq_true] at returned
          rcases returned with before | now
          · exact ih before
          · exact now.1
      | wake which =>
          rw [exitOrdered, Bool.or_eq_true]
          exact .inr (ih returned)
      | request inParams => exact ih returned
      | timeout => exact ih returned

theorem Obedient.of_empty (empty : after.trace = []) : after.Obedient := by
  constructor
  · exact fun _ => empty
  · rw [empty]
    rintro ⟨⟩
  · rw [empty]
    rintro ⟨⟩
  · rw [empty]
    exact trivial

theorem Obedient.of_unordered (started : after.pc.starts = false)
    (unordered : exitOrdered after.trace = false) (obeys : Obeys after.trace) :
    after.Obedient := by
  constructor
  · intro starts
    rw [started] at starts
    cases starts
  · intro ordered
    rw [unordered] at ordered
    cases ordered
  · intro returned
    rw [exitOrdered_of_returned returned] at unordered
    cases unordered
  · exact obeys

theorem Obedient.move (obedient : shadow.Obedient) (trace : after.trace = shadow.trace)
    (started : after.pc.starts = false) (run : after.run = shadow.run)
    (reset : exitOrdered shadow.trace = true → after.pc ≠ .reset)
    (leaves : shadow.pc.leaves = true → after.pc.leaves = true) : after.Obedient := by
  constructor
  · intro starts
    rw [started] at starts
    cases starts
  · rw [trace, run]
    exact fun ordered => ⟨(obedient.seen ordered).1, reset ordered⟩
  · rw [trace]
    exact fun returned => leaves (obedient.returned returned)
  · rw [trace]
    exact obedient.obeys

theorem shadowWoPm_obedient (obedient : shadow.Obedient) (before : shadow.pc = .retryWoPm) :
    shadow.shadowWoPm.Obedient := by
  have staying : returnedSince shadow.trace = false := by
    apply eq_false_of_ne_true
    intro returned
    have leaves := obedient.returned returned
    rw [before] at leaves
    cases leaves
  constructor
  · rintro ⟨⟩
  · intro ordered
    exact ⟨(obedient.seen ordered).1, ShadowPc.noConfusion⟩
  · intro returned
    have impossible : returnedSince shadow.trace = true := returned
    rw [staying] at impossible
    cases impossible
  · exact ⟨staying, obedient.obeys⟩

/-- Only a return that is not a preemption counts. -/
theorem returnedSince_answer {outParams : SmcOutParams} {trace : List ShadowEvent}
    (staying : returnedSince trace = false) (other : outParams.exitReason ≠ smcExitNormal) :
    returnedSince (.answer outParams :: trace) = false := by
  rw [returnedSince, staying, decide_eq_false other, Bool.and_false, Bool.or_false]

theorem answered_obedient (obedient : shadow.Obedient) (before : shadow.pc = .inTee)
    (world : ShadowWorld) : (shadow.answered world).Obedient := by
  have staying : returnedSince shadow.trace = false := by
    apply eq_false_of_ne_true
    intro returned
    have leaves := obedient.returned returned
    rw [before] at leaves
    cases leaves
  have leaving : ∀ other : Shadow, other.trace = .answer world.answer :: shadow.trace →
      other.run = shadow.run → other.pc.leaves = true → other.Obedient := by
    intro other trace run leaves
    constructor
    · intro starts
      cases at_ : other.pc <;> rw [at_] at leaves starts <;> cases leaves <;> cases starts
    · rw [trace, run]
      intro ordered
      constructor
      · exact (obedient.seen ordered).1
      · intro reset
        rw [reset] at leaves
        cases leaves
    · exact fun _ => leaves
    · rw [trace]
      exact obedient.obeys
  unfold answered
  dsimp only
  split
  · exact leaving _ rfl rfl rfl
  · split
    · next preempted =>
        constructor
        · rintro ⟨⟩
        · intro ordered
          exact ⟨(obedient.seen ordered).1, ShadowPc.noConfusion⟩
        · intro returned
          have other : world.answer.exitReason ≠ smcExitNormal := by
            rw [preempted]
            decide
          have impossible : returnedSince (.answer world.answer :: shadow.trace) = true := returned
          rw [returnedSince_answer staying other] at impossible
          cases impossible
        · exact obedient.obeys
    · split
      · split
        · exact leaving _ rfl rfl rfl
        · exact leaving _ rfl rfl rfl
      · exact leaving _ rfl rfl rfl

theorem wait_obedient (obedient : shadow.Obedient) {world : ShadowWorld}
    (taken : shadow.wait world = some after) : after.Obedient := by
  unfold wait at taken
  split at taken
  · cases taken
    apply obedient.move
    · rfl
    · rfl
    · rfl
    · exact fun _ => ShadowPc.noConfusion
    · exact fun _ => rfl
  · split at taken
    · cases taken
      constructor
      · rintro ⟨⟩
      · exact fun ordered => ⟨(obedient.seen ordered).1, ShadowPc.noConfusion⟩
      · exact fun _ => rfl
      · exact obedient.obeys
    · cases taken

theorem thread_obedient (obedient : shadow.Obedient) {world : ShadowWorld}
    (taken : shadow.thread world = some after) : after.Obedient := by
  unfold thread at taken
  cases before : shadow.pc with
  | queued =>
      have empty : shadow.trace = [] := obedient.fresh (by rw [before]; rfl)
      rw [before] at taken
      cases taken
      unfold shadowWorkFunc
      split
      · exact .of_empty empty
      · dsimp only
        split
        · exact .of_empty empty
        · exact .of_empty empty
  | created =>
      have empty : shadow.trace = [] := obedient.fresh (by rw [before]; rfl)
      rw [before] at taken
      cases taken
      unfold Shadow.begin
      split
      · exact .of_empty empty
      · exact .of_empty empty
  | retry =>
      rw [before] at taken
      cases taken
      unfold powerOn
      split
      · apply obedient.move
        · rfl
        · rfl
        · rfl
        · exact fun _ => ShadowPc.noConfusion
        · exact fun _ => rfl
      · apply obedient.move
        · rfl
        · rfl
        · rfl
        · exact fun _ => ShadowPc.noConfusion
        · intro leaves
          rw [before] at leaves
          cases leaves
  | retryWoPm =>
      rw [before] at taken
      cases taken
      exact shadowWoPm_obedient obedient before
  | inTee =>
      rw [before] at taken
      cases taken
      exact answered_obedient obedient before world
  | waiting =>
      rw [before] at taken
      exact wait_obedient obedient taken
  | woken =>
      rw [before] at taken
      dsimp only at taken
      split at taken
      · cases taken
        apply obedient.move
        · rfl
        · rfl
        · rfl
        · exact fun _ => ShadowPc.noConfusion
        · exact fun _ => rfl
      · next unseen =>
          cases taken
          have unordered : exitOrdered shadow.trace = false :=
            eq_false_of_ne_true fun ordered => unseen (obedient.seen ordered).1
          exact .of_unordered rfl unordered obedient.obeys
  | reset =>
      have unordered : exitOrdered shadow.trace = false :=
        eq_false_of_ne_true fun ordered => (obedient.seen ordered).2 before
      rw [before] at taken
      cases taken
      exact .of_unordered rfl unordered obedient.obeys
  | ended =>
      rw [before] at taken
      cases taken

theorem Balanced.started (balanced : shadow.Balanced) (listed : shadow.listed = true) :
    shadow.pc.starts = false := by
  have sameListed := (ShadowHeld.mk.inj balanced).2.2
  cases at_ : shadow.pc with
  | queued =>
      rw [at_, listed] at sameListed
      cases sameListed
  | created =>
      rw [at_, listed] at sameListed
      cases sameListed
  | _ => rfl

theorem wakeup_obedient (obedient : shadow.Obedient) (balanced : shadow.Balanced)
    (undisturbed : shadow.Undisturbed .wakeup) : (shadow.procSmcWakeupCa 1).Obedient := by
  unfold procSmcWakeupCa
  split
  · exact obedient
  · next listed =>
      apply Obedient.of_unordered
      · exact balanced.started (eq_true_of_ne_false listed)
      · show (decide ((1 : Int) = shadowExitRun) || exitOrdered shadow.trace) = false
        rw [show exitOrdered shadow.trace = false from undisturbed]
        rfl
      · exact obedient.obeys

theorem smcShadowExit_obedient (obedient : shadow.Obedient) (balanced : shadow.Balanced)
    (undisturbed : shadow.Undisturbed .smcShadowExit) :
    (shadow.procSmcWakeupCa shadowExitRun).Obedient := by
  unfold procSmcWakeupCa
  split
  · exact obedient
  · next listed =>
      have started := balanced.started (eq_true_of_ne_false listed)
      constructor
      · intro starts
        rw [show shadow.pc.starts = true from starts] at started
        cases started
      · exact fun _ => ⟨rfl, undisturbed⟩
      · exact obedient.returned
      · exact obedient.obeys

theorem initial_obedient (target : UInt64) : (initial target).Obedient :=
  .of_empty rfl

theorem Obedient.of_reachable
    (reached : (shadowMachine.restrict Undisturbed).Reachable shadow) :
    shadow.Balanced ∧ shadow.Obedient := by
  apply reached.invariant
  · rintro _ ⟨target, rfl⟩
    exact ⟨rfl, initial_obedient target⟩
  · intro before label after sound taken
    obtain ⟨balanced, obedient⟩ := sound
    obtain ⟨undisturbed, taken⟩ := taken
    cases label with
    | thread world => exact ⟨thread_balanced balanced taken, thread_obedient obedient taken⟩
    | wakeup =>
        cases taken
        exact ⟨procSmcWakeupCa_balanced balanced 1, wakeup_obedient obedient balanced undisturbed⟩
    | smcShadowExit =>
        cases taken
        exact ⟨procSmcWakeupCa_balanced balanced shadowExitRun,
          smcShadowExit_obedient obedient balanced undisturbed⟩

end Shadow

/-- Where no later wake-up and no reset overwrites it, an order to exit is kept where the thread
looks for it, and the thread makes no request after the TEE has had nothing more to do. -/
theorem shadow_exit_obeyed {shadow : Shadow}
    (reached : (shadowMachine.restrict Shadow.Undisturbed).Reachable shadow) :
    Obeys shadow.trace ∧
      (exitOrdered shadow.trace = true → shadow.run = shadowExitRun ∧ shadow.pc ≠ .reset) := by
  have obedient := (Shadow.Obedient.of_reachable reached).2
  exact ⟨obedient.obeys, obedient.seen⟩

instance (shadow : Shadow) (label : ShadowLabel) : Decidable (shadow.Undisturbed label) :=
  match label with
  | .wakeup => inferInstanceAs (Decidable (exitOrdered shadow.trace = false))
  | .smcShadowExit => inferInstanceAs (Decidable (shadow.pc ≠ .reset))
  | .thread _ => inferInstanceAs (Decidable True)

theorem shadow_exit_obeyed_exit :
    ∃ shadow : Shadow, exitOrdered shadow.trace = true ∧ shadow.pc = .ended ∧
      Obeys shadow.trace ∧
        (exitOrdered shadow.trace = true → shadow.run = shadowExitRun ∧ shadow.pc ≠ .reset) := by
  have sound : ∀ before label after,
      Machine.guarded Shadow.Undisturbed Shadow.exec before label = some after →
        (shadowMachine.restrict Shadow.Undisturbed).step before label after :=
    Machine.guarded_sound fun _ _ _ ran => ran
  have booted : (shadowMachine.restrict Shadow.Undisturbed).Reachable (.initial 7) :=
    .start ⟨7, rfl⟩
  have ran : (Machine.replay (Machine.guarded Shadow.Undisturbed Shadow.exec) (.initial 7)
      shadowExits).map (fun shadow => decide (exitOrdered shadow.trace = true ∧
        shadow.pc = .ended)) = some true := by decide
  obtain ⟨shadow, reached, passed⟩ := Machine.Reachable.exists_of_replay sound booted ran
  obtain ⟨ordered, ended⟩ := of_decide_eq_true passed
  exact ⟨shadow, ordered, ended, shadow_exit_obeyed reached⟩

end TzDriver.Smc
