/-
The timeout steps of every call over whole runs of `smp_smc_send_func`.

A timed state is a state of the senders together with the `timeout_step` of every call.
Its steps are those of the senders: a wait of `proc_normal_exit` may only end the way its
own sleeps end.
-/

import TzDriver.Smc.Exclusive
import TzDriver.Smc.Timeout

namespace TzDriver.Smc

open TzDriver.Lib

/-- The results of `proc_ta_pending`. -/
inductive PendingT where
  | wakeup
  | timeout
  | done
deriving DecidableEq

/-- `timeout_step` of a call.  `lastWait` records how its last wait ended; a wait that has
been woken counts as done until the slot was looked at. -/
structure Timer where
  step : TimeoutStep
  lastWait : Option PendingT

def Timer.start : Timer := ⟨.start, none⟩

/-- One wait: the arguments of the TEE exit that led to it, whether it continues the same
wait of the TEE after a `PD_TIMEOUT`, and the record that its first sleep used. -/
structure WaitRecord where
  round : Round
  continues : Bool
  first : TimeoutStep

structure Ticked where
  timer : Timer
  reads : List (Nat × Nat)
  waits : List WaitRecord

def Timer.silent (timer : Timer) : Ticked := ⟨timer, [], []⟩

def Timer.continues (timer : Timer) (round : Round) : Bool :=
  timer.lastWait == some .timeout && round.sameWait

/-- What `proc_normal_exit` does with the outcome of the sleeps. -/
def Timer.slept (timer : Timer) (clock : Clock) (round : Round) (slept : Slept) : Ticked :=
  { timer :=
      match slept.wait with
      | .timeout => ⟨slept.step, some .timeout⟩
      | .killed => ⟨{ slept.step with timeoutReset := true }, some .wakeup⟩
      | .woken | .affinity => ⟨slept.step, some .done⟩
    reads := slept.reads
    waits := [⟨round, timer.continues round, pendingStep clock round timer.step⟩] }

section Ticks

variable (clock : Clock) (config : Config) (choice : Choice) (round : Round) (state : State)
  (id : Nat)

def waits : Bool :=
  match state.clients id with
  | .sent call .normal =>
      !(state.slots call.cmdIndex).outBit && decide (choice.wait ≠ .affinity)
  | _ => false

/-- The part of a section that concerns `timeout_step`. -/
def tick (timer : Timer) : Option Ticked :=
  match state.clients id with
  | .begins _ _ => some Timer.start.silent
  | .retry call =>
      if config.teeReboot && choice.rebooting && call.input.cmdId == globalCmdIdSetServeCmd then
        some timer.silent
      else some (Timer.silent { timer with step := setTimeoutStep timer.step })
  | .sent _ _ =>
      if waits choice state id then
        match procTaPending clock round timer.step with
        | some slept => if slept.wait = choice.wait then some (timer.slept clock round slept) else none
        | none => none
      else some timer.silent
  | .woken call =>
      if (state.slots call.cmdIndex).outBit then some timer.silent
      else some (Timer.silent ⟨{ timer.step with timeoutReset := true }, some .wakeup⟩)
  | _ => some timer.silent

end Ticks

structure Timed where
  base : State
  timers : Nat → Timer
  reads : List (Nat × Nat)
  waits : List WaitRecord

def Timed.initial : Timed :=
  { base := .initial, timers := fun _ => .start, reads := [], waits := [] }

/-- The timed state after a step of the senders to `base`. -/
def Timed.next (clock : Clock) (config : Config) (timed : Timed) (label : Label × Round)
    (base : State) : Option Timed :=
  match label.1 with
  | .run id choice =>
      (tick clock config choice label.2 timed.base id (timed.timers id)).map fun ticked =>
        { base := base
          timers := Function.update timed.timers id ticked.timer
          reads := ticked.reads ++ timed.reads
          waits := ticked.waits ++ timed.waits }
  | _ => some { timed with base := base }

def timedMachine (clock : Clock) (config : Config) : Machine Timed (Label × Round) :=
  { init := fun timed => timed = .initial
    step := fun before label after =>
      ∃ base, State.Step config before.base label.1 base ∧
        before.next clock config label base = some after }

/-! ### Where the calls go -/

/-- The call is between `set_timeout_step` and the end of its SMC. -/
def Client.sends : Client → Bool
  | .occupying _ _ | .filled _ | .sending _ | .sent _ _ => true
  | _ => false

/-- Only client `id` moves, and it comes to its SMC through `set_timeout_step`. -/
def Moves (id : Nat) (before after : State) : Prop :=
  ∃ client, after.clients = Function.update before.clients id client ∧
    (client.sends = true →
      (before.clients id).sends = true ∨ ∃ call, before.clients id = .retry call)

section Moving

variable {config : Config} {choice : Choice} {state after : State} {id : Nat}

theorem Moves.quiet {client : Client}
    (moved : after.clients = Function.update state.clients id client)
    (quiet : client.sends = false) : Moves id state after := by
  refine ⟨client, moved, ?_⟩
  intro impossible
  rw [quiet] at impossible
  cases impossible

theorem Moves.busy {client : Client}
    (moved : after.clients = Function.update state.clients id client)
    (busy : (state.clients id).sends = true) : Moves id state after :=
  ⟨client, moved, fun _ => Or.inl busy⟩

theorem clientStep_moves (ran : clientStep config choice state id = some after) :
    Moves id state after := by
  unfold clientStep at ran
  cases here : state.clients id with
  | idle => simp only [here, reduceCtorEq] at ran
  | waiting input => simp only [here, reduceCtorEq] at ran
  | returned result => simp only [here, reduceCtorEq] at ran
  | begins input reuse =>
      simp only [here, Option.some.injEq] at ran
      subst ran
      unfold beginsSection
      split
      · exact .quiet rfl rfl
      · exact .quiet rfl rfl
  | retry call =>
      simp only [here, Option.some.injEq] at ran
      subst ran
      unfold retrySection
      repeat' split
      all_goals exact ⟨_, rfl, fun _ => Or.inr ⟨call, here⟩⟩
  | occupying call retryCount =>
      simp only [here, Option.some.injEq] at ran
      subst ran
      have busy : (state.clients id).sends = true := by
        rw [here]
        rfl
      unfold occupyingSection
      repeat' split
      all_goals exact .busy rfl busy
  | filled call =>
      simp only [here, Option.some.injEq] at ran
      subst ran
      exact .busy rfl (by rw [here]; rfl)
  | releasing call =>
      simp only [here, Option.some.injEq] at ran
      subst ran
      exact .quiet rfl rfl
  | sending call =>
      simp only [here, Option.some.injEq] at ran
      subst ran
      have busy : (state.clients id).sends = true := by
        rw [here]
        rfl
      unfold sendingSection
      repeat' split
      all_goals exact .busy rfl busy
  | sent call exit =>
      simp only [here, Option.some.injEq] at ran
      subst ran
      have busy : (state.clients id).sends = true := by
        rw [here]
        rfl
      unfold sentSection
      repeat' split
      all_goals exact .busy rfl busy
  | aborting call =>
      simp only [here, Option.some.injEq] at ran
      subst ran
      unfold abortingSection
      split
      · exact .quiet rfl rfl
      · exact .quiet rfl rfl
  | woken call =>
      simp only [here, Option.some.injEq] at ran
      subst ran
      unfold wokenSection
      split
      · exact .quiet rfl rfl
      · exact .quiet rfl rfl
  | done call =>
      simp only [here, Option.some.injEq] at ran
      subst ran
      unfold doneSection
      simp only
      split
      · exact .quiet rfl rfl
      split
      · exact .quiet rfl rfl
      · exact .quiet rfl rfl
  | cleaning call =>
      simp only [here, Option.some.injEq] at ran
      subst ran
      unfold cleaningSection
      split
      · exact .quiet rfl rfl
      · exact .quiet rfl rfl
  | leaving call result =>
      simp only [here, Option.some.injEq] at ran
      subst ran
      unfold leavingSection
      split
      · exact .quiet rfl rfl
      · exact .quiet rfl rfl

end Moving

/-! ### What holds of the records of every run -/

section Kept

variable {clock : Clock} {config : Config}

/-- What holds of the record of a call at `client`. -/
structure Timer.Kept (client : Client) (timer : Timer) : Prop where
  ready : timer.step.cur = invalidStepSize ∨ timer.step.Indexed
  cleared : client.sends = true → timer.step.timeoutReset = false
  fresh : timer.lastWait = none ∨ timer.lastWait = some .wakeup →
    timer.step.cur = invalidStepSize ∨ timer.step.timeoutReset = true
  used : timer.lastWait = some .timeout ∨ timer.lastWait = some .done →
    timer.step.Indexed ∧ timer.step.timeoutReset = false

theorem Timer.Kept.start {client : Client} : Timer.start.Kept client := by
  refine ⟨Or.inl rfl, fun _ => rfl, fun _ => Or.inl rfl, ?_⟩
  rintro (impossible | impossible)
  · cases impossible
  · cases impossible

theorem Timer.Kept.elsewhere {timer : Timer} {before after : Client} (kept : timer.Kept before)
    (comes : after.sends = true → before.sends = true) : timer.Kept after :=
  ⟨kept.ready, fun busy => kept.cleared (comes busy), kept.fresh, kept.used⟩

theorem setTimeoutStep_kept {timer : Timer} {before after : Client} (kept : timer.Kept before) :
    Timer.Kept after { timer with step := setTimeoutStep timer.step } := by
  unfold setTimeoutStep
  split
  · next set_ =>
      refine ⟨Or.inl rfl, fun _ => rfl, fun _ => Or.inl rfl, ?_⟩
      intro used
      have clear := (kept.used used).2
      rw [set_] at clear
      cases clear
  · next unset =>
      have clear : timer.step.timeoutReset = false := Bool.eq_false_iff.mpr unset
      exact ⟨kept.ready, fun _ => clear, kept.fresh, kept.used⟩

/-- A wait that ended with `PD_TIMEOUT` or `PD_DONE` leaves its schedule in use. -/
theorem Timer.Kept.of_used {step : TimeoutStep} {ended : PendingT} {client : Client}
    (indexed : step.Indexed) (clear : step.timeoutReset = false) (other : ended ≠ .wakeup) :
    Timer.Kept client ⟨step, some ended⟩ := by
  refine ⟨Or.inr indexed, fun _ => clear, ?_, fun _ => ⟨indexed, clear⟩⟩
  rintro (impossible | woken)
  · cases impossible
  · exact absurd (Option.some.inj woken) other

/-- A wait that ended with `PD_WAKEUP` asks the next `retry` for a new schedule. -/
theorem Timer.Kept.of_wakeup {step : TimeoutStep} {client : Client}
    (ready : step.cur = invalidStepSize ∨ step.Indexed) (quiet : client.sends = false) :
    Timer.Kept client ⟨{ step with timeoutReset := true }, some .wakeup⟩ := by
  refine ⟨?_, ?_, fun _ => Or.inr rfl, ?_⟩
  · rcases ready with invalid | indexed
    · exact Or.inl invalid
    · exact Or.inr ⟨indexed.below, indexed.small⟩
  · intro busy
    rw [quiet] at busy
    cases busy
  · rintro (impossible | impossible)
    · cases impossible
    · cases impossible

theorem Timer.slept_kept {timer : Timer} {round : Round} {slept : Slept} {client : Client}
    (indexed : slept.step.Indexed) (clear : slept.step.timeoutReset = false)
    (quiet : client.sends = false) :
    (timer.slept clock round slept).timer.Kept client := by
  unfold Timer.slept
  simp only
  cases slept.wait with
  | timeout => exact .of_used indexed clear (by decide)
  | killed => exact .of_wakeup (Or.inr indexed) quiet
  | woken => exact .of_used indexed clear (by decide)
  | affinity => exact .of_used indexed clear (by decide)

variable {choice : Choice} {round : Round} {state after : State} {id : Nat} {timer : Timer}
  {ticked : Ticked}

theorem Moves.sends_of_not_retry (moves : Moves id state after)
    (elsewhere : ∀ call, state.clients id ≠ .retry call)
    (busy : (after.clients id).sends = true) : (state.clients id).sends = true := by
  obtain ⟨client, moved, comes⟩ := moves
  rw [moved, Function.update_self] at busy
  rcases comes busy with already | ⟨call, here⟩
  · exact already
  · exact absurd here (elsewhere call)

theorem waits_quiet (waiting : waits choice state id = true)
    (ran : clientStep config choice state id = some after) :
    (after.clients id).sends = false := by
  unfold waits at waiting
  unfold clientStep at ran
  split at waiting
  · next call here =>
      obtain ⟨empty, given⟩ := Bool.and_eq_true_iff.mp waiting
      have pending : (state.slots call.cmdIndex).outBit = false := by
        simpa using empty
      simp only [here, Option.some.injEq] at ran
      subst ran
      unfold sentSection
      simp only [pending, Bool.false_eq_true, if_false]
      cases choice.wait with
      | affinity =>
          simp only [State.goes, Function.update_self]
          rfl
      | timeout =>
          simp only [State.goes, Function.update_self]
          rfl
      | killed =>
          simp only [State.goes, Function.update_self]
          rfl
      | woken =>
          simp only [State.goes, Function.update_self]
          rfl
  · cases waiting

/-- What a section leaves in the record of its call. -/
structure TickSpec (clock : Clock) (choice : Choice) (round : Round) (state : State) (id : Nat)
    (timer : Timer) (client : Client) (ticked : Ticked) : Prop where
  kept : ticked.timer.Kept client
  inside : ∀ read ∈ ticked.reads, read.1 < read.2
  waited : ∀ record ∈ ticked.waits, waits choice state id = true ∧
    record = ⟨round, timer.continues round, pendingStep clock round timer.step⟩

theorem TickSpec.silent {client : Client} {kept : Timer} (same : kept.Kept client) :
    TickSpec clock choice round state id timer client kept.silent := by
  refine ⟨same, ?_, ?_⟩
  · intro read impossible
    cases impossible
  · intro record impossible
    cases impossible

theorem tick_spec (kept : timer.Kept (state.clients id))
    (ran : clientStep config choice state id = some after)
    (ticks : tick clock config choice round state id timer = some ticked) :
    TickSpec clock choice round state id timer (after.clients id) ticked := by
  have moves := clientStep_moves ran
  have stays (elsewhere : ∀ call, state.clients id ≠ .retry call) :
      timer.Kept (after.clients id) :=
    kept.elsewhere (moves.sends_of_not_retry elsewhere)
  unfold tick at ticks
  split at ticks
  · cases ticks
    exact .silent .start
  · next call here =>
      split at ticks
      · next dead =>
          cases ticks
          unfold clientStep at ran
          simp only [here, Option.some.injEq] at ran
          subst ran
          unfold retrySection
          rw [if_pos dead]
          refine .silent (kept.elsewhere ?_)
          simp only [State.goes, Function.update_self]
          intro impossible
          cases impossible
      · cases ticks
        exact .silent (setTimeoutStep_kept kept)
  · next call exit here =>
      split at ticks
      · next waiting =>
          obtain ⟨slept, ended, indexed, reset, _, inside⟩ :=
            @procTaPending_spec clock round timer.step kept.ready
          have clear : slept.step.timeoutReset = false := by
            rw [reset]
            exact kept.cleared (by rw [here]; rfl)
          rw [ended] at ticks
          simp only at ticks
          split at ticks
          · cases ticks
            refine ⟨Timer.slept_kept indexed clear (waits_quiet waiting ran), inside, ?_⟩
            intro record member
            exact ⟨waiting, List.mem_singleton.mp member⟩
          · cases ticks
      · cases ticks
        exact .silent (stays fun call impossible => by rw [here] at impossible; cases impossible)
  · next call here =>
      have elsewhere : ∀ call, state.clients id ≠ .retry call := by
        intro call impossible
        rw [here] at impossible
        cases impossible
      split at ticks
      · cases ticks
        exact .silent (stays elsewhere)
      · cases ticks
        refine .silent (.of_wakeup kept.ready (Bool.eq_false_iff.mpr ?_))
        intro busy
        have impossible := moves.sends_of_not_retry elsewhere busy
        rw [here] at impossible
        cases impossible
  · next elsewhere _ _ =>
      cases ticks
      exact .silent (stays elsewhere)

end Kept

/-! ### Whole runs -/

section Runs

variable {clock : Clock} {config : Config} {before after : Timed} {label : Label × Round}

structure Timed.Kept (timed : Timed) : Prop where
  timers : ∀ id, (timed.timers id).Kept (timed.base.clients id)
  reads : ∀ read ∈ timed.reads, read.1 < read.2

theorem Timed.Kept.initial : Timed.initial.Kept := by
  refine ⟨fun _ => .start, ?_⟩
  intro read impossible
  cases impossible

theorem Timed.Kept.goes (kept : before.Kept) {base : State} {id : Nat} {client : Client}
    (moved : base.clients = Function.update before.base.clients id client)
    (quiet : client.sends = false) : Timed.Kept { before with base := base } := by
  refine ⟨?_, kept.reads⟩
  intro other
  refine (kept.timers other).elsewhere ?_
  simp only [moved]
  by_cases same : other = id
  · subst same
    rw [Function.update_self, quiet]
    intro impossible
    cases impossible
  · rw [Function.update_of_ne same]
    exact fun busy => busy

theorem Timed.Kept.stays (kept : before.Kept) {base : State}
    (still : base.clients = before.base.clients) : Timed.Kept { before with base := base } := by
  refine ⟨?_, kept.reads⟩
  intro id
  simp only [still]
  exact kept.timers id

/-- A record of the state after a step is one of the state before it or that of the wait
which the step made. -/
def Recorded (clock : Clock) (before : Timed) (label : Label × Round) (record : WaitRecord) :
    Prop :=
  record ∈ before.waits ∨
    ∃ id choice, label.1 = .run id choice ∧ waits choice before.base id = true ∧
      record = ⟨label.2, (before.timers id).continues label.2,
        pendingStep clock label.2 (before.timers id).step⟩

theorem Timed.Kept.run (kept : before.Kept) {id : Nat} {choice : Choice} {base : State}
    (isRun : label.1 = .run id choice)
    (ran : clientStep config choice before.base id = some base)
    (nexts : before.next clock config label base = some after) :
    after.Kept ∧ ∀ record ∈ after.waits, Recorded clock before label record := by
  unfold Timed.next at nexts
  rw [isRun] at nexts
  obtain ⟨ticked, ticks, result⟩ := Option.map_eq_some_iff.mp nexts
  subst result
  have spec := tick_spec (kept.timers id) ran ticks
  obtain ⟨client, moved, _⟩ := clientStep_moves ran
  refine ⟨⟨?_, ?_⟩, ?_⟩
  · intro other
    simp only
    by_cases same : other = id
    · subst same
      rw [Function.update_self]
      exact spec.kept
    · rw [Function.update_of_ne same, moved, Function.update_of_ne same]
      exact kept.timers other
  · intro read member
    rcases List.mem_append.mp member with made | earlier
    · exact spec.inside read made
    · exact kept.reads read earlier
  · intro record member
    rcases List.mem_append.mp member with made | earlier
    · obtain ⟨waiting, same⟩ := spec.waited record made
      exact Or.inr ⟨id, choice, isRun, waiting, same⟩
    · exact Or.inl earlier

theorem Timed.Kept.step (kept : before.Kept)
    (stepped : (timedMachine clock config).step before label after) :
    after.Kept ∧ ∀ record ∈ after.waits, Recorded clock before label record := by
  obtain ⟨base, moved, nexts⟩ := stepped
  obtain ⟨label, round⟩ := label
  have keep {base : State} (result : some { before with base := base } = some after)
      (same : Timed.Kept { before with base := base }) :
      after.Kept ∧ ∀ record ∈ after.waits, Recorded clock before (label, round) record := by
    rw [← Option.some.inj result]
    exact ⟨same, fun _ member => Or.inl member⟩
  cases moved with
  | call idle => exact keep nexts (kept.goes rfl rfl)
  | resend waits => exact keep nexts (kept.goes rfl rfl)
  | run ran => exact kept.run rfl ran nexts
  | take => exact keep nexts (kept.stays rfl)
  | post => exact keep nexts (kept.stays rfl)
  | postKill => exact keep nexts (kept.stays rfl)
  | find => exact keep nexts (kept.stays rfl)
  | put => exact keep nexts (kept.stays rfl)

theorem kept_of_reachable {timed : Timed} (reached : (timedMachine clock config).Reachable timed) :
    timed.Kept := by
  refine Machine.Reachable.invariant ?_ ?_ reached
  · intro _ same
    subst same
    exact .initial
  · intro before label after kept stepped
    exact (kept.step stepped).1

theorem base_reachable {timed : Timed} (reached : (timedMachine clock config).Reachable timed) :
    (smcMachine config).Reachable timed.base := by
  induction reached with
  | start initial =>
      subst initial
      exact .start rfl
  | @next before after label _ stepped ih =>
      obtain ⟨base, moved, nexts⟩ := stepped
      have same : after.base = base := by
        unfold Timed.next at nexts
        split at nexts
        · obtain ⟨ticked, _, result⟩ := Option.map_eq_some_iff.mp nexts
          rw [← result]
        · rw [← Option.some.inj nexts]
      rw [same]
      exact .next ih moved

/-- The schedules are well-formed, and no run reads past the end of one. -/
theorem timeout_schedule_well_formed (clock : Clock) (config : Config) :
    (∀ (timeout : UInt32) (step : TimeoutStep),
      WellFormed clock timeout.toNat (initTimeoutStep clock timeout.toNat step)) ∧
    ∀ timed, (timedMachine clock config).Reachable timed →
      ∀ read ∈ timed.reads, read.1 < read.2 :=
  ⟨fun timeout step => initTimeoutStep_wellFormed clock timeout.toNat step,
    fun _ reached => (kept_of_reachable reached).reads⟩

end Runs

/-! ### Fresh schedules -/

section Fresh

variable {clock : Clock} {config : Config} {before after : Timed} {label : Label × Round}

/-- A wait that does not continue another one sleeps by the schedule for its own timeout,
from the first step on. -/
def WaitRecord.Fresh (clock : Clock) (record : WaitRecord) : Prop :=
  record.continues = false →
    record.first.cur = 0 ∧ record.first.schedule = plan clock record.round.timeout

/-- The steps left from the last wait are those for the new timeout, still at the first. -/
def LeftFits (clock : Clock) (round : Round) (step : TimeoutStep) : Prop :=
  step.cur = 0 ∧ step.schedule = plan clock round.timeout

/-- The wait is the first of its call, follows one that ended with `PD_WAKEUP`, or goes on
in the same wait of the TEE after a `PD_TIMEOUT`; or what the last wait left fits. -/
def Timer.Orderly (clock : Clock) (round : Round) (timer : Timer) : Prop :=
  timer.lastWait = none ∨ timer.lastWait = some .wakeup ∨
    timer.lastWait = some .timeout ∧ round.sameWait = true ∨ LeftFits clock round timer.step

def orderly (clock : Clock) (timed : Timed) (label : Label × Round) : Prop :=
  match label.1 with
  | .run id choice =>
      waits choice timed.base id = true → (timed.timers id).Orderly clock label.2
  | _ => True

theorem pendingStep_fresh {round : Round} {step : TimeoutStep}
    (invalid : step.cur = invalidStepSize) :
    (pendingStep clock round step).cur = 0 ∧
      (pendingStep clock round step).schedule = plan clock round.timeout := by
  unfold pendingStep
  rw [if_pos invalid]
  exact ⟨initTimeoutStep_cur clock round.timeout step,
    initTimeoutStep_schedule clock round.timeout step⟩

theorem waits_sends {choice : Choice} {state : State} {id : Nat}
    (waiting : waits choice state id = true) : (state.clients id).sends = true := by
  unfold waits at waiting
  split at waiting
  · next here =>
      rw [here]
      rfl
  · cases waiting

/-- A wait is fresh exactly when it is orderly. -/
theorem Timer.Kept.fresh_record_iff {client : Client} {timer : Timer} {round : Round}
    (kept : timer.Kept client) (sends : client.sends = true) :
    WaitRecord.Fresh clock
        ⟨round, timer.continues round, pendingStep clock round timer.step⟩ ↔
      timer.Orderly clock round := by
  have begun (unused : timer.lastWait = none ∨ timer.lastWait = some .wakeup) :
      timer.step.cur = invalidStepSize := by
    rcases kept.fresh unused with invalid | set_
    · exact invalid
    · rw [kept.cleared sends] at set_
      cases set_
  have left (valid : timer.step.cur ≠ invalidStepSize) :
      pendingStep clock round timer.step = timer.step := by
    unfold pendingStep
    rw [if_neg valid]
  have leftUsed (used : timer.lastWait = some .timeout ∨ timer.lastWait = some .done) :
      pendingStep clock round timer.step = timer.step := by
    apply left
    obtain ⟨below, small⟩ := (kept.used used).1
    have few : timer.step.size ≤ 5 := small
    change timer.step.cur ≠ 0xFFFFFFFF
    omega
  constructor
  · intro fresh
    cases ended : timer.lastWait with
    | none => exact Or.inl ended
    | some last =>
        cases last with
        | wakeup => exact Or.inr (Or.inl ended)
        | timeout =>
            by_cases same : round.sameWait = true
            · exact Or.inr (Or.inr (Or.inl ⟨ended, same⟩))
            · have breaks : timer.continues round = false := by
                simp [Timer.continues, ended, same]
              have fits := fresh breaks
              simp only [leftUsed (Or.inl ended)] at fits
              exact Or.inr (Or.inr (Or.inr fits))
        | done =>
            have breaks : timer.continues round = false := by
              simp [Timer.continues, ended]
            have fits := fresh breaks
            simp only [leftUsed (Or.inr ended)] at fits
            exact Or.inr (Or.inr (Or.inr fits))
  · intro orderly breaks
    rcases orderly with none_ | woken | ⟨timeout, same⟩ | ⟨first, steps⟩
    · exact pendingStep_fresh (begun (Or.inl none_))
    · exact pendingStep_fresh (begun (Or.inr woken))
    · simp [Timer.continues, timeout, same] at breaks
    · have same : pendingStep clock round timer.step = timer.step := by
        apply left
        rw [first]
        decide
      simp only [same]
      exact ⟨first, steps⟩

def orderlyMachine (clock : Clock) (config : Config) : Machine Timed (Label × Round) :=
  (timedMachine clock config).restrict (orderly clock)

structure Timed.Timely (clock : Clock) (timed : Timed) : Prop where
  kept : timed.Kept
  fresh : ∀ record ∈ timed.waits, record.Fresh clock

theorem Timed.Timely.step (timely : before.Timely clock) (allowed : orderly clock before label)
    (stepped : (timedMachine clock config).step before label after) : after.Timely clock := by
  obtain ⟨kept, recorded⟩ := timely.kept.step stepped
  refine ⟨kept, ?_⟩
  intro record member
  rcases recorded record member with earlier | ⟨id, choice, isRun, waiting, same⟩
  · exact timely.fresh record earlier
  · subst same
    unfold orderly at allowed
    rw [isRun] at allowed
    exact ((timely.kept.timers id).fresh_record_iff (waits_sends waiting)).mpr (allowed waiting)

/-- In every run whose waits are orderly, every schedule is fresh. -/
theorem timeout_schedule_fresh {timed : Timed}
    (reached : (orderlyMachine clock config).Reachable timed) :
    ∀ record ∈ timed.waits, record.Fresh clock := by
  have timely : timed.Timely clock := by
    refine Machine.Reachable.invariant ?_ ?_ reached
    · intro _ same
      subst same
      refine ⟨.initial, ?_⟩
      intro record impossible
      cases impossible
    · intro before label after timely given
      exact timely.step given.1 given.2
  exact timely.fresh

end Fresh

/-! ### Replayed runs -/

section Replay

def Timed.exec (clock : Clock) (config : Config) (timed : Timed) (label : Label × Round) :
    Option Timed :=
  (timed.base.exec config label.1).bind fun base => timed.next clock config label base

theorem Timed.exec_sound {clock : Clock} {config : Config} (before : Timed)
    (label : Label × Round) (after : Timed) (ran : before.exec clock config label = some after) :
    (timedMachine clock config).step before label after := by
  obtain ⟨base, moved, nexts⟩ := Option.bind_eq_some_iff.mp ran
  exact ⟨base, State.exec_sound moved, nexts⟩

instance leftFitsDecidable (clock : Clock) (round : Round) (step : TimeoutStep) :
    Decidable (LeftFits clock round step) :=
  inferInstanceAs (Decidable (_ ∧ _))

instance orderlyTimerDecidable (clock : Clock) (round : Round) (timer : Timer) :
    Decidable (timer.Orderly clock round) :=
  inferInstanceAs (Decidable (_ ∨ _ ∨ _ ∨ _))

instance orderlyDecidable (clock : Clock) (timed : Timed) :
    (label : Label × Round) → Decidable (orderly clock timed label)
  | (.run id choice, round) =>
      inferInstanceAs (Decidable (waits choice timed.base id = true →
        (timed.timers id).Orderly clock round))
  | (.call _ _, _) => isTrue trivial
  | (.resend _, _) => isTrue trivial
  | (.take _, _) => isTrue trivial
  | (.post _ _ _, _) => isTrue trivial
  | (.postKill _ _ _, _) => isTrue trivial
  | (.find _, _) => isTrue trivial
  | (.put _, _) => isTrue trivial

instance freshDecidable (clock : Clock) (record : WaitRecord) : Decidable (record.Fresh clock) :=
  inferInstanceAs (Decidable (_ → _))

def clock250 : Clock :=
  { hz := 250
    positive := by decide
    fits := by decide
    msecsToJiffies := fun msecs => (msecs + 3) / 4
    bounded := by
      intro msecs least most
      omega }

def wokenRound (timeout : UInt64) : Round :=
  { args := timeout, sameWait := false, wakes := fun _ => true, sigkill := false }

def inRound (timeout : UInt64) (labels : List Label) : List (Label × Round) :=
  labels.map fun label => (label, wokenRound timeout)

/-- The command waits for 100 ms, is woken, waits for 5 s. -/
def wokenTwice : List (Label × Round) :=
  inRound 100 (submits 0 ++ [.run 0 (works .woken), .run 0 (works .woken), .run 0 (works .woken),
    .run 0 (works .woken)]) ++ inRound 5000 [.run 0 (works .woken)]

theorem timeout_schedule_well_formed_woken_twice :
    ∃ timed, (timedMachine clock250 defaultConfig).Reachable timed ∧ timed.reads.length = 2 ∧
      ∀ read ∈ timed.reads, read.1 < read.2 := by
  have ran : ((Machine.replay (Timed.exec clock250 defaultConfig) .initial wokenTwice).map
      fun timed => decide (timed.reads.length = 2)) = some true := by
    decide +kernel
  have start : (timedMachine clock250 defaultConfig).Reachable .initial := .start rfl
  obtain ⟨timed, reached, two⟩ := start.exists_of_replay Timed.exec_sound ran
  exact ⟨timed, reached, of_decide_eq_true two,
    (timeout_schedule_well_formed clock250 defaultConfig).2 timed reached⟩

theorem timeout_schedule_fresh_woken_twice :
    ∃ timed, (orderlyMachine clock250 defaultConfig).Reachable timed ∧ timed.waits.length = 2 ∧
      ∀ record ∈ timed.waits, record.Fresh clock250 := by
  have ran : ((Machine.replay (Machine.guarded (orderly clock250) (Timed.exec clock250 defaultConfig))
      .initial wokenTwice).map fun timed => decide (timed.waits.length = 2)) = some true := by
    decide +kernel
  have start : (orderlyMachine clock250 defaultConfig).Reachable .initial := .start rfl
  obtain ⟨timed, reached, two⟩ :=
    start.exists_of_replay (Machine.guarded_sound Timed.exec_sound) ran
  exact ⟨timed, reached, of_decide_eq_true two, timeout_schedule_fresh reached⟩

/-- The command waits for 100 ms and is answered with an agent request meanwhile; sent
again, it waits for 5 s. -/
def resentAfterWait : List (Label × Round) :=
  inRound 100 (submits 0 ++ [.take 0, .run 0 (works .woken),
    .post 0 ⟨some 0, 0⟩ { SmcCmd.zeroed with retVal := teecPending2 }, .run 0 (works .woken),
    .run 0 (works .woken), .run 0 (works .woken), .run 0 (works .woken)]) ++
    inRound 5000 [.run 0 (works .woken)]

/-- The second wait sleeps by the schedule of the first. -/
theorem timeout_schedule_stale :
    ∃ timed, (timedMachine clock250 defaultConfig).Reachable timed ∧
      ∃ record ∈ timed.waits, record.continues = false ∧ record.round.timeout = 5000 ∧
        record.first.schedule = plan clock250 100 ∧ ¬record.Fresh clock250 := by
  have ran : ((Machine.replay (Timed.exec clock250 defaultConfig) .initial resentAfterWait).map
      fun timed => timed.waits.any fun record => decide (record.continues = false ∧
        record.round.timeout = 5000 ∧ record.first.schedule = plan clock250 100 ∧
          ¬record.Fresh clock250)) = some true := by
    decide +kernel
  have start : (timedMachine clock250 defaultConfig).Reachable .initial := .start rfl
  obtain ⟨timed, reached, stale⟩ := start.exists_of_replay Timed.exec_sound ran
  obtain ⟨record, member, shown⟩ := List.any_eq_true.mp stale
  exact ⟨timed, reached, record, member, of_decide_eq_true shown⟩

end Replay

end TzDriver.Smc
