/-
The timeout steps of a sleeping sender (`init_timeout_step` and `proc_ta_pending` in
`linux/core/smc_smp.c`).

`RESLEEP_TIMEOUT * HZ` is an `int` of the compiler; `timeout_in_jiffies`, `size` and `cur`
are 32-bit variables and the steps are kept in 64 bits.
-/

import TzDriver.Lib.Words
import TzDriver.Smc.SendFunc

namespace TzDriver.Smc

open TzDriver.Lib

/-- The kernel's clock.  `msecs_to_jiffies` is the kernel's, with what it gives for the
timeouts that the driver asks about. -/
structure Clock where
  hz : Nat
  positive : 1 ≤ hz
  fits : 15 * hz < 2147483648
  msecsToJiffies : Nat → Nat
  bounded : ∀ msecs, 1 ≤ msecs → msecs ≤ 15000 →
    1 ≤ msecsToJiffies msecs ∧ msecsToJiffies msecs ≤ 15 * hz

def resleepTimeout : Nat := 15

def msecPerSec : Nat := 1000

def toStepSize : Nat := 5

def invalidStepSize : Nat := 0xFFFFFFFF

/-- `struct timeout_step_t`. -/
structure TimeoutStep where
  steps : Nat → Nat
  size : Nat
  cur : Nat
  timeoutReset : Bool

def TimeoutStep.schedule (step : TimeoutStep) : List Nat :=
  (List.range step.size).map step.steps

/-- `step->steps[i] = value`. -/
def TimeoutStep.store (step : TimeoutStep) (i value : Nat) : TimeoutStep :=
  { step with steps := Function.update step.steps i value }

section Init

variable (clock : Clock)

def timeoutInJiffies (timeout : Nat) : Nat :=
  u32 (clock.msecsToJiffies
    (if timeout > resleepTimeout * msecPerSec then resleepTimeout * msecPerSec else timeout))

def initTimeoutStep (timeout : Nat) (step : TimeoutStep) : TimeoutStep :=
  if timeout = 0 then
    { step.store 0 (resleepTimeout * clock.hz) with size := 1, cur := 0 }
  else
    let jiffies := timeoutInJiffies clock timeout
    let first :=
      if jiffies > 1 then ((step.store 0 (sub32 jiffies 1)).store 1 1, 2)
      else (step.store 0 jiffies, 1)
    let middle := (first.1.store first.2 1).store (first.2 + 1) 1
    if resleepTimeout * clock.hz > u32 (jiffies + 2) then
      { middle.store (first.2 + 2) (sub32 (sub32 (resleepTimeout * clock.hz) 2) jiffies) with
        size := first.2 + 3
        cur := 0 }
    else { middle with size := first.2 + 2, cur := 0 }

end Init

/-! ### Sleeping -/

/-- What the sleeps of one `proc_ta_pending` left: the record, how they ended, and every
`cur` and `size` that `steps[cur]` was read with. -/
structure Slept where
  step : TimeoutStep
  wait : Wait
  reads : List (Nat × Nat)

/-- What one `proc_ta_pending` meets: `pending_args`, whether the `n`th sleep is woken, and
whether a SIGKILL is pending at its end.  `sameWait` is the TEE's own: it is still in the
wait of its last exit. -/
structure Round where
  args : UInt64
  sameWait : Bool
  wakes : Nat → Bool
  sigkill : Bool

def Round.timeout (round : Round) : Nat :=
  round.args.toNat % 4294967296

def Round.timerNoIrq (round : Round) : Bool :=
  round.args.toNat / 4294967296 != 0

/-- The loop behind `resleep`; `none` while it has not ended. -/
def resleep (round : Round) : Nat → Nat → TimeoutStep → Option Slept
  | 0, _, _ => none
  | fuel + 1, n, step =>
      if round.wakes n then some ⟨step, .woken, [(step.cur, step.size)]⟩
      else if step.cur < sub32 step.size 1 then
        let next := { step with cur := u32 (step.cur + 1) }
        if round.timerNoIrq then some ⟨next, .timeout, [(step.cur, step.size)]⟩
        else
          (resleep round fuel (n + 1) next).map fun later =>
            { later with reads := (step.cur, step.size) :: later.reads }
      else some ⟨step, if round.sigkill then .killed else .woken, [(step.cur, step.size)]⟩

def pendingStep (clock : Clock) (round : Round) (step : TimeoutStep) : TimeoutStep :=
  if step.cur = invalidStepSize then initTimeoutStep clock round.timeout step else step

/-- `proc_ta_pending` up to its last look at the slot. -/
def procTaPending (clock : Clock) (round : Round) (step : TimeoutStep) : Option Slept :=
  resleep round toStepSize 0 (pendingStep clock round step)

def setTimeoutStep (step : TimeoutStep) : TimeoutStep :=
  if step.timeoutReset then { step with cur := invalidStepSize, timeoutReset := false } else step

def TimeoutStep.start : TimeoutStep :=
  { steps := fun _ => 0, size := toStepSize, cur := 0xFFFFFFFF, timeoutReset := false }

/-! ### The schedule -/

/-- The steps in natural numbers: each difference is of a number and a smaller one. -/
def plan (clock : Clock) (timeout : Nat) : List Nat :=
  let jiffies := clock.msecsToJiffies (min timeout 15000)
  if timeout = 0 then [15 * clock.hz]
  else
    (if 1 < jiffies then [jiffies - 1, 1] else [jiffies]) ++
      ([1, 1] ++ if jiffies + 2 < 15 * clock.hz then [15 * clock.hz - 2 - jiffies] else [])

/-- The sums of the first steps, behind `before`. -/
def runningSums (before : Nat) : List Nat → List Nat
  | [] => []
  | step :: rest => (before + step) :: runningSums (before + step) rest

section Schedule

variable (clock : Clock) (timeout : Nat) (step : TimeoutStep)

theorem jiffies_bounded (some_ : timeout ≠ 0) :
    1 ≤ clock.msecsToJiffies (min timeout 15000) ∧
      clock.msecsToJiffies (min timeout 15000) ≤ 15 * clock.hz :=
  clock.bounded (min timeout 15000) (by omega) (by omega)

theorem timeoutInJiffies_eq (some_ : timeout ≠ 0) :
    timeoutInJiffies clock timeout = clock.msecsToJiffies (min timeout 15000) := by
  have bounded := jiffies_bounded clock timeout some_
  have fits := clock.fits
  have capped : (if timeout > resleepTimeout * msecPerSec then resleepTimeout * msecPerSec
      else timeout) = min timeout 15000 := by
    change (if timeout > 15000 then 15000 else timeout) = _
    split
    · omega
    · omega
  unfold timeoutInJiffies
  rw [capped, u32_of_lt (by omega)]

theorem initTimeoutStep_cur : (initTimeoutStep clock timeout step).cur = 0 := by
  unfold initTimeoutStep
  split
  · rfl
  simp only
  split
  · rfl
  · rfl

theorem initTimeoutStep_timeoutReset :
    (initTimeoutStep clock timeout step).timeoutReset = step.timeoutReset := by
  unfold initTimeoutStep
  split
  · rfl
  simp only
  split
  · split
    · rfl
    · rfl
  · split
    · rfl
    · rfl

theorem initTimeoutStep_schedule :
    (initTimeoutStep clock timeout step).schedule = plan clock timeout := by
  by_cases none : timeout = 0
  · unfold initTimeoutStep plan
    simp only [none, if_true]
    rfl
  · have fits := clock.fits
    obtain ⟨least, most⟩ := jiffies_bounded clock timeout none
    unfold initTimeoutStep plan
    simp only [timeoutInJiffies_eq clock timeout none, none, if_false]
    generalize clock.msecsToJiffies (min timeout 15000) = jiffies at least most
    have more : u32 (jiffies + 2) = jiffies + 2 := u32_of_lt (by omega)
    have room : resleepTimeout * clock.hz > u32 (jiffies + 2) ↔ jiffies + 2 < 15 * clock.hz := by
      rw [more]
      exact Iff.rfl
    have less : 1 < jiffies → sub32 jiffies 1 = jiffies - 1 :=
      fun large => sub32_of_le (by omega) (by omega)
    have rest : jiffies + 2 < 15 * clock.hz →
        sub32 (sub32 (resleepTimeout * clock.hz) 2) jiffies = 15 * clock.hz - 2 - jiffies := by
      intro space
      have inner : sub32 (15 * clock.hz) 2 = 15 * clock.hz - 2 :=
        sub32_of_le (by omega) (by omega)
      change sub32 (sub32 (15 * clock.hz) 2) jiffies = _
      rw [inner]
      exact sub32_of_le (by omega) (by omega)
    simp only [room]
    by_cases large : 1 < jiffies
    · have above : jiffies > 1 := large
      by_cases space : jiffies + 2 < 15 * clock.hz
      · simp only [above, space, if_true, less large, rest space]
        rfl
      · simp only [above, space, if_true, if_false, less large]
        rfl
    · have below : ¬jiffies > 1 := large
      by_cases space : jiffies + 2 < 15 * clock.hz
      · simp only [below, space, if_true, if_false, rest space]
        rfl
      · simp only [below, space, if_false]
        rfl

theorem initTimeoutStep_size :
    (initTimeoutStep clock timeout step).size = (plan clock timeout).length := by
  rw [← initTimeoutStep_schedule clock timeout step, TimeoutStep.schedule, List.length_map,
    List.length_range]

/-- What `init_timeout_step` promises of the steps for `timeout`. -/
structure WellFormed (clock : Clock) (timeout : Nat) (step : TimeoutStep) : Prop where
  exact_ : step.schedule = plan clock timeout
  size : 1 ≤ step.size ∧ step.size ≤ toStepSize
  first : step.cur = 0
  positive : ∀ one ∈ step.schedule, 0 < one
  sums : timeout ≠ 0 → ∀ sum,
    (sum = clock.msecsToJiffies (min timeout 15000) ∨
      sum = clock.msecsToJiffies (min timeout 15000) + 1 ∨
      sum = clock.msecsToJiffies (min timeout 15000) + 2 ∨
      1 < clock.msecsToJiffies (min timeout 15000) ∧
        sum = clock.msecsToJiffies (min timeout 15000) - 1) →
    sum ∈ runningSums 0 step.schedule
  total : step.schedule.sum =
    if timeout = 0 then 15 * clock.hz
    else max (15 * clock.hz) (clock.msecsToJiffies (min timeout 15000) + 2)

theorem plan_length : 1 ≤ (plan clock timeout).length ∧ (plan clock timeout).length ≤ 5 := by
  unfold plan
  simp only
  generalize clock.msecsToJiffies (min timeout 15000) = jiffies
  split
  · simp only [List.length_cons, List.length_nil]
    omega
  · simp only [List.length_append, List.length_cons, List.length_nil]
    by_cases large : 1 < jiffies
    · rw [if_pos large]
      split
      · simp only [List.length_cons, List.length_nil]
        omega
      · simp only [List.length_cons, List.length_nil]
        omega
    · rw [if_neg large]
      split
      · simp only [List.length_cons, List.length_nil]
        omega
      · simp only [List.length_cons, List.length_nil]
        omega

theorem plan_positive : ∀ one ∈ plan clock timeout, 0 < one := by
  by_cases none : timeout = 0
  · have positive := clock.positive
    unfold plan
    simp only [none, if_true, List.mem_singleton, forall_eq]
    omega
  · obtain ⟨least, _⟩ := jiffies_bounded clock timeout none
    unfold plan
    simp only [none, if_false]
    generalize clock.msecsToJiffies (min timeout 15000) = jiffies at least
    intro one member
    rcases List.mem_append.mp member with early | late
    · split at early
      · simp only [List.mem_cons, List.not_mem_nil, or_false] at early
        omega
      · simp only [List.mem_cons, List.not_mem_nil, or_false] at early
        omega
    · rcases List.mem_append.mp late with middle | last
      · simp only [List.mem_cons, List.not_mem_nil, or_false] at middle
        omega
      · split at last
        · simp only [List.mem_cons, List.not_mem_nil, or_false] at last
          omega
        · cases last

theorem plan_sums (some_ : timeout ≠ 0) (sum : Nat)
    (wanted : sum = clock.msecsToJiffies (min timeout 15000) ∨
      sum = clock.msecsToJiffies (min timeout 15000) + 1 ∨
      sum = clock.msecsToJiffies (min timeout 15000) + 2 ∨
      1 < clock.msecsToJiffies (min timeout 15000) ∧
        sum = clock.msecsToJiffies (min timeout 15000) - 1) :
    sum ∈ runningSums 0 (plan clock timeout) := by
  obtain ⟨least, _⟩ := jiffies_bounded clock timeout some_
  unfold plan
  simp only [some_, if_false]
  generalize clock.msecsToJiffies (min timeout 15000) = jiffies at least wanted
  by_cases large : 1 < jiffies
  · simp only [large, if_true, List.cons_append, List.nil_append, runningSums, List.mem_cons]
    omega
  · simp only [large, if_false, List.cons_append, List.nil_append, runningSums, List.mem_cons]
    omega

theorem plan_total :
    (plan clock timeout).sum =
      if timeout = 0 then 15 * clock.hz
      else max (15 * clock.hz) (clock.msecsToJiffies (min timeout 15000) + 2) := by
  by_cases none : timeout = 0
  · unfold plan
    simp only [none, if_true, List.sum_singleton]
  · obtain ⟨least, most⟩ := jiffies_bounded clock timeout none
    unfold plan
    simp only [none, if_false, List.sum_append]
    generalize clock.msecsToJiffies (min timeout 15000) = jiffies at least most
    by_cases large : 1 < jiffies
    · by_cases space : jiffies + 2 < 15 * clock.hz
      · simp only [large, space, if_true, List.sum_cons, List.sum_nil]
        omega
      · simp only [large, space, if_true, if_false, List.sum_cons, List.sum_nil]
        omega
    · by_cases space : jiffies + 2 < 15 * clock.hz
      · simp only [large, space, if_true, if_false, List.sum_cons, List.sum_nil]
        omega
      · simp only [large, space, if_false, List.sum_cons, List.sum_nil]
        omega

theorem initTimeoutStep_wellFormed :
    WellFormed clock timeout (initTimeoutStep clock timeout step) := by
  have same := initTimeoutStep_schedule clock timeout step
  refine
    { exact_ := same
      size := ?_
      first := initTimeoutStep_cur clock timeout step
      positive := ?_
      sums := ?_
      total := ?_ }
  · rw [initTimeoutStep_size]
    exact plan_length clock timeout
  · rw [same]
    exact plan_positive clock timeout
  · intro some_ sum wanted
    rw [same]
    exact plan_sums clock timeout some_ sum wanted
  · rw [same]
    exact plan_total clock timeout

end Schedule

/-! ### What the sleeps keep -/

section Sleeps

variable {clock : Clock} {round : Round} {step : TimeoutStep}

/-- The index is one of the steps in use. -/
structure TimeoutStep.Indexed (step : TimeoutStep) : Prop where
  below : step.cur < step.size
  small : step.size ≤ toStepSize

theorem resleep_spec (fuel : Nat) :
    ∀ n step, TimeoutStep.Indexed step → step.size ≤ step.cur + fuel →
      ∃ slept, resleep round fuel n step = some slept ∧ slept.step.Indexed ∧
        slept.step.timeoutReset = step.timeoutReset ∧ slept.wait ≠ .affinity ∧
        ∀ read ∈ slept.reads, read.1 < read.2 := by
  have once (step : TimeoutStep) (indexed : step.Indexed) :
      ∀ read ∈ [(step.cur, step.size)], read.1 < read.2 := by
    intro read member
    rw [List.mem_singleton.mp member]
    exact indexed.below
  induction fuel with
  | zero =>
      intro n step indexed enough
      have below := indexed.below
      omega
  | succ fuel ih =>
      intro n step indexed enough
      have below := indexed.below
      have small : step.size ≤ 5 := indexed.small
      have last : sub32 step.size 1 = step.size - 1 := sub32_of_le (by omega) (by omega)
      have next : u32 (step.cur + 1) = step.cur + 1 := u32_of_lt (by omega)
      unfold resleep
      rw [last, next]
      split
      · exact ⟨_, rfl, indexed, rfl, (nofun), once step indexed⟩
      split
      · next more =>
          have forward : TimeoutStep.Indexed { step with cur := step.cur + 1 } :=
            ⟨show step.cur + 1 < step.size by omega, indexed.small⟩
          simp only
          split
          · exact ⟨_, rfl, forward, rfl, (nofun), once step indexed⟩
          · obtain ⟨slept, ran, kept, reset, ended, reads⟩ :=
              ih (n + 1) { step with cur := step.cur + 1 } forward
                (show step.size ≤ step.cur + 1 + fuel by omega)
            rw [ran]
            refine ⟨_, rfl, kept, reset, ended, ?_⟩
            intro read member
            rcases List.mem_cons.mp member with rfl | later
            · exact below
            · exact reads read later
      · refine ⟨_, rfl, indexed, rfl, ?_, once step indexed⟩
        simp only
        split
        · nofun
        · nofun

theorem pendingStep_indexed (ready : step.cur = invalidStepSize ∨ step.Indexed) :
    (pendingStep clock round step).Indexed := by
  unfold pendingStep
  split
  · have formed := initTimeoutStep_wellFormed clock round.timeout step
    refine ⟨?_, formed.size.2⟩
    rw [formed.first]
    exact formed.size.1
  · next valid =>
      rcases ready with invalid | indexed
      · exact absurd invalid valid
      · exact indexed

/-- A wait comes to an end and reads the steps inside their size. -/
theorem procTaPending_spec (ready : step.cur = invalidStepSize ∨ step.Indexed) :
    ∃ slept, procTaPending clock round step = some slept ∧ slept.step.Indexed ∧
      slept.step.timeoutReset = step.timeoutReset ∧ slept.wait ≠ .affinity ∧
      ∀ read ∈ slept.reads, read.1 < read.2 := by
  have indexed : (pendingStep clock round step).Indexed := pendingStep_indexed ready
  have small : (pendingStep clock round step).size ≤ 5 := indexed.small
  obtain ⟨slept, ran, kept, reset, rest⟩ :=
    resleep_spec 5 0 (pendingStep clock round step) indexed (by omega)
  refine ⟨slept, ran, kept, ?_, rest⟩
  rw [reset]
  unfold pendingStep
  split
  · exact initTimeoutStep_timeoutReset clock round.timeout step
  · rfl

end Sleeps

end TzDriver.Smc
