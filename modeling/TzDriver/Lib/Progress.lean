/-
What a run can still come to.

A goal is within reach of a state if some run from there meets it.  It is out of reach from
inside a trap: a set of states that no step leaves and that does not meet the goal.
-/

import TzDriver.Lib.Runs

namespace TzDriver.Lib.Machine

variable {State Label : Type} {machine : Machine State Label} {goal : State → Prop}

def CanReach (machine : Machine State Label) (goal : State → Prop) (state : State) : Prop :=
  ∃ later, (machine.since state).Reachable later ∧ goal later

theorem CanReach.here {state : State} (met : goal state) : machine.CanReach goal state :=
  ⟨state, .start rfl, met⟩

theorem CanReach.before {before after : State} (label : Label)
    (taken : machine.step before label after) (can : machine.CanReach goal after) :
    machine.CanReach goal before := by
  obtain ⟨later, went, met⟩ := can
  exact ⟨later, Reachable.since_step taken went, met⟩

/-- What every step keeps is not left on any run. -/
theorem CanReach.of_kept {Kept : State → Prop} {state : State}
    (keep : ∀ before label after, Kept before → machine.step before label after → Kept after)
    (kept : Kept state) (can : machine.CanReach goal state) : ∃ later, Kept later ∧ goal later := by
  obtain ⟨later, went, met⟩ := can
  have still : Kept later := by
    apply went.invariant
    · rintro start rfl
      exact kept
    · exact keep
  exact ⟨later, still, met⟩

theorem not_canReach_of_trap {Trap : State → Prop} {state : State}
    (keep : ∀ before label after, Trap before → machine.step before label after → Trap after)
    (never : ∀ later, Trap later → ¬goal later) (caught : Trap state) :
    ¬machine.CanReach goal state := by
  intro can
  obtain ⟨later, still, met⟩ := can.of_kept keep caught
  exact never later still met

end TzDriver.Lib.Machine
