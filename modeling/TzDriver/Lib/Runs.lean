/-
Labelled machines and the states their runs reach.

A machine is an initial predicate and a labelled step relation.  A condition on
steps narrows the machine, so that a statement about every run whose steps all
meet the condition is a statement about the narrowed machine.
-/

import Mathlib.Data.Set.Basic

namespace TzDriver.Lib

structure Machine (State Label : Type) where
  init : State → Prop
  step : State → Label → State → Prop

namespace Machine

variable {State Label : Type}

inductive Reachable (machine : Machine State Label) : State → Prop where
  | start {state : State} : machine.init state → Reachable machine state
  | next {before after : State} {label : Label} :
      Reachable machine before → machine.step before label after →
        Reachable machine after

/-- Keep only the steps that meet `allowed` in the state they start from. -/
def restrict (machine : Machine State Label) (allowed : State → Label → Prop) :
    Machine State Label :=
  { init := machine.init
    step := fun before label after =>
      allowed before label ∧ machine.step before label after }

/-- The same steps, from one state on. -/
def since (machine : Machine State Label) (state : State) : Machine State Label :=
  { machine with init := fun start => start = state }

/-- What holds initially and survives every step holds in every reached state. -/
theorem Reachable.invariant {machine : Machine State Label} {Holds : State → Prop}
    (base : ∀ state, machine.init state → Holds state)
    (keep : ∀ before label after, Holds before → machine.step before label after →
      Holds after)
    {state : State} (reached : machine.Reachable state) : Holds state := by
  induction reached with
  | start initial => exact base _ initial
  | next _ taken ih => exact keep _ _ _ ih taken

/-- A run goes on where another one has ended. -/
theorem Reachable.since_trans {machine : Machine State Label} {first middle last : State}
    (begun : (machine.since first).Reachable middle)
    (went : (machine.since middle).Reachable last) : (machine.since first).Reachable last := by
  induction went with
  | start same =>
      subst same
      exact begun
  | next _ taken ih => exact .next ih taken

theorem Reachable.since_step {machine : Machine State Label} {first middle last : State}
    {label : Label} (taken : machine.step first label middle)
    (went : (machine.since middle).Reachable last) : (machine.since first).Reachable last :=
  Reachable.since_trans (.next (.start rfl) taken) went

theorem Reachable.restrict_mono {machine : Machine State Label}
    {strict loose : State → Label → Prop}
    (weaker : ∀ state label, strict state label → loose state label)
    {state : State} (reached : (machine.restrict strict).Reachable state) :
    (machine.restrict loose).Reachable state := by
  induction reached with
  | start initial => exact .start initial
  | next _ taken ih => exact .next ih ⟨weaker _ _ taken.1, taken.2⟩

/-- Run a computable step function along a list of labels.  `none` marks a label
that the state does not admit. -/
def replay (step : State → Label → Option State) : State → List Label → Option State
  | state, [] => some state
  | state, label :: rest => (step state label).bind (fun after => replay step after rest)

/-- A step function that refuses what `allowed` forbids. -/
def guarded (allowed : State → Label → Prop) [∀ state label, Decidable (allowed state label)]
    (step : State → Label → Option State) (state : State) (label : Label) : Option State :=
  if allowed state label then step state label else none

theorem guarded_sound {machine : Machine State Label} {allowed : State → Label → Prop}
    [∀ state label, Decidable (allowed state label)] {step : State → Label → Option State}
    (sound : ∀ before label after, step before label = some after →
      machine.step before label after)
    (before : State) (label : Label) (after : State)
    (ran : guarded allowed step before label = some after) :
    (machine.restrict allowed).step before label after := by
  unfold guarded at ran
  split at ran
  · next permitted => exact ⟨permitted, sound before label after ran⟩
  · cases ran

/-- A successful replay of a functional machine ends in a reached state. -/
theorem Reachable.of_replay {machine : Machine State Label}
    {step : State → Label → Option State}
    (sound : ∀ before label after, step before label = some after →
      machine.step before label after)
    {labels : List Label} {first last : State} (reached : machine.Reachable first)
    (ran : replay step first labels = some last) : machine.Reachable last := by
  induction labels generalizing first with
  | nil =>
      have same : first = last := Option.some.inj ran
      exact same ▸ reached
  | cons label rest ih =>
      obtain ⟨after, stepped, ranRest⟩ := Option.bind_eq_some_iff.mp ran
      exact ih (.next reached (sound _ _ _ stepped)) ranRest

theorem Reachable.exists_of_replay {machine : Machine State Label}
    {step : State → Label → Option State}
    (sound : ∀ before label after, step before label = some after →
      machine.step before label after)
    {labels : List Label} {first : State} {test : State → Bool}
    (reached : machine.Reachable first) (ran : (replay step first labels).map test = some true) :
    ∃ last, machine.Reachable last ∧ test last = true := by
  obtain ⟨last, replayed, passed⟩ := Option.map_eq_some_iff.mp ran
  exact ⟨last, reached.of_replay sound replayed, passed⟩

end Machine

end TzDriver.Lib
