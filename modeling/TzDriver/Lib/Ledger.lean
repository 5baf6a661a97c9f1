/-
Ledgers of acquired and released resources.

A ledger is what one caller did, in order.  It is settled when every release
returns something the caller acquired and still holds, and nothing is held at
the end.  A shared object that is kept alive by a reference count sees a settled
ledger as no change at all, whatever its other users do.
-/

import Mathlib.Data.Multiset.AddSub

namespace TzDriver.Lib

inductive Entry (Resource : Type) where
  | acquire (resource : Resource)
  | release (resource : Resource)
deriving DecidableEq, Repr

namespace Ledger

variable {Resource : Type} [DecidableEq Resource]

/-- What is held after the entries; `none` once something is released that is
not held. -/
def held : Multiset Resource → List (Entry Resource) → Option (Multiset Resource)
  | before, [] => some before
  | before, .acquire resource :: rest => held (resource ::ₘ before) rest
  | before, .release resource :: rest =>
      if resource ∈ before then held (before.erase resource) rest else none

def Settled (entries : List (Entry Resource)) : Prop :=
  held 0 entries = some 0

theorem held_append (before : Multiset Resource) (first second : List (Entry Resource)) :
    held before (first ++ second) = (held before first).bind fun middle => held middle second := by
  induction first generalizing before with
  | nil => rfl
  | cons entry rest ih =>
      cases entry with
      | acquire resource => exact ih _
      | release resource =>
          simp only [List.cons_append, held]
          split
          · exact ih _
          · rfl

theorem held_append_some {before middle : Multiset Resource} {first : List (Entry Resource)}
    (ran : held before first = some middle) (second : List (Entry Resource)) :
    held before (first ++ second) = held middle second := by
  rw [held_append, ran]
  rfl

@[simp] theorem held_acquire (before : Multiset Resource) (resource : Resource) :
    held before [.acquire resource] = some (resource ::ₘ before) := rfl

theorem held_of_release {before finish : Multiset Resource} {resource : Resource}
    {rest : List (Entry Resource)} (ran : held before (.release resource :: rest) = some finish) :
    resource ∈ before ∧ held (before.erase resource) rest = some finish := by
  simp only [held] at ran
  split at ran
  · next member => exact ⟨member, ran⟩
  · cases ran

theorem held_release_cons (before : Multiset Resource) (resource : Resource)
    (rest : List (Entry Resource)) :
    held (resource ::ₘ before) (.release resource :: rest) = held before rest := by
  simp [held]

theorem held_release (before : Multiset Resource) (resource : Resource) :
    held (resource ::ₘ before) [.release resource] = some before :=
  held_release_cons before resource []

/-! ### Reference counts -/

/-- The count of every object after the entries, from the counts before them. -/
def counts (before : Resource → Nat) : List (Entry Resource) → Resource → Nat
  | [] => before
  | .acquire resource :: rest =>
      counts (Function.update before resource (before resource + 1)) rest
  | .release resource :: rest =>
      counts (Function.update before resource (before resource - 1)) rest

/-- The objects whose count a release takes to zero, in order. -/
def destroyed (before : Resource → Nat) : List (Entry Resource) → List Resource
  | [] => []
  | .acquire resource :: rest =>
      destroyed (Function.update before resource (before resource + 1)) rest
  | .release resource :: rest =>
      let after := Function.update before resource (before resource - 1)
      if after resource = 0 then resource :: destroyed after rest else destroyed after rest

/-- The counts are what the others hold and what the caller holds. -/
def Shared (others before : Resource → Nat) (start : Multiset Resource) : Prop :=
  ∀ resource, before resource = others resource + start.count resource

theorem Shared.acquire {others before : Resource → Nat} {start : Multiset Resource}
    (share : Shared others before start) (taken : Resource) :
    Shared others (Function.update before taken (before taken + 1)) (taken ::ₘ start) := by
  intro other
  by_cases same : other = taken
  · subst same
    rw [Function.update_self, Multiset.count_cons_self, share]
    omega
  · rw [Function.update_of_ne same, Multiset.count_cons_of_ne same, share]

theorem Shared.release {others before : Resource → Nat} {start : Multiset Resource}
    (share : Shared others before start) {given : Resource} (member : given ∈ start) :
    Shared others (Function.update before given (before given - 1)) (start.erase given) := by
  intro other
  by_cases same : other = given
  · subst same
    have positive := Multiset.count_pos.mpr member
    rw [Function.update_self, Multiset.count_erase_self, share]
    omega
  · rw [Function.update_of_ne same, Multiset.count_erase_of_ne same, share]

theorem counts_of_held {others before : Resource → Nat} {start finish : Multiset Resource}
    {entries : List (Entry Resource)} (ran : held start entries = some finish)
    (share : Shared others before start) : Shared others (counts before entries) finish := by
  induction entries generalizing before start with
  | nil =>
      rw [← Option.some.inj ran]
      exact share
  | cons entry rest ih =>
      cases entry with
      | acquire taken => exact ih ran (share.acquire taken)
      | release given =>
          obtain ⟨member, ranRest⟩ := held_of_release ran
          exact ih ranRest (share.release member)

theorem counts_of_settled {entries : List (Entry Resource)} (settled : Settled entries)
    (before : Resource → Nat) : counts before entries = before := by
  funext resource
  have share : Shared before before (0 : Multiset Resource) := fun other => by
    rw [Multiset.count_zero, Nat.add_zero]
  have after := counts_of_held settled share resource
  rwa [Multiset.count_zero, Nat.add_zero] at after

/-- While others keep an object alive, no release of the caller's destroys it. -/
theorem not_destroyed_of_held {others before : Resource → Nat} {start finish : Multiset Resource}
    {entries : List (Entry Resource)} (ran : held start entries = some finish)
    (share : Shared others before start) {resource : Resource} (alive : 0 < others resource) :
    resource ∉ destroyed before entries := by
  induction entries generalizing before start with
  | nil =>
      intro member
      cases member
  | cons entry rest ih =>
      cases entry with
      | acquire taken => exact ih ran (share.acquire taken)
      | release given =>
          obtain ⟨member, ranRest⟩ := held_of_release ran
          have later := ih ranRest (share.release member)
          simp only [destroyed, Function.update_self]
          split
          · rename_i last
            intro inList
            cases inList with
            | head =>
                have positive := Multiset.count_pos.mpr member
                have counted := share resource
                omega
            | tail _ inRest => exact later inRest
          · exact later

end Ledger

end TzDriver.Lib
