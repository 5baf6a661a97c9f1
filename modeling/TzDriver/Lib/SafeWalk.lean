/-
Walks that save the next entry before they work on the current one
(`list_for_each_entry_safe`).

Such a walk is safe as long as the work on an entry takes no other entry off the list.
It then works on every entry of the list that it began with, once and in order.
-/

import Mathlib.Data.List.Nodup

namespace TzDriver.Lib

variable {State Entry : Type} [DecidableEq Entry]

def successor (entry : Entry) : List Entry → Option Entry
  | [] => none
  | first :: rest => if first = entry then rest.head? else successor entry rest

/-- `none` where the walk reads an entry that is not on the list any more, or where the passes
do not suffice. -/
def safeWalk (entries : State → List Entry) (body : Entry → State → State) :
    Nat → Option Entry → State → Option State
  | _, none, state => some state
  | 0, some _, _ => none
  | passes + 1, some entry, state =>
      if entry ∈ entries state then
        safeWalk entries body passes (successor entry (entries state)) (body entry state)
      else none

/-- The work on an entry leaves the other entries where they are. -/
def KeepsOthers (Holds : State → Prop) (entries : State → List Entry)
    (body : Entry → State → State) : Prop :=
  ∀ entry state, Holds state → Holds (body entry state) ∧
    (entries (body entry state) = entries state ∨
      entries (body entry state) = (entries state).erase entry)

section SafeWalk

variable {Holds : State → Prop} {entries : State → List Entry} {body : Entry → State → State}
  {state : State}

theorem successor_append {before after : List Entry} {entry : Entry} (others : entry ∉ before) :
    successor entry (before ++ entry :: after) = after.head? := by
  induction before with
  | nil => simp only [List.nil_append, successor, if_true]
  | cons first rest ih =>
      rw [List.mem_cons, not_or] at others
      simp only [List.cons_append, successor, Ne.symm others.1, if_false]
      exact ih others.2

theorem safeWalk_from (keeps : KeepsOthers Holds entries body) (holds : Holds state)
    {before after : List Entry} (here : entries state = before ++ after)
    (once : (entries state).Nodup) {passes : Nat} (enough : after.length ≤ passes) :
    safeWalk entries body passes after.head? state =
      some (after.foldl (fun state entry => body entry state) state) := by
  induction after generalizing before state passes with
  | nil => cases passes with
    | zero => rfl
    | succ passes => rfl
  | cons entry rest ih =>
      obtain ⟨passes, rfl⟩ : ∃ more, passes = more + 1 :=
        Nat.exists_eq_succ_of_ne_zero (by simp at enough; omega)
      obtain ⟨held, changed⟩ := keeps entry state holds
      rw [here] at once changed
      have notBefore : entry ∉ before := by
        intro member
        exact (List.nodup_append.mp once).2.2 entry member entry List.mem_cons_self rfl
      simp only [List.head?_cons, safeWalk, here, List.mem_append, List.mem_cons, true_or, or_true,
        if_true, List.foldl_cons]
      rw [successor_append notBefore]
      have fits : rest.length ≤ passes := by simpa using enough
      rcases changed with same | erased
      · apply ih held _ _ fits
        · exact before ++ [entry]
        · rw [same, List.append_assoc, List.singleton_append]
        · rw [same]
          exact once
      · rw [List.erase_append_right _ notBefore, List.erase_cons_head] at erased
        apply ih held erased _ fits
        rw [erased]
        exact once.sublist (List.sublist_cons_self entry rest |>.append_left before)

theorem safeWalk_eq (keeps : KeepsOthers Holds entries body) (holds : Holds state)
    (once : (entries state).Nodup) :
    safeWalk entries body (entries state).length (entries state).head? state =
      some ((entries state).foldl (fun state entry => body entry state) state) :=
  safeWalk_from keeps holds (List.nil_append _).symm once (Nat.le_refl _)

end SafeWalk

end TzDriver.Lib
