/-
Walks along a list that stop at the first entry they look for.
-/

import Mathlib.Data.List.Basic

namespace TzDriver.Lib

variable {Entry : Type} {matching : Entry → Bool} {change : Entry → Entry}

def updateFirst (matching : Entry → Bool) (change : Entry → Entry) : List Entry → List Entry
  | [] => []
  | entry :: rest =>
      if matching entry then change entry :: rest
      else entry :: updateFirst matching change rest

theorem updateFirst_append {before : List Entry} {entry : Entry} {after : List Entry}
    (others : ∀ other ∈ before, matching other = false) (found : matching entry = true) :
    updateFirst matching change (before ++ entry :: after) =
      before ++ change entry :: after := by
  induction before with
  | nil => simp only [List.nil_append, updateFirst, found, if_true]
  | cons first rest ih =>
      have notFirst : matching first = false := others first List.mem_cons_self
      simp only [List.cons_append, updateFirst, notFirst, Bool.false_eq_true, if_false]
      rw [ih fun other member => others other (List.mem_cons_of_mem _ member)]

theorem updateFirst_none {entries : List Entry}
    (others : ∀ other ∈ entries, matching other = false) :
    updateFirst matching change entries = entries := by
  induction entries with
  | nil => rfl
  | cons first rest ih =>
      have notFirst : matching first = false := others first List.mem_cons_self
      simp only [updateFirst, notFirst, Bool.false_eq_true, if_false]
      rw [ih fun other member => others other (List.mem_cons_of_mem _ member)]

theorem length_updateFirst (matching : Entry → Bool) (change : Entry → Entry) (entries : List Entry) :
    (updateFirst matching change entries).length = entries.length := by
  induction entries with
  | nil => rfl
  | cons first rest ih =>
      unfold updateFirst
      split
      · rfl
      · rw [List.length_cons, ih, List.length_cons]

theorem forall_updateFirst {Holds : Entry → Prop} {entries : List Entry}
    (all : ∀ entry ∈ entries, Holds entry)
    (kept : ∀ entry, matching entry = true → Holds entry → Holds (change entry)) :
    ∀ entry ∈ updateFirst matching change entries, Holds entry := by
  induction entries with
  | nil => exact all
  | cons first rest ih =>
      rw [List.forall_mem_cons] at all
      unfold updateFirst
      split
      · next found => exact List.forall_mem_cons.mpr ⟨kept first found all.1, all.2⟩
      · exact List.forall_mem_cons.mpr ⟨all.1, ih all.2⟩

/-- A list walk stops nowhere, or at one entry with no match before it. -/
theorem walk (matching : Entry → Bool) (entries : List Entry) :
    (∀ other ∈ entries, matching other = false) ∨
      ∃ before entry after, entries = before ++ entry :: after ∧ matching entry = true ∧
        ∀ other ∈ before, matching other = false := by
  induction entries with
  | nil => exact Or.inl fun other member => by cases member
  | cons first rest ih =>
      cases here : matching first with
      | true => exact Or.inr ⟨[], first, rest, rfl, here, fun other member => by cases member⟩
      | false =>
          have also {list : List Entry} (others : ∀ other ∈ list, matching other = false) :
              ∀ other ∈ first :: list, matching other = false := by
            intro other member
            rcases List.mem_cons.mp member with rfl | inRest
            · exact here
            · exact others other inRest
          rcases ih with none | ⟨before, entry, after, rfl, found, others⟩
          · exact Or.inl (also none)
          · exact Or.inr ⟨first :: before, entry, after, rfl, found, also others⟩

theorem find?_walk {before : List Entry} {entry : Entry} {after : List Entry}
    (others : ∀ other ∈ before, matching other = false) (found : matching entry = true) :
    (before ++ entry :: after).find? matching = some entry := by
  rw [List.find?_append, List.find?_eq_none.mpr (by simpa using others)]
  simp [found]

end TzDriver.Lib
