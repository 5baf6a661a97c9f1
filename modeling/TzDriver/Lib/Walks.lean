/-
Walks along a line that look for the next thing from where the last one ended.
-/

import Mathlib.Data.Nat.Basic

namespace TzDriver.Lib

structure FirstHit (hit : Nat → Prop) (step : Nat) : Prop where
  here : hit step
  before : ∀ earlier < step, ¬hit earlier

theorem FirstHit.unique {hit : Nat → Prop} {step other : Nat} (first : FirstHit hit step)
    (second : FirstHit hit other) : step = other := by
  rcases Nat.lt_trichotomy step other with below | same | above
  · exact absurd first.here (second.before step below)
  · exact same
  · exact absurd second.here (first.before other above)

variable {next other : Nat → Option Nat} {stop : Nat → Nat}

/-- What a walk finds, one thing after the other. -/
inductive Walk (next : Nat → Option Nat) (stop : Nat → Nat) : Nat → List Nat → Prop where
  | done {start : Nat} : next start = none → Walk next stop start []
  | found {start item : Nat} {rest : List Nat} :
      next start = some item → Walk next stop (stop item) rest →
        Walk next stop start (item :: rest)

inductive Starts (next : Nat → Option Nat) (stop : Nat → Nat) (start : Nat) : Nat → Prop where
  | here : Starts next stop start start
  | after {place item : Nat} :
      Starts next stop start place → next place = some item → Starts next stop start (stop item)

theorem Starts.from_first {start item place : Nat} (finds : next start = some item)
    (starts : Starts next stop (stop item) place) : Starts next stop start place := by
  induction starts with
  | here => exact .after .here finds
  | after _ found ih => exact .after ih found

theorem Starts.split {start place : Nat} (starts : Starts next stop start place) :
    place = start ∨ ∃ item, next start = some item ∧ Starts next stop (stop item) place := by
  induction starts with
  | here => exact Or.inl rfl
  | after _ found ih =>
      rcases ih with rfl | ⟨first, finds, later⟩
      · exact Or.inr ⟨_, found, .here⟩
      · exact Or.inr ⟨first, finds, .after later found⟩

/-- Two walks find the same things exactly when they look alike from every place the
first one looks from. -/
theorem Walk.eq_iff {start : Nat} {items others : List Nat} (walk : Walk next stop start items)
    (second : Walk other stop start others) :
    items = others ↔ ∀ place, Starts next stop start place → next place = other place := by
  induction walk generalizing others with
  | @done start nothing =>
      cases second with
      | done also =>
          refine iff_of_true rfl fun place starts => ?_
          rcases starts.split with rfl | ⟨item, finds, _⟩
          · rw [nothing, also]
          · cases nothing.symm.trans finds
      | found finds _ =>
          refine iff_of_false (fun same => by cases same) fun alike => ?_
          cases nothing.symm.trans ((alike start .here).trans finds)
  | @found start item rest finds _ ih =>
      cases second with
      | done nothing =>
          refine iff_of_false (fun same => by cases same) fun alike => ?_
          cases finds.symm.trans ((alike start .here).trans nothing)
      | @found _ item' rest' finds' second' =>
          constructor
          · intro same place starts
            obtain ⟨rfl, sameRest⟩ := List.cons.inj same
            rcases starts.split with rfl | ⟨first, found, later⟩
            · rw [finds, finds']
            · obtain rfl := Option.some.inj (finds.symm.trans found)
              exact (ih second').mp sameRest place later
          · intro alike
            obtain rfl := Option.some.inj (finds.symm.trans ((alike start .here).trans finds'))
            rw [(ih second').mpr fun place later => alike place (later.from_first finds)]

/-! ### Walks up to a place -/

/-- What a walk finds that looks from no place after `last`, each thing with the place it was
looked for from. -/
inductive Visits (next : Nat → Option Nat) (stop : Nat → Nat) (last : Nat) :
    Nat → List (Nat × Nat) → Prop where
  | done {start : Nat} : next start = none → Visits next stop last start []
  | past {start : Nat} : last < start → Visits next stop last start []
  | found {start item : Nat} {rest : List (Nat × Nat)} :
      next start = some item → start ≤ last → Visits next stop last (stop item) rest →
        Visits next stop last start ((start, item) :: rest)

variable {last start place item : Nat} {visits rest : List (Nat × Nat)}

theorem Visits.unique (walk : Visits next stop last start visits)
    (second : Visits next stop last start rest) : visits = rest := by
  induction walk generalizing rest with
  | done nothing =>
      cases second with
      | done _ => rfl
      | past _ => rfl
      | found finds _ _ => cases nothing.symm.trans finds
  | past beyond =>
      cases second with
      | done _ => rfl
      | past _ => rfl
      | found _ before _ => exact absurd before (Nat.not_le_of_lt beyond)
  | found finds before _ ih =>
      cases second with
      | done nothing => cases nothing.symm.trans finds
      | past beyond => exact absurd before (Nat.not_le_of_lt beyond)
      | found finds' _ second' =>
          cases finds.symm.trans finds'
          rw [ih second']

/-- A walk goes on from each of its places as if it had begun there. -/
theorem Visits.from_place {earlier : List (Nat × Nat)}
    (walk : Visits next stop last start (earlier ++ (place, item) :: rest)) :
    Visits next stop last place ((place, item) :: rest) := by
  induction earlier generalizing start with
  | nil =>
      cases walk with
      | found finds before later => exact .found finds before later
  | cons first earlier ih =>
      cases walk with
      | found _ _ later => exact ih later

theorem Visits.le_last (walk : Visits next stop last start visits) :
    ∀ visit ∈ visits, visit.1 ≤ last := by
  induction walk with
  | done _ => rintro visit ⟨⟩
  | past _ => rintro visit ⟨⟩
  | found _ before _ ih => exact List.forall_mem_cons.mpr ⟨before, ih⟩

section Onward

variable (onward : ∀ start item, next start = some item → start < stop item)

include onward

theorem Visits.start_le (walk : Visits next stop last start visits) :
    ∀ visit ∈ visits, start ≤ visit.1 := by
  induction walk with
  | done _ => rintro visit ⟨⟩
  | past _ => rintro visit ⟨⟩
  | found finds _ _ ih =>
      rw [List.forall_mem_cons]
      constructor
      · exact Nat.le_refl _
      · intro visit member
        exact Nat.le_trans (Nat.le_of_lt (onward _ _ finds)) (ih visit member)

theorem Visits.up_to {earlier : List (Nat × Nat)}
    (walk : Visits next stop last start (earlier ++ (place, item) :: rest)) :
    Visits next stop place start (earlier ++ [(place, item)]) := by
  induction earlier generalizing start with
  | nil =>
      cases walk with
      | found finds _ _ => exact .found finds (Nat.le_refl _) (.past (onward _ _ finds))
  | cons first earlier ih =>
      cases walk with
      | found finds _ later =>
          apply Visits.found finds
          · exact Nat.le_trans (Nat.le_of_lt (onward _ _ finds))
              (later.start_le onward (place, item) (List.mem_append_right _ List.mem_cons_self))
          · exact ih later

theorem Visits.place_lt {earlier later : List (Nat × Nat)} {place' item' : Nat}
    (walk : Visits next stop last start
      (earlier ++ (place, item) :: (rest ++ (place', item') :: later))) : place < place' := by
  cases walk.from_place with
  | found finds _ after =>
      have behind := after.start_le onward (place', item')
        (List.mem_append_right _ List.mem_cons_self)
      exact Nat.lt_of_lt_of_le (onward _ _ finds) behind

end Onward

/-! ### Walks round the end -/

/-- What is found from `first` up to `last` on a line whose end is at `len`: where `last` is not
after `first`, the walk goes on from the beginning of the line. -/
inductive RoundVisits (next : Nat → Option Nat) (stop : Nat → Nat) (len first last : Nat) :
    List (Nat × Nat) → Prop where
  | straight {visits : List (Nat × Nat)} :
      first < last → Visits next stop last first visits → RoundVisits next stop len first last visits
  | round {upper lower : List (Nat × Nat)} :
      last ≤ first → Visits next stop len first upper → Visits next stop last 0 lower →
        RoundVisits next stop len first last (upper ++ lower)

theorem append_eq_middle {Entry : Type} {upper lower before after : List Entry} {entry : Entry}
    (same : upper ++ lower = before ++ entry :: after) :
    (∃ rest, upper = before ++ entry :: rest ∧ after = rest ++ lower) ∨
      ∃ rest, lower = rest ++ entry :: after ∧ before = upper ++ rest := by
  rcases List.append_eq_append_iff.mp same with ⟨rest, rfl, rfl⟩ | ⟨rest, rfl, tail⟩
  · exact .inr ⟨rest, rfl, rfl⟩
  · cases rest with
    | nil =>
        right
        refine ⟨[], ?_, ?_⟩
        · exact tail.symm
        · rw [List.append_nil, List.append_nil]
    | cons head rest =>
        obtain ⟨rfl, rfl⟩ := List.cons.inj tail
        exact .inl ⟨rest, rfl, rfl⟩

/-- A section of a walk, from one of its places to a later one, is the walk between them. -/
theorem RoundVisits.section_
    (onward : ∀ start item, next start = some item → start < stop item) {len : Nat}
    {first : Nat} {before middle after : List (Nat × Nat)} {place' item' : Nat}
    (walk : RoundVisits next stop len first last
      (before ++ (place, item) :: (middle ++ (place', item') :: after))) :
    RoundVisits next stop len place place' ((place, item) :: (middle ++ [(place', item')])) := by
  have inside : ∀ {bound from_ : Nat} {earlier later : List (Nat × Nat)},
      Visits next stop bound from_
        (earlier ++ (place, item) :: (middle ++ (place', item') :: later)) →
      RoundVisits next stop len place place' ((place, item) :: (middle ++ [(place', item')])) := by
    intro bound from_ earlier later visits
    have begun : Visits next stop bound place
        (((place, item) :: middle) ++ (place', item') :: later) := visits.from_place
    exact .straight (visits.place_lt onward) (begun.up_to onward)
  generalize whole : before ++ (place, item) :: (middle ++ (place', item') :: after) = visits
    at walk
  cases walk with
  | straight _ visits =>
      rw [← whole] at visits
      exact inside visits
  | @round upper lower crossed first_ second =>
      have split : upper ++ lower =
          (before ++ (place, item) :: middle) ++ (place', item') :: after := by
        rw [← whole, List.append_assoc, List.cons_append]
      rcases append_eq_middle split with ⟨rest, rfl, rfl⟩ | ⟨rest, rfl, earlier⟩
      · rw [List.append_assoc, List.cons_append] at first_
        exact inside first_
      · rcases append_eq_middle earlier.symm with ⟨tail, rfl, rfl⟩ | ⟨tail, rfl, rfl⟩
        · have low := second.le_last (place', item')
            (List.mem_append_right _ List.mem_cons_self)
          have high := first_.start_le onward (place, item)
            (List.mem_append_right _ List.mem_cons_self)
          have joined : (place, item) :: (tail ++ rest ++ [(place', item')]) =
              ((place, item) :: tail) ++ (rest ++ [(place', item')]) := by
            rw [List.cons_append, List.append_assoc]
          rw [joined]
          apply RoundVisits.round
          · exact Nat.le_trans low (Nat.le_trans crossed high)
          · exact first_.from_place
          · exact second.up_to onward
        · rw [List.append_assoc, List.cons_append] at second
          exact inside second

end TzDriver.Lib
