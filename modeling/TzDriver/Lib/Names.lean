/-
Names that are handed out and taken back, and the places that keep the items
named by them.

No name is handed out while it is out, but a place learns of either move late: a
name is out before its item has entered, and it is back before its item has been
removed.  One keeper at a time serves a place from the one moment to the other.
The items of a place then never share a name, though items of two places may.
-/

import Mathlib.Data.Multiset.AddSub
import Mathlib.Data.Set.Insert
import Mathlib.Logic.Function.Basic

namespace TzDriver.Lib

/-- `taken` is a name whose item has not entered yet, `leaving` an item whose name
is back already, and `out` the names that are out. -/
structure Names (Place Item Name : Type) where
  items : Place → Set Item
  name : Item → Name
  taken : Place → Option Name
  leaving : Place → Option Item
  out : Set Name

namespace Names

variable {Place Item Name : Type}

/-- Who has a name: the keeper of a place, or an item at a place. -/
inductive Holds (names : Names Place Item Name) : Place ⊕ Place × Item → Name → Prop where
  | keeper {place : Place} {name : Name} (taken : names.taken place = some name) :
      Holds names (.inl place) name
  | item {place : Place} {item : Item} (member : item ∈ names.items place)
      (stays : names.leaving place ≠ some item) : Holds names (.inr (place, item)) (names.name item)

structure Distinct (names : Names Place Item Name) : Prop where
  once : ∀ {first second name}, names.Holds first name → names.Holds second name → first = second
  out : ∀ {holder name}, names.Holds holder name → name ∈ names.out
  here : ∀ {place first second}, first ∈ names.items place → second ∈ names.items place →
    names.name first = names.name second → first = second

theorem Holds.of_idle {names : Names Place Item Name} {place : Place} {item : Item}
    (member : item ∈ names.items place) (idle : names.leaving place = none) :
    names.Holds (.inr (place, item)) (names.name item) := by
  refine .item member ?_
  rw [idle]
  exact (Option.some_ne_none item).symm

variable [DecidableEq Place] (names : Names Place Item Name) {place : Place}

def take (place : Place) (name : Name) : Names Place Item Name :=
  { names with taken := Function.update names.taken place (some name), out := insert name names.out }

def forget (place : Place) : Names Place Item Name :=
  { names with taken := Function.update names.taken place none }

def enter [DecidableEq Item] (place : Place) (item : Item) (name : Name) :
    Names Place Item Name :=
  { names.forget place with
    items := Function.update names.items place (insert item (names.items place))
    name := Function.update names.name item name }

def giveBack (place : Place) (item : Item) : Names Place Item Name :=
  { names with
    leaving := Function.update names.leaving place (some item)
    out := names.out \ {names.name item} }

def remove (place : Place) (item : Item) : Names Place Item Name :=
  { names with
    items := Function.update names.items place (names.items place \ {item})
    leaving := Function.update names.leaving place none }

variable {names}

theorem Distinct.take (distinct : names.Distinct) {name : Name} (fresh : name ∉ names.out) :
    (names.take place name).Distinct := by
  have split {holder : Place ⊕ Place × Item} {other : Name}
      (holds : (names.take place name).Holds holder other) :
      (holder = .inl place ∧ other = name) ∨ names.Holds holder other := by
    cases holds with
    | @keeper at_ _ taken =>
        change Function.update names.taken place (some name) at_ = _ at taken
        by_cases same : at_ = place
        · subst same
          rw [Function.update_self] at taken
          exact Or.inl ⟨rfl, (Option.some.inj taken).symm⟩
        · rw [Function.update_of_ne same] at taken
          exact Or.inr (.keeper taken)
    | item member stays => exact Or.inr (.item member stays)
  refine ⟨?_, ?_, distinct.here⟩
  · intro first second other firstHolds secondHolds
    rcases split firstHolds with ⟨rfl, rfl⟩ | firstHeld
    · rcases split secondHolds with ⟨rfl, _⟩ | secondHeld
      · rfl
      · exact absurd (distinct.out secondHeld) fresh
    · rcases split secondHolds with ⟨rfl, rfl⟩ | secondHeld
      · exact absurd (distinct.out firstHeld) fresh
      · exact distinct.once firstHeld secondHeld
  · intro holder other holds
    rcases split holds with ⟨_, rfl⟩ | held
    · exact Set.mem_insert _ _
    · exact Set.mem_insert_of_mem _ (distinct.out held)

omit [DecidableEq Place] in
theorem Distinct.fewer (distinct : names.Distinct) {after : Names Place Item Name}
    (holds : ∀ {holder name}, after.Holds holder name → names.Holds holder name)
    (out : names.out ⊆ after.out) (name : after.name = names.name)
    (items : ∀ place, after.items place ⊆ names.items place) : after.Distinct := by
  refine ⟨fun first second => distinct.once (holds first) (holds second),
    fun held => out (distinct.out (holds held)), ?_⟩
  intro place first second firstMember secondMember same
  rw [name] at same
  exact distinct.here (items place firstMember) (items place secondMember) same

theorem Distinct.forget (distinct : names.Distinct) : (names.forget place).Distinct := by
  refine distinct.fewer ?_ subset_rfl rfl (fun _ => subset_rfl)
  intro holder name holds
  cases holds with
  | @keeper at_ _ taken =>
      change Function.update names.taken place none at_ = _ at taken
      by_cases same : at_ = place
      · subst same
        rw [Function.update_self] at taken
        cases taken
      · rw [Function.update_of_ne same] at taken
        exact .keeper taken
  | item member stays => exact .item member stays

theorem Distinct.remove (distinct : names.Distinct) {item : Item}
    (keeper : ∀ other, names.leaving place = some other → other = item) :
    (names.remove place item).Distinct := by
  have fewer (at_ : Place) : (names.remove place item).items at_ ⊆ names.items at_ := by
    intro other member
    change other ∈ Function.update names.items place (names.items place \ {item}) at_ at member
    by_cases same : at_ = place
    · subst same
      rw [Function.update_self] at member
      exact member.1
    · rw [Function.update_of_ne same] at member
      exact member
  refine distinct.fewer ?_ subset_rfl rfl fewer
  intro holder name holds
  cases holds with
  | keeper taken => exact .keeper taken
  | @item at_ other member stays =>
      refine .item (fewer at_ member) ?_
      change other ∈ Function.update names.items place (names.items place \ {item}) at_ at member
      change Function.update names.leaving place none at_ ≠ _ at stays
      by_cases same : at_ = place
      · subst same
        rw [Function.update_self] at member
        intro leaves
        exact member.2 (keeper other leaves)
      · rw [Function.update_of_ne same] at stays
        exact stays

theorem Distinct.giveBack (distinct : names.Distinct) {item : Item}
    (member : item ∈ names.items place) (idle : names.leaving place = none) :
    (names.giveBack place item).Distinct := by
  have before {holder : Place ⊕ Place × Item} {other : Name}
      (holds : (names.giveBack place item).Holds holder other) :
      names.Holds holder other ∧ holder ≠ .inr (place, item) := by
    cases holds with
    | keeper taken => exact ⟨.keeper taken, Sum.inl_ne_inr⟩
    | @item at_ target present stays =>
        change Function.update names.leaving place (some item) at_ ≠ _ at stays
        by_cases same : at_ = place
        · subst same
          rw [Function.update_self] at stays
          refine ⟨.of_idle present idle, ?_⟩
          intro equal
          cases equal
          exact stays rfl
        · rw [Function.update_of_ne same] at stays
          refine ⟨.item present stays, ?_⟩
          intro equal
          cases equal
          exact same rfl
  have held := Holds.of_idle member idle
  refine ⟨fun first second => distinct.once (before first).1 (before second).1, ?_, distinct.here⟩
  intro holder other holds
  obtain ⟨holding, different⟩ := before holds
  refine ⟨distinct.out holding, ?_⟩
  intro equality
  subst equality
  exact different (distinct.once holding held)

/-- The keeper who enters an item is alone, so nothing leaves the place. -/
theorem Distinct.enter [DecidableEq Item] (distinct : names.Distinct) {item : Item} {name : Name}
    (taken : names.taken place = some name) (idle : names.leaving place = none)
    (new : ∀ at_, item ∉ names.items at_) : (names.enter place item name).Distinct := by
  have sameName {at_ : Place} {other : Item} (member : other ∈ names.items at_) :
      (names.enter place item name).name other = names.name other := by
    refine Function.update_of_ne ?_ _ _
    intro equality
    subst equality
    exact new at_ member
  have newName : (names.enter place item name).name item = name := Function.update_self _ _ _
  have cases_ {at_ : Place} {other : Item}
      (member : other ∈ (names.enter place item name).items at_) :
      (at_ = place ∧ other = item) ∨ other ∈ names.items at_ := by
    change other ∈ Function.update names.items place (insert item (names.items place)) at_ at member
    by_cases same : at_ = place
    · subst same
      rw [Function.update_self] at member
      rcases member with rfl | old
      · exact Or.inl ⟨rfl, rfl⟩
      · exact Or.inr old
    · rw [Function.update_of_ne same] at member
      exact Or.inr member
  have keeper : names.Holds (.inl place) name := .keeper taken
  have split {holder : Place ⊕ Place × Item} {other : Name}
      (holds : (names.enter place item name).Holds holder other) :
      (holder = .inr (place, item) ∧ other = name) ∨
        (holder ≠ .inl place ∧ names.Holds holder other) := by
    cases holds with
    | @keeper at_ _ gone =>
        change Function.update names.taken place none at_ = _ at gone
        by_cases same : at_ = place
        · subst same
          rw [Function.update_self] at gone
          cases gone
        · rw [Function.update_of_ne same] at gone
          exact Or.inr ⟨fun equal => same (Sum.inl.inj equal), .keeper gone⟩
    | item member stays =>
        rcases cases_ member with ⟨rfl, rfl⟩ | old
        · exact Or.inl ⟨rfl, newName⟩
        · rw [sameName old]
          exact Or.inr ⟨Sum.inr_ne_inl, .item old stays⟩
  -- an item of the place with the new name would hold it beside the keeper
  have apart {other : Item} (member : other ∈ names.items place) : names.name other ≠ name := by
    intro same
    have held := Holds.of_idle member idle
    rw [same] at held
    cases distinct.once keeper held
  refine ⟨?_, ?_, ?_⟩
  · intro first second other firstHolds secondHolds
    rcases split firstHolds with ⟨rfl, rfl⟩ | ⟨firstApart, firstHeld⟩
    · rcases split secondHolds with ⟨rfl, _⟩ | ⟨secondApart, secondHeld⟩
      · rfl
      · exact absurd (distinct.once secondHeld keeper) secondApart
    · rcases split secondHolds with ⟨rfl, rfl⟩ | ⟨_, secondHeld⟩
      · exact absurd (distinct.once firstHeld keeper) firstApart
      · exact distinct.once firstHeld secondHeld
  · intro holder other holds
    rcases split holds with ⟨_, rfl⟩ | ⟨_, held⟩
    · exact distinct.out keeper
    · exact distinct.out held
  · intro at_ first second firstMember secondMember same
    rcases cases_ firstMember with ⟨rfl, rfl⟩ | firstOld
    · rcases cases_ secondMember with ⟨_, rfl⟩ | secondOld
      · rfl
      · rw [newName, sameName secondOld] at same
        exact absurd same.symm (apart secondOld)
    · rcases cases_ secondMember with ⟨rfl, rfl⟩ | secondOld
      · rw [newName, sameName firstOld] at same
        exact absurd same (apart firstOld)
      · rw [sameName firstOld, sameName secondOld] at same
        exact distinct.here firstOld secondOld same

end Names

/-! ### Tables of marks

A table that shows which places the members of a multiset have marked. -/

section Marks

variable {Member Place Value : Type} {mark : Member → Option (Place × Value)}
  {member : Member} {rest new : Multiset Member} {table : Place → Option Value}

def Marks (mark : Member → Option (Place × Value)) (members : Multiset Member)
    (table : Place → Option Value) : Prop :=
  ∀ place value, table place = some value ↔ ∃ member ∈ members, mark member = some (place, value)

theorem Marks.drop (marks : Marks mark (member ::ₘ rest) table) (plain : mark member = none) :
    Marks mark rest table := by
  intro place value
  rw [marks place value]
  constructor
  · intro given
    obtain ⟨other, present, marked⟩ := given
    rcases Multiset.mem_cons.mp present with rfl | old
    · rw [plain] at marked
      cases marked
    · exact ⟨other, old, marked⟩
  · intro given
    obtain ⟨other, present, marked⟩ := given
    exact ⟨other, Multiset.mem_cons_of_mem present, marked⟩

theorem Marks.add (marks : Marks mark rest table) (plain : ∀ other ∈ new, mark other = none) :
    Marks mark (new + rest) table := by
  intro place value
  rw [marks place value]
  constructor
  · intro given
    obtain ⟨other, present, marked⟩ := given
    exact ⟨other, Multiset.mem_add.mpr (Or.inr present), marked⟩
  · intro given
    obtain ⟨other, present, marked⟩ := given
    rcases Multiset.mem_add.mp present with added | old
    · rw [plain other added] at marked
      cases marked
    · exact ⟨other, old, marked⟩

theorem Marks.cons (marks : Marks mark rest table) (plain : mark member = none) :
    Marks mark (member ::ₘ rest) table := by
  rw [← Multiset.singleton_add]
  apply marks.add
  intro other added
  rw [Multiset.mem_singleton.mp added]
  exact plain

theorem Marks.replace [DecidableEq Place] {place : Place} {shown : Option Value}
    (marks : Marks mark (member ::ₘ rest) table)
    (alone : ∀ other ∈ rest, ∀ value, mark other ≠ some (place, value))
    (own : ∀ at_ value, mark member = some (at_, value) → at_ = place)
    (newOwn : ∀ other ∈ new, ∀ at_ value, mark other = some (at_, value) → at_ = place)
    (newMark : ∀ value, shown = some value ↔ ∃ other ∈ new, mark other = some (place, value)) :
    Marks mark (new + rest) (Function.update table place shown) := by
  intro at_ value
  by_cases same : at_ = place
  · subst same
    rw [Function.update_self, newMark]
    constructor
    · intro given
      obtain ⟨other, added, marked⟩ := given
      exact ⟨other, Multiset.mem_add.mpr (Or.inl added), marked⟩
    · intro given
      obtain ⟨other, present, marked⟩ := given
      rcases Multiset.mem_add.mp present with added | old
      · exact ⟨other, added, marked⟩
      · exact absurd marked (alone other old value)
  · rw [Function.update_of_ne same, marks at_ value]
    constructor
    · intro given
      obtain ⟨other, present, marked⟩ := given
      rcases Multiset.mem_cons.mp present with rfl | old
      · exact absurd (own at_ value marked) same
      · exact ⟨other, Multiset.mem_add.mpr (Or.inr old), marked⟩
    · intro given
      obtain ⟨other, present, marked⟩ := given
      rcases Multiset.mem_add.mp present with added | old
      · exact absurd (newOwn other added at_ value marked) same
      · exact ⟨other, Multiset.mem_cons_of_mem old, marked⟩

theorem Marks.clear [DecidableEq Place] {place : Place} (marks : Marks mark (member ::ₘ rest) table)
    (alone : ∀ other ∈ rest, ∀ value, mark other ≠ some (place, value))
    (own : ∀ at_ value, mark member = some (at_, value) → at_ = place)
    (plain : ∀ other ∈ new, mark other = none) :
    Marks mark (new + rest) (Function.update table place none) := by
  refine marks.replace alone own ?_ ?_
  · intro other added at_ value marked
    rw [plain other added] at marked
    cases marked
  · intro value
    constructor
    · intro impossible
      cases impossible
    · intro given
      obtain ⟨other, added, marked⟩ := given
      rw [plain other added] at marked
      cases marked

theorem Marks.set [DecidableEq Place] {place : Place} {value : Value} {after : Member}
    (marks : Marks mark (member ::ₘ rest) table)
    (alone : ∀ other ∈ rest, ∀ value, mark other ≠ some (place, value)) (plain : mark member = none)
    (marked : mark after = some (place, value)) :
    Marks mark (after ::ₘ rest) (Function.update table place (some value)) := by
  rw [← Multiset.singleton_add]
  refine marks.replace alone ?_ ?_ ?_
  · intro at_ other impossible
    rw [plain] at impossible
    cases impossible
  · intro other added at_ shown same
    rw [Multiset.mem_singleton.mp added, marked] at same
    cases same
    rfl
  · intro shown
    constructor
    · intro same
      cases same
      exact ⟨after, Multiset.mem_singleton_self after, marked⟩
    · intro given
      obtain ⟨other, added, same⟩ := given
      rw [Multiset.mem_singleton.mp added, marked] at same
      cases same
      rfl

end Marks

end TzDriver.Lib
