/-
The names on the list of the drivers.

A name is stored without what goes beyond the node; it is compared whole when a driver goes or
answers.  The check of a registration and its insertion do not happen under one lock.
-/

import TzDriver.Tui.Drivers
import Mathlib.Data.List.Basic
import Mathlib.Data.List.Nodup

namespace TzDriver.Tui

open TzDriver.Lib

namespace Drivers

variable {mtk : Bool} {drivers after refused : Drivers} {caller : Caller}

def names (drivers : Drivers) : List (List Char) × List (List Char) :=
  (drivers.nodes.map TuiDrvNode.name, drivers.registering)

theorem names_begin (same : refused.names = drivers.names) :
    (drivers.begin caller refused).names = drivers.names := by
  unfold Drivers.begin
  split
  · exact same
  · rfl

theorem names_returned {ret : Int} : (drivers.returned caller ret).names = drivers.names := by
  unfold returned
  split
  · split
    · exact names_begin rfl
    · rfl
  · rfl

theorem names_doTuiWork (command : DrvCommand) :
    (drivers.doTuiWork command).names = drivers.names := by
  cases command with
  | enable =>
      show drivers.processTuiEnable.names = drivers.names
      unfold processTuiEnable
      split
      · rfl
      · exact names_begin names_returned
  | disable =>
      show drivers.processTuiDisable.names = drivers.names
      unfold processTuiDisable
      split
      · rfl
      · dsimp only
        split
        · rfl
        · exact names_begin names_returned
  | pause =>
      show drivers.processTuiPause.names = drivers.names
      unfold processTuiPause
      split
      · rfl
      · exact names_begin names_returned
  | setState value => rfl

theorem names_visit {i count : Nat} {drvName : List Char} {pos : TuiDrvNode}
    {world : VisitWorld} (found : drivers.nodes[count]? = some pos) :
    (drivers.visit mtk caller i count drvName pos world).names = drivers.names := by
  have called : ∀ secure, (drivers.nodes.set count
      (initEachTuiDriver mtk pos secure world.initFunc).2).map TuiDrvNode.name =
        drivers.nodes.map TuiDrvNode.name :=
    fun secure => map_name_set found TuiDrvNode.name_initEach
  unfold visit
  dsimp only
  split
  · rfl
  · split
    · exact names_returned
    · split
      · rw [names_returned, names, names, called]
      · rw [names, names, called]

theorem names_advance {world : VisitWorld} (taken : drivers.advance mtk world = some after) :
    after.names = drivers.names := by
  unfold advance at taken
  split at taken
  · cases taken
  · split at taken
    · cases taken
      exact names_returned
    · split at taken
      · cases taken
        exact names_returned
      · cases taken
        rfl
    · split at taken
      · cases taken
        rfl
      · next found =>
          cases taken
          exact names_visit found

theorem names_tuiCfgFilter (name : List Char) :
    (drivers.tuiCfgFilter name).names = drivers.names := by
  unfold tuiCfgFilter names
  rw [List.map_map]
  congr 1
  apply List.map_congr_left
  intro pos _
  rw [Function.comp_apply]
  split <;> rfl

def Free (drivers : Drivers) (name : List Char) : Prop :=
  ∀ stored ∈ drivers.names.1,
    stored.take (tuiDrvNameMax - 1) ≠ name.take (tuiDrvNameMax - 1)

theorem registerTuiDriver_names (name : List Char) (pdata : Bool) :
    (drivers.registerTuiDriver name pdata).2.names = drivers.names ∧
        (drivers.registerTuiDriver name pdata).1 ≠ 0 ∨
      drivers.Free name ∧ (drivers.registerTuiDriver name pdata).1 = 0 ∧
        (drivers.registerTuiDriver name pdata).2.names =
          (drivers.names.1, name :: drivers.names.2) := by
  have known : (if strncmpSame name tuiDssName tuiDrvNameMax = true then
      { drivers with dssFd := true } else drivers : Drivers).names = drivers.names := by
    split <;> rfl
  have refused : (-1 : Int) ≠ 0 ∧ -eInval ≠ 0 := by decide
  unfold registerTuiDriver
  split
  · left
    exact ⟨rfl, refused.1⟩
  · dsimp only
    generalize (if strncmpSame name tuiDssName tuiDrvNameMax = true then
      { drivers with dssFd := true } else drivers : Drivers) = other at known ⊢
    split
    · left
      exact ⟨known, refused.1⟩
    · split
      · left
        exact ⟨known, refused.2⟩
      · next free =>
          right
          constructor
          · intro stored member same
            rw [← known] at member
            obtain ⟨pos, onList, rfl⟩ := List.mem_map.mp member
            apply free
            exact List.any_eq_true.mpr ⟨pos, onList, strncmpSame_iff.mpr same⟩
          · constructor
            · rfl
            · rw [← known]
              rfl

/-- What a step does to the names. -/
inductive NamesStep (drivers after : Drivers) : DrvLabel → Prop where
  | same {label : DrvLabel} : after.names = drivers.names → NamesStep drivers after label
  | register {name : List Char} {pdata : Bool} : drivers.Free name →
      after.names = (drivers.names.1, name :: drivers.names.2) →
        NamesStep drivers after (.registerTuiDriver name pdata)
  | dropped {name : List Char} {kzalloc : Bool} : name ∈ drivers.names.2 →
      after.names = (drivers.names.1, drivers.names.2.erase name) →
        NamesStep drivers after (.linkTuiDriver name kzalloc)
  | linked {name : List Char} {kzalloc : Bool} : name ∈ drivers.names.2 →
      after.names = (drivers.names.1 ++ [name.take (tuiDrvNameMax - 1)],
        drivers.names.2.erase name) → NamesStep drivers after (.linkTuiDriver name kzalloc)
  | unregister {name : List Char} {left : List (List Char)} : left.Sublist drivers.names.1 →
      after.names = (left, drivers.names.2) →
        NamesStep drivers after (.unregisterTuiDriver name)

theorem exec_names {label : DrvLabel} (taken : drivers.exec mtk label = some after) :
    NamesStep drivers after label := by
  cases label with
  | registerTuiDriver name pdata =>
      simp only [Drivers.exec] at taken
      split at taken
      · cases taken
      · cases taken
        rcases @registerTuiDriver_names drivers name pdata with same | ⟨free, _, new⟩
        · exact .same same.1
        · exact .register free new
  | linkTuiDriver name kzalloc =>
      simp only [Drivers.exec] at taken
      split at taken
      · cases taken
      · next ready =>
          cases taken
          have onItsWay : name ∈ drivers.registering :=
            not_not.mp fun absent => ready (.inr absent)
          unfold linkTuiDriver
          dsimp only
          split
          · exact .dropped onItsWay rfl
          · apply NamesStep.linked onItsWay
            rw [names, List.map_append]
            rfl
  | unregisterTuiDriver name =>
      simp only [Drivers.exec] at taken
      split at taken
      · cases taken
      · cases taken
        exact .unregister (List.eraseP_sublist.map _) rfl
  | sendTuiMsgConfig name =>
      cases taken
      unfold sendTuiMsgConfig
      apply NamesStep.same
      split <;> rfl
  | tuiCfgFilter name =>
      simp only [Drivers.exec] at taken
      split at taken
      · cases taken
        exact .same (names_tuiCfgFilter name)
      · cases taken
  | command command =>
      simp only [Drivers.exec] at taken
      split at taken
      · cases taken
        exact .same (names_doTuiWork command)
      · cases taken
  | advance world => exact .same (names_advance taken)

/-- `strncpy_s` leaves room for the NUL. -/
def ShortNames (drivers : Drivers) : Prop :=
  ∀ stored ∈ drivers.names.1, stored.length < tuiDrvNameMax

theorem ShortNames.exec (short : drivers.ShortNames) {label : DrvLabel}
    (taken : drivers.exec mtk label = some after) : after.ShortNames := by
  unfold ShortNames
  cases exec_names taken with
  | same same =>
      rw [same]
      exact short
  | register _ same =>
      rw [same]
      exact short
  | dropped _ same =>
      rw [same]
      exact short
  | linked _ same =>
      rw [same]
      intro stored member
      rcases List.mem_append.mp member with old | new
      · exact short stored old
      · rw [List.mem_singleton.mp new]
        exact Nat.lt_of_le_of_lt (List.length_take_le _ _) (by decide)
  | unregister fewer same =>
      rw [same]
      exact fun stored member => short stored (fewer.subset member)

theorem ShortNames.of_reachable (reached : (driverMachine mtk).Reachable drivers) :
    drivers.ShortNames := by
  apply reached.invariant
  · rintro _ rfl stored ⟨⟩
  · intro before label after short taken
    exact short.exec taken

theorem registerTuiDriver_nodes (name : List Char) (pdata : Bool) :
    (drivers.registerTuiDriver name pdata).2.nodes = drivers.nodes := by
  have known : (if strncmpSame name tuiDssName tuiDrvNameMax = true then
      { drivers with dssFd := true } else drivers : Drivers).nodes = drivers.nodes := by
    split <;> rfl
  unfold registerTuiDriver
  split
  · rfl
  · dsimp only
    generalize (if strncmpSame name tuiDssName tuiDrvNameMax = true then
      { drivers with dssFd := true } else drivers : Drivers) = other at known ⊢
    split
    · exact known
    · split <;> exact known

theorem named_iff {pos : TuiDrvNode} {name : List Char} (short : pos.name.length < tuiDrvNameMax) :
    pos.named name = true ↔ pos.name = name.take tuiDrvNameMax := by
  rw [TuiDrvNode.named, strncmpSame_iff, List.take_of_length_le short.le]

/-- A driver of this name would have been found by the check. -/
theorem named_of_free {name : List Char} {pos : TuiDrvNode} (free : drivers.Free name)
    (member : pos ∈ drivers.nodes) : pos.named name = false := by
  apply eq_false_of_ne_true
  intro named
  rw [TuiDrvNode.named, strncmpSame_iff] at named
  apply free pos.name (List.mem_map_of_mem member)
  have fewer : ∀ name : List Char,
      name.take (tuiDrvNameMax - 1) = (name.take tuiDrvNameMax).take (tuiDrvNameMax - 1) := by
    intro name
    rw [List.take_take]
    rfl
  rw [fewer pos.name, named, ← fewer]

theorem named_stored (name : List Char) :
    TuiDrvNode.named ⟨name.take (tuiDrvNameMax - 1), 0, .normal⟩ name =
      decide (name.length < tuiDrvNameMax) := by
  have lengths : (name.take (tuiDrvNameMax - 1)).length < tuiDrvNameMax :=
    Nat.lt_of_le_of_lt (List.length_take_le _ _) (by decide)
  rw [Bool.eq_iff_iff, named_iff lengths, decide_eq_true_iff]
  constructor
  · intro same
    have sizes := congrArg List.length same
    simp only [List.length_take] at sizes
    simp only [tuiDrvNameMax] at sizes ⊢
    omega
  · intro room
    show name.take (tuiDrvNameMax - 1) = name.take tuiDrvNameMax
    rw [List.take_of_length_le (Nat.le_sub_one_of_lt room), List.take_of_length_le room.le]

end Drivers

/-- A driver that registers and goes again leaves the list as it was, unless its name is too
long for the node: then its own name does not take it off the list any more. -/
theorem unregister_undoes_registration (drivers : Drivers) {name : List Char} {pdata : Bool}
    (accepted : (drivers.registerTuiDriver name pdata).1 = 0) :
    let linked := ((drivers.registerTuiDriver name pdata).2.linkTuiDriver name true).2
    (linked.unregisterTuiDriver name).nodes =
      if name.length < tuiDrvNameMax then drivers.nodes else linked.nodes := by
  have free : drivers.Free name := by
    rcases @Drivers.registerTuiDriver_names drivers name pdata with refused | free
    · exact absurd accepted refused.2
    · exact free.1
  have linked : ((drivers.registerTuiDriver name pdata).2.linkTuiDriver name true).2.nodes =
      drivers.nodes ++ [⟨name.take (tuiDrvNameMax - 1), 0, .normal⟩] := by
    show (drivers.registerTuiDriver name pdata).2.nodes ++ _ = _
    rw [Drivers.registerTuiDriver_nodes]
  have others : ∀ pos ∈ drivers.nodes, ¬pos.named name = true := by
    intro pos member
    rw [Drivers.named_of_free free member]
    exact Bool.noConfusion
  show (List.eraseP _ (Drivers.nodes _)) = _
  rw [linked, List.eraseP_append_right _ others, List.eraseP_cons, Drivers.named_stored]
  by_cases room : name.length < tuiDrvNameMax
  · rw [if_pos room, decide_eq_true room, cond_true, List.append_nil]
  · rw [if_neg room, decide_eq_false room, cond_false, List.eraseP_nil]

theorem unregister_undoes_registration_gpio :
    let linked := ((Drivers.initial.registerTuiDriver tuiGpioName true).2.linkTuiDriver
      tuiGpioName true).2
    (linked.unregisterTuiDriver tuiGpioName).nodes =
      if tuiGpioName.length < tuiDrvNameMax then Drivers.initial.nodes else linked.nodes :=
  unregister_undoes_registration Drivers.initial (by decide)

namespace Drivers

variable {mtk : Bool} {drivers after : Drivers}

/-- A registration starts only while no other one of the same name is on its way. -/
def OneByOne (drivers : Drivers) : DrvLabel → Prop
  | .registerTuiDriver name _ => ∀ other ∈ drivers.registering,
      other.take (tuiDrvNameMax - 1) ≠ name.take (tuiDrvNameMax - 1)
  | _ => True

/-- The names on the list and those on their way to it, as nodes keep them. -/
def storedNames (drivers : Drivers) : List (List Char) :=
  drivers.names.1 ++ drivers.names.2.map (List.take (tuiDrvNameMax - 1))

theorem storedNames_exec (distinct : drivers.storedNames.Nodup) {label : DrvLabel}
    (oneByOne : drivers.OneByOne label) (taken : drivers.exec mtk label = some after) : after.storedNames.Nodup := by
  unfold storedNames at distinct ⊢
  cases exec_names taken with
  | same same =>
      rw [same]
      exact distinct
  | register free same =>
      next name pdata =>
      rw [same]
      dsimp only
      rw [List.map_cons, List.nodup_middle, List.nodup_cons]
      constructor
      · intro member
        rcases List.mem_append.mp member with listed | coming
        · apply free _ listed
          rw [List.take_take, Nat.min_self]
        · obtain ⟨other, onItsWay, sameStored⟩ := List.mem_map.mp coming
          exact oneByOne other onItsWay sameStored
      · exact distinct
  | dropped _ same =>
      rw [same]
      exact distinct.sublist ((List.Sublist.refl _).append ((List.erase_sublist).map _))
  | linked coming same =>
      next name kzalloc =>
      rw [same]
      have order : (drivers.names.1 ++ [name.take (tuiDrvNameMax - 1)] ++
          (drivers.names.2.erase name).map (List.take (tuiDrvNameMax - 1))).Perm
            (drivers.names.1 ++ drivers.names.2.map (List.take (tuiDrvNameMax - 1))) := by
        rw [List.append_assoc]
        apply List.Perm.append_left
        exact ((List.perm_cons_erase coming).map _).symm
      exact order.nodup_iff.mpr distinct
  | unregister fewer same =>
      rw [same]
      exact distinct.sublist (fewer.append (List.Sublist.refl _))

theorem storedNames_of_reachable
    (reached : ((driverMachine mtk).restrict OneByOne).Reachable drivers) :
    drivers.ShortNames ∧ drivers.storedNames.Nodup := by
  apply reached.invariant
  · rintro _ rfl
    constructor
    · rintro stored ⟨⟩
    · exact List.nodup_nil
  · intro before label after sound taken
    exact ⟨sound.1.exec taken.2, storedNames_exec sound.2 taken.1 taken.2⟩

/-- Where the names differ, the first driver that is found by a name is the only one. -/
theorem named_eraseP {name : List Char} {nodes : List TuiDrvNode}
    (short : ∀ pos ∈ nodes, pos.name.length < tuiDrvNameMax)
    (distinct : (nodes.map TuiDrvNode.name).Nodup) :
    ∀ pos ∈ nodes.eraseP fun pos => pos.named name, pos.named name = false := by
  induction nodes with
  | nil => rintro pos ⟨⟩
  | cons first rest ih =>
      rw [List.forall_mem_cons] at short
      rw [List.map_cons, List.nodup_cons] at distinct
      rw [List.eraseP_cons]
      cases found : first.named name with
      | true =>
          rw [cond_true]
          intro pos member
          apply eq_false_of_ne_true
          intro named
          apply distinct.1
          rw [(named_iff short.1).mp found, ← (named_iff (short.2 pos member)).mp named]
          exact List.mem_map_of_mem member
      | false =>
          rw [cond_false]
          exact List.forall_mem_cons.mpr ⟨found, ih short.2 distinct.2⟩

end Drivers

/-- The check and the insertion of a registration are two critical sections.  As long as no two
registrations of one name are between them, the names on the list differ, and a driver that is
taken off the list is gone from it. -/
theorem registered_names_distinct {mtk : Bool} {drivers : Drivers}
    (reached : ((driverMachine mtk).restrict Drivers.OneByOne).Reachable drivers) :
    (drivers.nodes.map TuiDrvNode.name).Nodup ∧
      ∀ name, ∀ pos ∈ (drivers.unregisterTuiDriver name).nodes, pos.named name = false := by
  obtain ⟨short, distinct⟩ := Drivers.storedNames_of_reachable reached
  have listed : (drivers.nodes.map TuiDrvNode.name).Nodup :=
    distinct.sublist (List.sublist_append_left _ _)
  have shortNodes : ∀ pos ∈ drivers.nodes, pos.name.length < tuiDrvNameMax :=
    fun pos member => short pos.name (List.mem_map_of_mem member)
  exact ⟨listed, fun name => Drivers.named_eraseP shortNodes listed⟩

instance (drivers : Drivers) (label : DrvLabel) : Decidable (drivers.OneByOne label) := by
  cases label with
  | registerTuiDriver name pdata =>
      exact inferInstanceAs (Decidable (∀ other ∈ drivers.registering, _ ≠ _))
  | unregisterTuiDriver name => exact inferInstanceAs (Decidable True)
  | command command => exact inferInstanceAs (Decidable True)
  | linkTuiDriver name kzalloc => exact inferInstanceAs (Decidable True)
  | sendTuiMsgConfig name => exact inferInstanceAs (Decidable True)
  | tuiCfgFilter name => exact inferInstanceAs (Decidable True)
  | advance world => exact inferInstanceAs (Decidable True)

/-- Two drivers register at the same time. -/
def togetherRun : List DrvLabel :=
  [.registerTuiDriver tuiDssName true, .registerTuiDriver tuiTpName true,
    .linkTuiDriver tuiTpName true, .linkTuiDriver tuiDssName true]

theorem togetherRun_reached :
    ∃ drivers, ((driverMachine false).restrict Drivers.OneByOne).Reachable drivers ∧
      decide (drivers.nodes.map TuiDrvNode.name = [tuiTpName, tuiDssName]) = true := by
  have sound : ∀ before label after,
      Machine.guarded Drivers.OneByOne (Drivers.exec false) before label = some after →
        ((driverMachine false).restrict Drivers.OneByOne).step before label after :=
    Machine.guarded_sound fun _ _ _ ran => ran
  have booted : ((driverMachine false).restrict Drivers.OneByOne).Reachable .initial :=
    .start rfl
  have ran : (Machine.replay (Machine.guarded Drivers.OneByOne (Drivers.exec false)) .initial
      togetherRun).map (fun drivers => decide (drivers.nodes.map TuiDrvNode.name =
        [tuiTpName, tuiDssName])) = some true := by decide
  exact Machine.Reachable.exists_of_replay sound booted ran

theorem registered_names_distinct_together :
    ∃ drivers : Drivers, drivers.nodes.map TuiDrvNode.name = [tuiTpName, tuiDssName] ∧
      (drivers.nodes.map TuiDrvNode.name).Nodup ∧
        ∀ name, ∀ pos ∈ (drivers.unregisterTuiDriver name).nodes, pos.named name = false := by
  obtain ⟨drivers, reached, both⟩ := togetherRun_reached
  exact ⟨drivers, of_decide_eq_true both, registered_names_distinct reached⟩

end TzDriver.Tui
