/-
The way back of the drivers to the normal world.

`init_tui_driver` goes through the table of names and, for each, through the list.  It ignores
what fails on the way back, and it passes over a driver whose mark is 0.
-/

import TzDriver.Tui.Drivers
import Mathlib.Data.List.Basic

namespace TzDriver.Tui

open TzDriver.Lib

/-! ### One driver -/

/-- A driver in the secure world has a name of the table, and only a DSS that has not answered
has no mark for the way back. -/
structure TuiDrvNode.Sound (mtk : Bool) (pos : TuiDrvNode) : Prop where
  listed : pos.mode.isSecure = true → ∃ name ∈ gInitDriver, pos.named name = true
  marked : pos.mode.isSecure = true → pos.state = 0 →
    pos.mode = .secure false ∧ pos.named tuiDssName = true ∧ mtk = false
  left : ∀ answered, pos.mode = .left answered →
    answered = false ∧ pos.named tuiDssName = true ∧ mtk = false

namespace TuiDrvNode

variable {mtk secure initFunc : Bool} {pos : TuiDrvNode}

theorem Sound.of_calm (calm : pos.mode.isSecure = false)
    (stays : ∀ answered, pos.mode ≠ .left answered) : pos.Sound mtk := by
  constructor
  · intro secure
    rw [calm] at secure
    cases secure
  · intro secure
    rw [calm] at secure
    cases secure
  · intro answered left
    exact absurd left (stays answered)

/-- The way back never fails, and leaves no driver secure. -/
theorem initEach_back : (initEachTuiDriver mtk pos false initFunc).1 = 0 ∧
    (initEachTuiDriver mtk pos false initFunc).2.mode.isSecure = false := by
  unfold initEachTuiDriver
  rw [if_pos rfl]
  split
  · constructor
    · rfl
    · show pos.mode.skipped.isSecure = false
      cases pos.mode <;> rfl
  · cases initFunc <;> exact ⟨rfl, rfl⟩

/-- A driver with the mark 0 is passed over; only a DSS without an answer is then left. -/
theorem Sound.skipped (sound : pos.Sound mtk) (unmarked : pos.state = 0) :
    ({ pos with mode := pos.mode.skipped } : TuiDrvNode).Sound mtk := by
  cases mode : pos.mode with
  | normal => exact .of_calm rfl (by rintro answered ⟨⟩)
  | refused => exact .of_calm rfl (by rintro answered ⟨⟩)
  | secure answered =>
      have facts := sound.marked (by rw [mode]; rfl) unmarked
      have unanswered : answered = false := by
        rw [mode] at facts
        exact Mode.secure.inj facts.1
      constructor
      · rintro ⟨⟩
      · rintro ⟨⟩
      · rintro _ ⟨⟩
        exact ⟨unanswered, facts.2⟩
  | left answered =>
      constructor
      · rintro ⟨⟩
      · rintro ⟨⟩
      · rintro _ ⟨⟩
        exact sound.left answered mode

theorem Sound.initEach_back (sound : pos.Sound mtk) :
    (initEachTuiDriver mtk pos false initFunc).2.Sound mtk := by
  unfold initEachTuiDriver
  rw [if_pos rfl]
  split
  · next unmarked => exact sound.skipped unmarked
  · cases initFunc with
    | false => exact .of_calm rfl (by rintro answered ⟨⟩)
    | true => exact .of_calm rfl (by rintro answered ⟨⟩)

theorem Sound.initEach_secure (listed : ∃ name ∈ gInitDriver, pos.named name = true) :
    (initEachTuiDriver mtk pos true initFunc).2.Sound mtk := by
  have secured : ∀ state : Int,
      (state = 0 → pos.named tuiDssName = true ∧ mtk = false) →
      ({ pos with state := state, mode := .secure false } : TuiDrvNode).Sound mtk := by
    intro state dss
    constructor
    · intro _
      exact listed
    · intro _ unmarked
      exact ⟨rfl, dss unmarked⟩
    · rintro answered ⟨⟩
  unfold initEachTuiDriver
  rw [if_neg Bool.noConfusion]
  split
  · apply secured
    intro impossible
    cases impossible
  · split
    · next dss =>
        apply secured
        intro _
        exact ⟨dss.2, dss.1⟩
    · apply secured
      intro impossible
      cases impossible

theorem Sound.answer (sound : pos.Sound mtk) :
    ({ pos with state := 1, mode := pos.mode.answer } : TuiDrvNode).Sound mtk := by
  constructor
  · intro secure
    apply sound.listed
    revert secure
    show pos.mode.answer.isSecure = true → pos.mode.isSecure = true
    cases pos.mode <;> exact id
  · intro _ impossible
    cases impossible
  · intro answered left
    apply sound.left
    revert left
    show pos.mode.answer = .left answered → pos.mode = .left answered
    cases pos.mode with
    | secure _ => rintro ⟨⟩
    | normal => exact id
    | left _ => exact id
    | refused => exact id

end TuiDrvNode

/-! ### The way back -/

namespace Drivers

variable {mtk : Bool} {drivers after : Drivers}

def Calm (drivers : Drivers) : Prop :=
  ∀ pos ∈ drivers.nodes, pos.mode.isSecure = false

/-- Whether `init_tui_driver`, at entry `i`, is through with the driver at `index`. -/
def Passed (i : Nat) (visited : Option Nat) (index : Nat) (pos : TuiDrvNode) : Prop :=
  (∃ name ∈ gInitDriver.take i, pos.named name = true) ∨
    ∃ count name, visited = some count ∧ index < count ∧ gInitDriver[i]? = some name ∧
      pos.named name = true

/-- While a driver is secure, `init_tui_driver` finds what it needs to go through the list. -/
structure Kept (mtk : Bool) (drivers : Drivers) : Prop where
  nodes : ∀ pos ∈ drivers.nodes, pos.Sound mtk
  held : drivers.Calm ∨ drivers.isDssRegistered = true ∧ drivers.dssFd = true

/-- The way back has left nothing secure behind it. -/
structure Pass (drivers : Drivers) (caller : Caller) (i : Nat) (visited : Option Nat) : Prop where
  dssFd : drivers.dssFd = true
  config : caller = .enable → drivers.tuiState = .config
  registered : visited.isSome = true → drivers.isDssRegistered = true
  behind : caller.secure = false → ∀ index pos, drivers.nodes[index]? = some pos →
    Passed i visited index pos → pos.mode.isSecure = false

def AgentSound (drivers : Drivers) : Prop :=
  match drivers.agent with
  | .idle => drivers.tuiState = .unused → drivers.Calm
  | .initTuiDriver caller i visited => drivers.Pass caller i visited

structure Returning (mtk : Bool) (drivers : Drivers) : Prop where
  kept : drivers.Kept mtk
  agent : drivers.AgentSound

theorem Kept.congr (kept : drivers.Kept mtk) (nodes : after.nodes = drivers.nodes)
    (dssFd : after.dssFd = drivers.dssFd) : after.Kept mtk := by
  constructor
  · rw [nodes]
    exact kept.nodes
  · have registered := isDssRegistered_congr (congrArg (List.map TuiDrvNode.name) nodes)
    rw [Calm, nodes, registered, dssFd]
    exact kept.held

theorem Calm.of_no_dss (kept : drivers.Kept mtk) (absent : drivers.isDssRegistered = false) :
    drivers.Calm := by
  rcases kept.held with calm | held
  · exact calm
  · rw [absent] at held
    cases held.1

theorem Calm.of_no_fd (kept : drivers.Kept mtk) (absent : drivers.dssFd = false) :
    drivers.Calm := by
  rcases kept.held with calm | held
  · exact calm
  · rw [absent] at held
    cases held.2

theorem back_returning (kept : drivers.Kept mtk) (calm : drivers.Calm) (caller : Caller) :
    (drivers.back caller).Returning mtk := by
  constructor
  · exact kept.congr rfl rfl
  · intro _
    exact calm

theorem begin_returning {refused : Drivers} (kept : drivers.Kept mtk) {caller : Caller}
    (config : caller = .enable → drivers.tuiState = .config)
    (otherwise : drivers.Calm → refused.Returning mtk) :
    (drivers.begin caller refused).Returning mtk := by
  unfold Drivers.begin
  split
  · next absent => exact otherwise (.of_no_fd kept absent)
  · next present =>
      constructor
      · exact kept.congr rfl rfl
      · constructor
        · exact eq_true_of_ne_false present
        · exact config
        · rintro ⟨⟩
        · rintro _ index pos _ (⟨name, member, _⟩ | ⟨count, name, locked, _⟩)
          · cases member
          · cases locked

/-- The callers of `init_tui_driver` may trust that a way back has been complete. -/
theorem returned_returning (kept : drivers.Kept mtk) {caller : Caller} {ret : Int}
    (config : caller = .enable → drivers.tuiState = .config)
    (calm : caller.secure = false → drivers.Calm) :
    (drivers.returned caller ret).Returning mtk := by
  cases caller with
  | enable =>
      unfold returned
      dsimp only
      split
      · have failed : (drivers.setTuiState .error).Kept mtk := kept.congr rfl rfl
        apply begin_returning failed
        · rintro ⟨⟩
        · intro calm
          exact back_returning failed calm .enableFailed
      · constructor
        · exact kept.congr rfl rfl
        · intro unused
          have inConfig := config rfl
          rw [show drivers.tuiState = .unused from unused] at inConfig
          cases inConfig
  | enableFailed => exact back_returning kept (calm rfl) .enableFailed
  | disable => exact back_returning kept (calm rfl) .disable
  | pause => exact back_returning kept (calm rfl) .pause

/-! ### The steps of `init_tui_driver` -/

theorem Pass.calm_of_end (kept : drivers.Kept mtk) {caller : Caller} {i : Nat}
    {visited : Option Nat} (pass : drivers.Pass caller i visited)
    (unsecure : caller.secure = false) (ended : gInitDriver[i]? = none) : drivers.Calm := by
  intro pos member
  apply eq_false_of_ne_true
  intro secure
  obtain ⟨index, found⟩ := List.mem_iff_getElem?.mp member
  obtain ⟨name, inTable, named⟩ := (kept.nodes pos member).listed secure
  have whole : gInitDriver.take i = gInitDriver :=
    List.take_of_length_le (List.getElem?_eq_none_iff.mp ended)
  have passed : Passed i visited index pos := .inl ⟨name, whole.symm ▸ inTable, named⟩
  rw [pass.behind unsecure index pos found passed] at secure
  cases secure

theorem Passed.of_next {i count index : Nat} {pos : TuiDrvNode}
    (passed : Passed (i + 1) none index pos) (inside : index < count) :
    Passed i (some count) index pos := by
  rcases passed with ⟨name, member, named⟩ | ⟨_, _, impossible, _⟩
  · rw [List.take_add_one, List.mem_append] at member
    rcases member with earlier | here
    · exact .inl ⟨name, earlier, named⟩
    · exact .inr ⟨count, name, rfl, inside, Option.mem_toList.mp here, named⟩
  · cases impossible

theorem Passed.of_succ {i count index : Nat} {pos : TuiDrvNode}
    (passed : Passed i (some (count + 1)) index pos) :
    Passed i (some count) index pos ∨
      index = count ∧ ∃ name, gInitDriver[i]? = some name ∧ pos.named name = true := by
  rcases passed with earlier | ⟨_, name, same, inside, entry, named⟩
  · exact .inl (.inl earlier)
  · cases same
    rcases Nat.lt_succ_iff_lt_or_eq.mp inside with before | here
    · exact .inl (.inr ⟨count, name, rfl, before, entry, named⟩)
    · exact .inr ⟨here, name, entry, named⟩

theorem Pass.other {caller : Caller} {i count : Nat} {drvName : List Char} {pos : TuiDrvNode}
    (pass : drivers.Pass caller i (some count)) (entry : gInitDriver[i]? = some drvName)
    (found : drivers.nodes[count]? = some pos) (other : pos.named drvName = false) :
    drivers.Pass caller i (some (count + 1)) := by
  constructor
  · exact pass.dssFd
  · exact pass.config
  · intro _
    exact pass.registered rfl
  · intro unsecure index here at_ passed
    rcases passed.of_succ with before | ⟨rfl, name, same, named⟩
    · exact pass.behind unsecure index here at_ before
    · rw [found] at at_
      rw [entry] at same
      cases at_
      cases same
      rw [other] at named
      cases named

theorem Kept.set (kept : drivers.Kept mtk) {count : Nat} {pos other : TuiDrvNode}
    (found : drivers.nodes[count]? = some pos) (same : other.name = pos.name)
    (sound : other.Sound mtk)
    (held : drivers.isDssRegistered = true ∧ drivers.dssFd = true) :
    ({ drivers with nodes := drivers.nodes.set count other } : Drivers).Kept mtk := by
  constructor
  · intro entry member
    rcases List.mem_or_eq_of_mem_set member with old | rfl
    · exact kept.nodes entry old
    · exact sound
  · right
    constructor
    · rw [← held.1]
      exact isDssRegistered_congr (map_name_set found same)
    · exact held.2

theorem Pass.called {caller : Caller} {i count : Nat} {pos other : TuiDrvNode}
    (pass : drivers.Pass caller i (some count)) (found : drivers.nodes[count]? = some pos)
    (same : other.name = pos.name)
    (calm : caller.secure = false → other.mode.isSecure = false) :
    ({ drivers with nodes := drivers.nodes.set count other } : Drivers).Pass caller i
      (some (count + 1)) := by
  constructor
  · exact pass.dssFd
  · exact pass.config
  · intro _
    rw [← pass.registered rfl]
    exact isDssRegistered_congr (map_name_set found same)
  · intro unsecure index here at_ passed
    by_cases own : index = count
    · subst own
      have inside : index < drivers.nodes.length := (List.getElem?_eq_some_iff.mp found).1
      rw [List.getElem?_set_self inside] at at_
      cases at_
      exact calm unsecure
    · rw [List.getElem?_set_ne (Ne.symm own)] at at_
      rcases passed.of_succ with before | ⟨impossible, _⟩
      · exact pass.behind unsecure index here at_ before
      · exact absurd impossible own

theorem visit_returning (kept : drivers.Kept mtk) {caller : Caller} {i count : Nat}
    {drvName : List Char} {pos : TuiDrvNode} (world : VisitWorld)
    (pass : drivers.Pass caller i (some count)) (entry : gInitDriver[i]? = some drvName)
    (found : drivers.nodes[count]? = some pos) :
    (drivers.visit mtk caller i count drvName pos world).Returning mtk := by
  have held : drivers.isDssRegistered = true ∧ drivers.dssFd = true :=
    ⟨pass.registered rfl, pass.dssFd⟩
  have sound := kept.nodes pos (List.mem_of_getElem? found)
  unfold visit
  dsimp only
  split
  · next other =>
      constructor
      · exact kept.congr rfl rfl
      · have next := pass.other entry found other
        exact ⟨next.dssFd, next.config, next.registered, next.behind⟩
  · next same =>
      have named : pos.named drvName = true := eq_true_of_ne_false same
      have listed : ∃ name ∈ gInitDriver, pos.named name = true :=
        ⟨drvName, List.mem_of_getElem? entry, named⟩
      cases way : caller.secure with
      | false =>
          have power : initTuiDssMsg pos false world.panelPowerOn = 0 := by
            rw [initTuiDssMsg, if_neg fun both => Bool.noConfusion both.2]
          have back : (initEachTuiDriver mtk pos false world.initFunc).1 = 0 ∧
              (initEachTuiDriver mtk pos false world.initFunc).2.mode.isSecure = false :=
            TuiDrvNode.initEach_back
          rw [if_neg (not_not_intro power), if_neg (not_not_intro back.1)]
          have called := pass.called found TuiDrvNode.name_initEach fun _ => back.2
          constructor
          · exact (kept.set found TuiDrvNode.name_initEach sound.initEach_back held).congr
              rfl rfl
          · exact ⟨called.dssFd, called.config, called.registered, called.behind⟩
      | true =>
          have sameName : (initEachTuiDriver mtk pos true world.initFunc).2.name = pos.name :=
            TuiDrvNode.name_initEach
          have tried := kept.set found sameName (.initEach_secure listed) held
          have wayIn : caller.secure = false → False := by
            intro impossible
            rw [way] at impossible
            cases impossible
          split
          · exact returned_returning kept pass.config fun unsecure => (wayIn unsecure).elim
          · split
            · exact returned_returning tried pass.config fun unsecure => (wayIn unsecure).elim
            · have called := pass.called found sameName fun unsecure => (wayIn unsecure).elim
              constructor
              · exact tried.congr rfl rfl
              · exact ⟨called.dssFd, called.config, called.registered, called.behind⟩

theorem advance_returning (returning : drivers.Returning mtk) {world : VisitWorld}
    (taken : drivers.advance mtk world = some after) : after.Returning mtk := by
  have kept := returning.kept
  have agent := returning.agent
  unfold AgentSound at agent
  unfold advance at taken
  split at taken
  · cases taken
  · next caller i visited running =>
      rw [running] at agent
      dsimp only at agent
      split at taken
      · next ended =>
          cases taken
          exact returned_returning kept agent.config fun unsecure =>
            agent.calm_of_end kept unsecure ended
      · split at taken
        · next absent =>
            cases taken
            exact returned_returning kept agent.config fun _ => .of_no_dss kept absent
        · next present =>
            cases taken
            constructor
            · exact kept.congr rfl rfl
            · constructor
              · exact agent.dssFd
              · exact agent.config
              · intro _
                exact eq_true_of_ne_false present
              · intro unsecure index pos found passed
                apply agent.behind unsecure index pos found
                rcases passed with earlier | ⟨count, _, same, inside, _⟩
                · exact .inl earlier
                · cases same
                  exact absurd inside (Nat.not_lt_zero index)
      · next drvName count entry =>
          split at taken
          · next ended =>
              cases taken
              constructor
              · exact kept.congr rfl rfl
              · constructor
                · exact agent.dssFd
                · exact agent.config
                · rintro ⟨⟩
                · intro unsecure index pos found passed
                  have inside : index < count :=
                    Nat.lt_of_lt_of_le (List.getElem?_eq_some_iff.mp found).1
                      (List.getElem?_eq_none_iff.mp ended)
                  exact agent.behind unsecure index pos found (passed.of_next inside)
          · next pos found =>
              cases taken
              exact visit_returning kept world agent entry found

/-! ### The other parties -/

theorem Returning.congr (returning : drivers.Returning mtk) (nodes : after.nodes = drivers.nodes)
    (dssFd : after.dssFd = drivers.dssFd) (tuiState : after.tuiState = drivers.tuiState)
    (agent : after.agent = drivers.agent) : after.Returning mtk := by
  constructor
  · exact returning.kept.congr nodes dssFd
  · have sound := returning.agent
    have registered := isDssRegistered_congr (congrArg (List.map TuiDrvNode.name) nodes)
    unfold AgentSound at sound ⊢
    rw [agent]
    cases running : drivers.agent with
    | idle =>
        rw [running] at sound
        dsimp only at sound ⊢
        rw [tuiState, Calm, nodes]
        exact sound
    | initTuiDriver caller i visited =>
        rw [running] at sound
        dsimp only at sound ⊢
        constructor
        · rw [dssFd]
          exact sound.dssFd
        · rw [tuiState]
          exact sound.config
        · rw [registered]
          exact sound.registered
        · rw [nodes]
          exact sound.behind

theorem Returning.setDssFd (returning : drivers.Returning mtk) :
    ({ drivers with dssFd := true } : Drivers).Returning mtk := by
  constructor
  · constructor
    · exact returning.kept.nodes
    · exact returning.kept.held.imp id fun held => ⟨held.1, rfl⟩
  · have sound := returning.agent
    unfold AgentSound at sound ⊢
    cases running : drivers.agent with
    | idle =>
        rw [running] at sound
        exact sound
    | initTuiDriver caller i visited =>
        rw [running] at sound
        exact ⟨rfl, sound.config, sound.registered, sound.behind⟩

theorem registerTuiDriver_returning (returning : drivers.Returning mtk) (name : List Char)
    (pdata : Bool) : (drivers.registerTuiDriver name pdata).2.Returning mtk := by
  have known : (if strncmpSame name tuiDssName tuiDrvNameMax = true then
      { drivers with dssFd := true } else drivers : Drivers).Returning mtk := by
    split
    · exact returning.setDssFd
    · exact returning
  unfold registerTuiDriver
  split
  · exact returning
  · dsimp only
    generalize (if strncmpSame name tuiDssName tuiDrvNameMax = true then
      { drivers with dssFd := true } else drivers : Drivers) = other at known ⊢
    split
    · exact known
    · split
      · exact known
      · exact known.congr rfl rfl rfl rfl

theorem Returning.unlocked (returning : drivers.Returning mtk) (free : drivers.locked = false) :
    drivers.agent = .idle ∨ ∃ caller i, drivers.agent = .initTuiDriver caller i none ∧
      drivers.Pass caller i none := by
  have sound := returning.agent
  unfold AgentSound at sound
  unfold locked at free
  cases running : drivers.agent with
  | idle => exact .inl rfl
  | initTuiDriver caller i visited =>
      rw [running] at sound free
      cases visited with
      | none => exact .inr ⟨caller, i, rfl, sound⟩
      | some count => cases free

/-- The list changes under the lock: what is on it afterwards was on it before or is new and
in the normal world. -/
theorem Returning.changeList (returning : drivers.Returning mtk) (free : drivers.locked = false)
    (agent : after.agent = drivers.agent) (tuiState : after.tuiState = drivers.tuiState)
    (dssFd : after.dssFd = drivers.dssFd)
    (old : ∀ pos ∈ after.nodes, pos ∈ drivers.nodes ∨ pos.mode = .normal)
    (dss : drivers.Calm ∨ drivers.isDssRegistered = true → after.Calm ∨
      after.isDssRegistered = true) : after.Returning mtk := by
  have calm : drivers.Calm → after.Calm := by
    intro calm pos member
    rcases old pos member with before | new
    · exact calm pos before
    · rw [new]
      rfl
  constructor
  · constructor
    · intro pos member
      rcases old pos member with before | new
      · exact returning.kept.nodes pos before
      · apply TuiDrvNode.Sound.of_calm
        · rw [new]
          rfl
        · intro answered impossible
          rw [new] at impossible
          cases impossible
    · rcases returning.kept.held with quiet | held
      · exact .inl (calm quiet)
      · rcases dss (.inr held.1) with quiet | registered
        · exact .inl quiet
        · right
          rw [dssFd]
          exact ⟨registered, held.2⟩
  · unfold AgentSound
    rw [agent]
    rcases returning.unlocked free with idle | ⟨caller, i, running, pass⟩
    · have sound := returning.agent
      unfold AgentSound at sound
      rw [idle] at sound ⊢
      dsimp only at sound ⊢
      intro unused
      rw [tuiState] at unused
      exact calm (sound unused)
    · rw [running]
      dsimp only
      constructor
      · rw [dssFd]
        exact pass.dssFd
      · rw [tuiState]
        exact pass.config
      · rintro ⟨⟩
      · rintro unsecure index pos found (⟨name, entry, named⟩ | ⟨_, _, impossible, _⟩)
        · rcases old pos (List.mem_of_getElem? found) with before | new
          · obtain ⟨place, at_⟩ := List.mem_iff_getElem?.mp before
            exact pass.behind unsecure place pos at_ (.inl ⟨name, entry, named⟩)
          · rw [new]
            rfl
        · cases impossible

theorem linkTuiDriver_returning (returning : drivers.Returning mtk)
    (free : drivers.locked = false) (name : List Char) (kzalloc : Bool) :
    (drivers.linkTuiDriver name kzalloc).2.Returning mtk := by
  unfold linkTuiDriver
  dsimp only
  split
  · exact returning.congr rfl rfl rfl rfl
  · apply returning.changeList free
    · rfl
    · rfl
    · rfl
    · intro pos member
      rcases List.mem_append.mp member with before | new
      · exact .inl before
      · rw [List.mem_singleton] at new
        rw [new]
        exact .inr rfl
    · rintro (calm | registered)
      · left
        intro pos member
        rcases List.mem_append.mp member with before | new
        · exact calm pos before
        · rw [List.mem_singleton] at new
          rw [new]
          rfl
      · right
        show (drivers.nodes ++ _).any _ = true
        rw [List.any_append, Bool.or_eq_true]
        exact .inl registered

/-- DSS stays on the list while a driver is in the secure world, and the TEE does not itself
declare the interface unused. -/
def Orderly (drivers : Drivers) : DrvLabel → Prop
  | .unregisterTuiDriver name =>
      strncmpSame name tuiDssName tuiDrvNameMax = true → drivers.Calm
  | .command (.setState value) => value ≠ .unused
  | _ => True

theorem unregisterTuiDriver_returning (returning : drivers.Returning mtk)
    (free : drivers.locked = false) (name : List Char)
    (orderly : strncmpSame name tuiDssName tuiDrvNameMax = true → drivers.Calm) :
    (drivers.unregisterTuiDriver name).Returning mtk := by
  have fewer : ∀ pos ∈ (drivers.unregisterTuiDriver name).nodes, pos ∈ drivers.nodes :=
    fun pos member => List.mem_of_mem_eraseP member
  apply returning.changeList free
  · rfl
  · rfl
  · rfl
  · intro pos member
    exact .inl (fewer pos member)
  · rintro (calm | registered)
    · exact .inl fun pos member => calm pos (fewer pos member)
    · cases dss : strncmpSame name tuiDssName tuiDrvNameMax with
      | true => exact .inl fun pos member => orderly dss pos (fewer pos member)
      | false =>
          right
          obtain ⟨pos, member, named⟩ := List.any_eq_true.mp registered
          apply List.any_eq_true.mpr
          refine ⟨pos, ?_, named⟩
          apply (List.mem_eraseP_of_neg _).mpr member
          intro own
          rw [TuiDrvNode.named_trans own named] at dss
          cases dss

theorem tuiCfgFilter_returning (returning : drivers.Returning mtk) (name : List Char) :
    (drivers.tuiCfgFilter name).Returning mtk := by
  let change : TuiDrvNode → TuiDrvNode := fun pos =>
    if pos.named name then { pos with state := 1, mode := pos.mode.answer } else pos
  have sameName : ∀ pos, (change pos).name = pos.name := by
    intro pos
    show (if pos.named name then _ else pos).name = pos.name
    split <;> rfl
  have sameSecure : ∀ pos, (change pos).mode.isSecure = pos.mode.isSecure := by
    intro pos
    show (if pos.named name then _ else pos).mode.isSecure = pos.mode.isSecure
    split
    · show pos.mode.answer.isSecure = pos.mode.isSecure
      cases pos.mode <;> rfl
    · rfl
  have registered : (drivers.tuiCfgFilter name).isDssRegistered = drivers.isDssRegistered := by
    apply isDssRegistered_congr
    show (drivers.nodes.map change).map TuiDrvNode.name = _
    rw [List.map_map]
    exact List.map_congr_left fun pos _ => sameName pos
  have calm : drivers.Calm → (drivers.tuiCfgFilter name).Calm := by
    intro calm pos member
    obtain ⟨old, before, rfl⟩ := List.mem_map.mp member
    rw [sameSecure]
    exact calm old before
  constructor
  · constructor
    · intro pos member
      obtain ⟨old, before, rfl⟩ := List.mem_map.mp member
      split
      · exact (returning.kept.nodes old before).answer
      · exact returning.kept.nodes old before
    · rw [registered]
      exact returning.kept.held.imp calm id
  · have sound := returning.agent
    unfold AgentSound at sound ⊢
    show match drivers.agent with
      | .idle => drivers.tuiState = .unused → (drivers.tuiCfgFilter name).Calm
      | .initTuiDriver caller i visited => (drivers.tuiCfgFilter name).Pass caller i visited
    cases running : drivers.agent with
    | idle =>
        rw [running] at sound
        exact fun unused => calm (sound unused)
    | initTuiDriver caller i visited =>
        rw [running] at sound
        dsimp only at sound ⊢
        constructor
        · exact sound.dssFd
        · exact sound.config
        · rw [registered]
          exact sound.registered
        · intro unsecure index pos found passed
          obtain ⟨old, before, rfl⟩ := Option.map_eq_some_iff.mp
            ((List.getElem?_map (f := change)).symm.trans found)
          rw [sameSecure]
          apply sound.behind unsecure index old before
          have named := TuiDrvNode.named_congr (sameName old)
          simp only [Passed, named] at passed
          exact passed

theorem initTuiDriver_returning (kept : drivers.Kept mtk) {caller : Caller}
    (config : caller = .enable → drivers.tuiState = .config) :
    (drivers.initTuiDriver caller).Returning mtk :=
  begin_returning kept config fun calm => returned_returning kept config fun _ => calm

theorem doTuiWork_returning (returning : drivers.Returning mtk) (idle : drivers.agent = .idle)
    {command : DrvCommand} (orderly : drivers.Orderly (.command command)) :
    (drivers.doTuiWork command).Returning mtk := by
  have kept := returning.kept
  cases command with
  | enable =>
      show drivers.processTuiEnable.Returning mtk
      unfold processTuiEnable
      split
      · exact returning
      · have configured : (drivers.setTuiState .config).Kept mtk := kept.congr rfl rfl
        exact initTuiDriver_returning configured fun _ => rfl
  | disable =>
      show drivers.processTuiDisable.Returning mtk
      unfold processTuiDisable
      split
      · exact returning
      · dsimp only
        split
        · exact returning.congr rfl rfl rfl rfl
        · have counted : ({ drivers with usage := drivers.usage - 1 } : Drivers).Kept mtk :=
            kept.congr rfl rfl
          apply initTuiDriver_returning counted
          rintro ⟨⟩
  | pause =>
      show drivers.processTuiPause.Returning mtk
      unfold processTuiPause
      split
      · exact returning
      · apply initTuiDriver_returning kept
        rintro ⟨⟩
  | setState value =>
      constructor
      · exact kept.congr rfl rfl
      · show match drivers.agent with
          | .idle => value = .unused → drivers.Calm
          | .initTuiDriver caller i visited => (drivers.setTuiState value).Pass caller i visited
        rw [idle]
        intro unused
        exact absurd unused orderly

theorem Returning.exec (returning : drivers.Returning mtk) {label : DrvLabel}
    (orderly : drivers.Orderly label) (taken : drivers.exec mtk label = some after) :
    after.Returning mtk := by
  cases label with
  | registerTuiDriver name pdata =>
      simp only [Drivers.exec] at taken
      split at taken
      · cases taken
      · cases taken
        exact registerTuiDriver_returning returning name pdata
  | linkTuiDriver name kzalloc =>
      simp only [Drivers.exec] at taken
      split at taken
      · cases taken
      · next ready =>
          cases taken
          have free := eq_false_of_ne_true fun locked => ready (.inl locked)
          exact linkTuiDriver_returning returning free name kzalloc
  | unregisterTuiDriver name =>
      simp only [Drivers.exec] at taken
      split at taken
      · cases taken
      · next free =>
          cases taken
          exact unregisterTuiDriver_returning returning (eq_false_of_ne_true free) name orderly
  | sendTuiMsgConfig name =>
      cases taken
      unfold sendTuiMsgConfig
      split
      · exact returning
      · exact returning.congr rfl rfl rfl rfl
  | tuiCfgFilter name =>
      simp only [Drivers.exec] at taken
      split at taken
      · cases taken
        exact tuiCfgFilter_returning returning name
      · cases taken
  | command command =>
      simp only [Drivers.exec] at taken
      split at taken
      · next idle =>
          cases taken
          exact doTuiWork_returning returning idle orderly
      · cases taken
  | advance world => exact advance_returning returning taken

theorem initial_returning : initial.Returning mtk := by
  constructor
  · constructor
    · rintro pos ⟨⟩
    · left
      rintro pos ⟨⟩
  · rintro _ pos ⟨⟩

theorem Returning.of_reachable
    (reached : ((driverMachine mtk).restrict Orderly).Reachable drivers) :
    drivers.Returning mtk := by
  apply reached.invariant
  · rintro _ rfl
    exact initial_returning
  · intro before label after returning taken
    exact returning.exec taken.1 taken.2

end Drivers

/-- Once the interface is unused, every driver is back in the normal world, or its own
`init_func` has refused to bring it there.  Only a DSS that has not answered since it was
switched over is left behind, because the way back takes its mark for that of a driver that
was never switched. -/
theorem drivers_returned {mtk : Bool} {drivers : Drivers}
    (reached : ((driverMachine mtk).restrict Drivers.Orderly).Reachable drivers)
    (idle : drivers.agent = .idle) (unused : drivers.tuiState = .unused) :
    ∀ pos ∈ drivers.nodes, pos.mode = .normal ∨ pos.mode = .refused ∨
      pos.mode = .left false ∧ pos.named tuiDssName = true ∧ mtk = false := by
  have returning := Drivers.Returning.of_reachable reached
  have calm := returning.agent
  unfold Drivers.AgentSound at calm
  rw [idle] at calm
  intro pos member
  have notSecure := calm unused pos member
  have sound := returning.kept.nodes pos member
  cases mode : pos.mode with
  | normal => exact .inl rfl
  | refused => exact .inr (.inl rfl)
  | secure answered =>
      rw [mode] at notSecure
      cases notSecure
  | left answered =>
      obtain ⟨rfl, dss⟩ := sound.left answered mode
      exact .inr (.inr ⟨rfl, dss⟩)

theorem Drivers.orderly_unregister {drivers : Drivers} {name : List Char} :
    drivers.Orderly (.unregisterTuiDriver name) ↔
      (strncmpSame name tuiDssName tuiDrvNameMax &&
        drivers.nodes.any fun pos => pos.mode.isSecure) = false := by
  rw [Bool.and_eq_false_iff, List.any_eq_false]
  constructor
  · intro orderly
    cases dss : strncmpSame name tuiDssName tuiDrvNameMax with
    | false => exact .inl rfl
    | true =>
        right
        intro pos member
        rw [orderly dss pos member]
        exact Bool.noConfusion
  · intro evaluated dss pos member
    rcases evaluated with other | calm
    · rw [dss] at other
      cases other
    · exact eq_false_of_ne_true (calm pos member)

instance (drivers : Drivers) : (label : DrvLabel) → Decidable (drivers.Orderly label)
  | .unregisterTuiDriver _ => decidable_of_iff _ Drivers.orderly_unregister.symm
  | .command (.setState value) =>
      @instDecidableNot (value = .unused) (instDecidableEqTuiState value .unused)
  | .command .enable => .isTrue trivial
  | .command .disable => .isTrue trivial
  | .command .pause => .isTrue trivial
  | .registerTuiDriver _ _ => .isTrue trivial
  | .linkTuiDriver _ _ => .isTrue trivial
  | .sendTuiMsgConfig _ => .isTrue trivial
  | .tuiCfgFilter _ => .isTrue trivial
  | .advance _ => .isTrue trivial

def unanswered : List TuiDrvNode :=
  [⟨tuiDssName, 0, .left false⟩, ⟨tuiTpName, 0, .normal⟩]

/-- Two drivers are switched over; the touch panel answers, DSS does not. -/
def unansweredRun : List DrvLabel :=
  [.registerTuiDriver tuiDssName true, .linkTuiDriver tuiDssName true,
    .registerTuiDriver tuiTpName true, .linkTuiDriver tuiTpName true, .command .enable] ++
  List.replicate 17 (.advance ⟨true, true⟩) ++
  [.sendTuiMsgConfig tuiTpName, .tuiCfgFilter tuiTpName, .command .disable] ++
  List.replicate 17 (.advance ⟨true, true⟩)

theorem unansweredRun_reached :
    ∃ drivers, ((driverMachine false).restrict Drivers.Orderly).Reachable drivers ∧
      decide (drivers.agent = .idle ∧ drivers.tuiState = .unused ∧
        drivers.nodes = unanswered) = true := by
  have sound : ∀ before label after,
      Machine.guarded Drivers.Orderly (Drivers.exec false) before label = some after →
        ((driverMachine false).restrict Drivers.Orderly).step before label after :=
    Machine.guarded_sound fun _ _ _ ran => ran
  have booted : ((driverMachine false).restrict Drivers.Orderly).Reachable .initial :=
    .start rfl
  have ran : (Machine.replay (Machine.guarded Drivers.Orderly (Drivers.exec false)) .initial
      unansweredRun).map (fun drivers => decide (drivers.agent = .idle ∧
        drivers.tuiState = .unused ∧ drivers.nodes = unanswered)) = some true := by decide
  exact Machine.Reachable.exists_of_replay sound booted ran

theorem drivers_returned_unanswered :
    ∃ drivers : Drivers, drivers.nodes = unanswered ∧
      ∀ pos ∈ drivers.nodes, pos.mode = .normal ∨ pos.mode = .refused ∨
        pos.mode = .left false ∧ pos.named tuiDssName = true ∧ false = false := by
  obtain ⟨drivers, reached, passed⟩ := unansweredRun_reached
  obtain ⟨idle, unused, nodes⟩ := of_decide_eq_true passed
  exact ⟨drivers, nodes, drivers_returned reached idle unused⟩

end TzDriver.Tui
