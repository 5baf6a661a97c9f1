/-
The drivers of the trusted user interface (`linux/tui/tui.c`).

Other drivers register an `init_func` that switches their device to the secure world and
back.  The agent calls them one by one; it holds the lock for one name at a time only.
Registrations, and the messages with which the drivers answer, come in between.
-/

import TzDriver.Lib.Runs
import TzDriver.Platform
import TzDriver.Tui.Memory
import Mathlib.Data.List.Basic

namespace TzDriver.Tui

open TzDriver.Lib

def tuiDrvNameMax : Nat := 32

/-- Names are C strings without their NUL. -/
def tuiDssName : List Char := ['D', 'S', 'S']
def tuiTpName : List Char := ['t', 'p']
def tuiFpName : List Char := ['f', 'p']
def tuiGpioName : List Char := ['f', 'f', 'f', '0', 'd', '0', '0', '0', '.', 'g', 'p', 'i', 'o']

/-- `g_init_driver`, which is also `g_deinit_driver`. -/
def gInitDriver : List (List Char) := [tuiDssName, tuiTpName, tuiFpName, tuiGpioName]

def strncmpSame (left right : List Char) (count : Nat) : Bool :=
  decide (left.take count = right.take count)

/-- What the device of a driver was last asked for. -/
inductive Mode where
  | normal
  /-- `answered`: the driver has sent `TUI_POLL_CFG_OK` since -/
  | secure (answered : Bool)
  /-- the way back to the normal world has passed it over -/
  | left (answered : Bool)
  /-- its `init_func` has failed on the way back -/
  | refused
deriving DecidableEq, Repr

namespace Mode

def isSecure : Mode → Bool
  | .secure _ => true
  | _ => false

def answer : Mode → Mode
  | .secure _ => .secure true
  | mode => mode

def skipped : Mode → Mode
  | .secure answered => .left answered
  | mode => mode

end Mode

/-- `struct tui_drv_node`; `init_func` is the environment's. -/
structure TuiDrvNode where
  name : List Char
  state : Int
  mode : Mode
deriving DecidableEq, Repr

def TuiDrvNode.named (pos : TuiDrvNode) (name : List Char) : Bool :=
  strncmpSame pos.name name tuiDrvNameMax

inductive Caller where
  | enable
  /-- the way back after a failed enable -/
  | enableFailed
  /-- `TUI_CMD_DISABLE` and `TUI_CMD_EXIT` -/
  | disable
  | pause
deriving DecidableEq, Repr

def Caller.secure : Caller → Bool
  | .enable => true
  | _ => false

/-- In `init_tui_driver`, at entry `i` of the names; `visited` counts the drivers of the list
that were looked at for this entry, under `g_tui_drv_lock`. -/
inductive Agent where
  | idle
  | initTuiDriver (caller : Caller) (i : Nat) (visited : Option Nat)
deriving DecidableEq, Repr

/-- `registering` has the names whose check has passed and whose node is not yet on the list,
`messages` those of `TUI_POLL_CFG_OK` messages that have passed the check of the state. -/
structure Drivers where
  nodes : List TuiDrvNode
  registering : List (List Char)
  dssFd : Bool
  tuiState : TuiState
  usage : UInt32
  messages : List (List Char)
  agent : Agent
deriving DecidableEq, Repr

/-- What one driver meets: whether the panel gets power in time, and whether `init_func`
returns 0. -/
structure VisitWorld where
  panelPowerOn : Bool
  initFunc : Bool

/-- What one call of `init_func` leaves of a driver. -/
def initEachTuiDriver (mtk : Bool) (pos : TuiDrvNode) (secure initFunc : Bool) :
    Int × TuiDrvNode :=
  if secure = false then
    if pos.state = 0 then (0, { pos with mode := pos.mode.skipped })
    else
      -- the -1 of a failure does not outlive the next assignment
      let tried := if initFunc = false then { pos with state := -1, mode := .refused }
        else { pos with mode := .normal }
      (0, { tried with state := 0 })
  else if initFunc = false then (-1, { pos with state := -1, mode := .secure false })
  else if mtk = false ∧ pos.named tuiDssName = true then (0, { pos with mode := .secure false })
  else (0, { pos with state := 1, mode := .secure false })

def initTuiDssMsg (pos : TuiDrvNode) (secure panelPowerOn : Bool) : Int :=
  if pos.named tuiDssName = true ∧ secure = true then if panelPowerOn = false then -1 else 0
  else 0

namespace Drivers

variable (drivers : Drivers)

def initial : Drivers := ⟨[], [], false, .unused, 0, [], .idle⟩

def locked : Bool :=
  match drivers.agent with
  | .initTuiDriver _ _ (some _) => true
  | _ => false

/-! ### Registration -/

/-- `register_tui_driver` up to the end of its check; `pdata` tells that it is not NULL. -/
def registerTuiDriver (name : List Char) (pdata : Bool) : Int × Drivers :=
  if strncmpSame name tuiDssName tuiDrvNameMax = true ∧ pdata = false then (-1, drivers)
  else
    let known := if strncmpSame name tuiDssName tuiDrvNameMax = true then
      { drivers with dssFd := true } else drivers
    if strncmpSame name tuiTpName tuiDrvNameMax = true ∧ pdata = false then (-1, known)
    else if known.nodes.any fun pos => strncmpSame pos.name name (tuiDrvNameMax - 1) then
      (-eInval, known)
    else (0, { known with registering := name :: known.registering })

/-- The rest of `register_tui_driver`, after the lock was given up. -/
def linkTuiDriver (name : List Char) (kzalloc : Bool) : Int × Drivers :=
  let taken := { drivers with registering := drivers.registering.erase name }
  if kzalloc = false then (-eNoMem, taken)
  else
    (0, { taken with nodes := taken.nodes ++ [⟨name.take (tuiDrvNameMax - 1), 0, .normal⟩] })

def unregisterTuiDriver (name : List Char) : Drivers :=
  { drivers with nodes := drivers.nodes.eraseP fun pos => pos.named name }

/-! ### Messages -/

/-- `send_tui_msg_config` of a `TUI_POLL_CFG_OK`, up to `tui_cfg_filter`. -/
def sendTuiMsgConfig (name : List Char) : Int × Drivers :=
  if drivers.tuiState ≠ .config then (-eInval, drivers)
  else (0, { drivers with messages := name :: drivers.messages })

/-- It goes on without the lock where it finds it held. -/
def tuiCfgFilter (name : List Char) : Drivers :=
  { drivers with
    messages := drivers.messages.erase name
    nodes := drivers.nodes.map fun pos =>
      if pos.named name then { pos with state := 1, mode := pos.mode.answer } else pos }

/-! ### The agent -/

def isDssRegistered : Bool := drivers.nodes.any fun pos => pos.named tuiDssName

def setTuiState (value : TuiState) : Drivers := { drivers with tuiState := value }

/-- `init_tui_driver` begins; `refused` is what a NULL `g_dss_fd` leads to. -/
def begin (caller : Caller) (refused : Drivers) : Drivers :=
  if drivers.dssFd = false then refused
  else { drivers with agent := .initTuiDriver caller 0 none }

/-- What follows the way back, whose result is ignored. -/
def back (caller : Caller) : Drivers :=
  { drivers with agent := .idle, tuiState := if caller = .pause then .config else .unused }

/-- What follows `init_tui_driver` in its callers. -/
def returned (caller : Caller) (ret : Int) : Drivers :=
  match caller with
  | .enable =>
      if ret ≠ 0 then
        let failed := drivers.setTuiState .error
        failed.begin .enableFailed (failed.back .enableFailed)
      else { drivers with agent := .idle, usage := drivers.usage + 1 }
  | caller => drivers.back caller

def initTuiDriver (caller : Caller) : Drivers :=
  drivers.begin caller (drivers.returned caller (-1))

def processTuiEnable : Drivers :=
  if drivers.tuiState = .config then drivers
  else (drivers.setTuiState .config).initTuiDriver .enable

/-- `process_tui_disable`; `TUI_CMD_EXIT` treats the drivers the same way. -/
def processTuiDisable : Drivers :=
  if drivers.tuiState = .unused then drivers
  else
    let counted := { drivers with usage := drivers.usage - 1 }
    if counted.usage ≠ 0 then counted else counted.initTuiDriver .disable

def processTuiPause : Drivers :=
  if drivers.tuiState = .unused then drivers else drivers.initTuiDriver .pause

def visit (mtk : Bool) (caller : Caller) (i visited : Nat) (drvName : List Char)
    (pos : TuiDrvNode) (world : VisitWorld) : Drivers :=
  let next := { drivers with agent := .initTuiDriver caller i (some (visited + 1)) }
  if pos.named drvName = false then next
  else
    let power := initTuiDssMsg pos caller.secure world.panelPowerOn
    if power ≠ 0 then drivers.returned caller power
    else
      let init := initEachTuiDriver mtk pos caller.secure world.initFunc
      let nodes := drivers.nodes.set visited init.2
      if init.1 ≠ 0 then { drivers with nodes := nodes }.returned caller (-1)
      else { next with nodes := nodes }

def advance (mtk : Bool) (world : VisitWorld) : Option Drivers :=
  match drivers.agent with
  | .idle => none
  | .initTuiDriver caller i visited =>
      match gInitDriver[i]?, visited with
      | none, _ => some (drivers.returned caller 0)
      | some _, none =>
          if drivers.isDssRegistered = false then some (drivers.returned caller (-1))
          else some { drivers with agent := .initTuiDriver caller i (some 0) }
      | some drvName, some visited =>
          match drivers.nodes[visited]? with
          | none => some { drivers with agent := .initTuiDriver caller (i + 1) none }
          | some pos => some (drivers.visit mtk caller i visited drvName pos world)

end Drivers

/-- The commands of the agent that concern the drivers. -/
inductive DrvCommand where
  | enable
  | disable
  | pause
  | setState (value : TuiState)

def Drivers.doTuiWork (drivers : Drivers) : DrvCommand → Drivers
  | .enable => drivers.processTuiEnable
  | .disable => drivers.processTuiDisable
  | .pause => drivers.processTuiPause
  | .setState value => drivers.setTuiState value

inductive DrvLabel where
  | registerTuiDriver (name : List Char) (pdata : Bool)
  | linkTuiDriver (name : List Char) (kzalloc : Bool)
  | unregisterTuiDriver (name : List Char)
  | sendTuiMsgConfig (name : List Char)
  | tuiCfgFilter (name : List Char)
  | command (command : DrvCommand)
  | advance (world : VisitWorld)

/-- One step; `none` where a party waits for the lock or has nothing to do. -/
def Drivers.exec (mtk : Bool) (drivers : Drivers) : DrvLabel → Option Drivers
  | .registerTuiDriver name pdata =>
      if drivers.locked then none else some (drivers.registerTuiDriver name pdata).2
  | .linkTuiDriver name kzalloc =>
      if drivers.locked = true ∨ name ∉ drivers.registering then none
      else some (drivers.linkTuiDriver name kzalloc).2
  | .unregisterTuiDriver name =>
      if drivers.locked then none else some (drivers.unregisterTuiDriver name)
  | .sendTuiMsgConfig name => some (drivers.sendTuiMsgConfig name).2
  | .tuiCfgFilter name =>
      if name ∈ drivers.messages then some (drivers.tuiCfgFilter name) else none
  | .command command =>
      if drivers.agent = .idle then some (drivers.doTuiWork command) else none
  | .advance world => drivers.advance mtk world

/-- `mtk` is `CONFIG_TEE_TUI_MTK`. -/
def driverMachine (mtk : Bool) : Machine Drivers DrvLabel :=
  { init := fun drivers => drivers = .initial
    step := fun before label after => before.exec mtk label = some after }

/-! ### Names -/

theorem strncmpSame_iff {left right : List Char} {count : Nat} :
    strncmpSame left right count = true ↔ left.take count = right.take count := by
  rw [strncmpSame, decide_eq_true_iff]

theorem TuiDrvNode.named_congr {pos other : TuiDrvNode} (same : other.name = pos.name)
    (name : List Char) : other.named name = pos.named name := by
  rw [TuiDrvNode.named, TuiDrvNode.named, same]

theorem TuiDrvNode.named_trans {pos : TuiDrvNode} {first second : List Char}
    (one : pos.named first = true) (other : pos.named second = true) :
    strncmpSame first second tuiDrvNameMax = true := by
  rw [TuiDrvNode.named, strncmpSame_iff] at one other
  rw [strncmpSame_iff, ← one, other]

theorem TuiDrvNode.name_initEach {mtk secure initFunc : Bool} {pos : TuiDrvNode} :
    (initEachTuiDriver mtk pos secure initFunc).2.name = pos.name := by
  unfold initEachTuiDriver
  split
  · split
    · rfl
    · cases initFunc <;> rfl
  · split
    · rfl
    · split <;> rfl

namespace Drivers

variable {mtk : Bool} {drivers : Drivers} {pos : TuiDrvNode}

theorem isDssRegistered_congr {other : Drivers}
    (same : other.nodes.map TuiDrvNode.name = drivers.nodes.map TuiDrvNode.name) :
    other.isDssRegistered = drivers.isDssRegistered := by
  have byName : ∀ drivers : Drivers, drivers.isDssRegistered =
      (drivers.nodes.map TuiDrvNode.name).any fun name =>
        strncmpSame name tuiDssName tuiDrvNameMax := by
    intro drivers
    rw [List.any_map]
    rfl
  rw [byName, byName, same]

theorem map_name_set {nodes : List TuiDrvNode} {index : Nat} {other : TuiDrvNode}
    (found : nodes[index]? = some pos) (same : other.name = pos.name) :
    (nodes.set index other).map TuiDrvNode.name = nodes.map TuiDrvNode.name := by
  apply List.ext_getElem?
  intro place
  rw [List.getElem?_map, List.getElem?_map, List.getElem?_set]
  split
  · next here =>
      subst here
      have inside : index < nodes.length := (List.getElem?_eq_some_iff.mp found).1
      rw [if_pos inside, found, Option.map_some, Option.map_some, same]
  · rfl

end Drivers

end TzDriver.Tui
