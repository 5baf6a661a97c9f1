/-
The command monitor (`linux/core/cmdmonitor.c`): a list with one node for each thread
that sends commands, and a delayed work that looks through it.

The sections under `g_cmd_monitor_lock` are single steps, except that of the tick: it
goes from node to node, and `cmd_monitor_logend`, which takes no lock, comes in
between.  A freed node keeps its record with `freed` set, and `fault` is raised when a
freed node is read or written.
-/

import Mathlib.Data.List.Nodup
import TzDriver.Lib.Runs

namespace TzDriver.Monitor

open TzDriver.Lib

def maxCmdMonitorList : Nat := 200
def sToMs : Int := 1000
def sToUs : Int := 1000000

def cmdMaxExecuteTime : Int := 10

structure TimeSpec where
  sec : Int
  nsec : Int
deriving DecidableEq

def timedif (now before : TimeSpec) : Int :=
  sToMs * (now.sec - before.sec) + (now.nsec - before.nsec).tdiv sToUs

structure Task where
  pid : Int
  tid : Int
deriving DecidableEq

/-- `struct cmd_monitor`, less the names that are only logged. -/
structure CmdMonitor where
  task : Task
  sendtime : TimeSpec
  lasttime : TimeSpec
  timerIndex : Nat
  count : Nat
  returned : Bool
  isReported : Bool
  lastcmdid : UInt32
  timetotal : Int
  agentCallCount : Nat
deriving DecidableEq

/-! ### Single nodes -/

/-- `g_timer_step`, in seconds. -/
def timerStep : List Int := [1, 1, 1, 2, 5, 10, 40, 120, 180, 360]

def timerStepSize : Nat := 40

namespace CmdMonitor

variable (node : CmdMonitor)

/-- `show_timeout_cmd_info`, by what it writes to the node. -/
def showTimeoutCmdInfo (now : TimeSpec) : CmdMonitor :=
  let reported :=
    if timedif now node.sendtime > cmdMaxExecuteTime * sToMs then
      { node with isReported := true }
    else node
  let timeInSec := timerStep.getD node.timerIndex 360
  if timedif now node.lasttime > timeInSec * sToMs then
    { reported with
      lasttime := now
      timerIndex := if node.timerIndex ≥ timerStepSize then timerStepSize else node.timerIndex + 1 }
  else reported

/-- The restart of a node in `cmd_monitor_log`. -/
def restart (cmdId : UInt32) (now : TimeSpec) : CmdMonitor :=
  { node with
    sendtime := now
    lasttime := now
    timerIndex := 0
    count := node.count + 1
    returned := false
    isReported := false
    lastcmdid := cmdId
    agentCallCount := 0
    timetotal := 0 }

/-- `cmd_monitor_reset_context`; the count stops at the largest `int`. -/
def resetContext (now : TimeSpec) : CmdMonitor :=
  { node with
    sendtime := now
    agentCallCount :=
      if node.agentCallCount < 0x7fffffff then node.agentCallCount + 1 else node.agentCallCount }

/-- The first write of `cmd_monitor_logend`, in microseconds. -/
def addTime (now : TimeSpec) : CmdMonitor :=
  { node with
    timetotal := node.timetotal +
      (sToUs * (now.sec - node.sendtime.sec) + (now.nsec - node.sendtime.nsec).tdiv sToMs) }

end CmdMonitor

/-! ### The monitor -/

/-- Where the work is: not running, before its lock, at the nodes that are left, or
behind its lock. -/
inductive Tick where
  | idle
  | entered
  | walking (rest : List Nat)
  | unlocked
deriving DecidableEq

/-- The tick will still look at the size of the list. -/
def Tick.rearms : Tick → Bool
  | .entered => true
  | .walking _ => true
  | .idle => false
  | .unlocked => false

def Tick.locks : Tick → Bool
  | .walking _ => true
  | .idle => false
  | .entered => false
  | .unlocked => false

/-- Where a thread is in `proc_tc_ns_smc`: with the item that `cmd_monitor_log` gave
it, or before the last write of `cmd_monitor_logend`. -/
inductive Call where
  | out
  | sending (item : Option Nat)
  | marking (item : Nat)
deriving DecidableEq

def Call.item : Call → Option Nat
  | .out => none
  | .sending item => item
  | .marking item => some item

/-- `pending` tells that the work is queued; nodes are named by the order of their
allocation. -/
structure MonitorState where
  nodes : Nat → CmdMonitor
  freed : Nat → Bool
  nodeCount : Nat
  list : List Nat
  listSize : Int
  pending : Bool
  tick : Tick
  calls : Task → Call
  fault : Bool

namespace MonitorState

variable (monitor : MonitorState)

def Exists (item : Nat) : Prop :=
  item < monitor.nodeCount ∧ monitor.freed item = false

def touch (items : List Nat) : MonitorState :=
  { monitor with fault := monitor.fault || items.any monitor.freed }

def setNode (item : Nat) (node : CmdMonitor) : MonitorState :=
  { monitor with nodes := Function.update monitor.nodes item node }

def setCall (task : Task) (call : Call) : MonitorState :=
  { monitor with calls := Function.update monitor.calls task call }

def findItem (task : Task) : Option Nat :=
  monitor.list.find? fun item => (monitor.nodes item).task == task

/-- `schedule_cmd_monitor_work`; a work that is queued stays queued. -/
def scheduleCmdMonitorWork : MonitorState :=
  { monitor with pending := true }

/-- `init_monitor_locked` once the node is allocated, with the command id that its
caller stores. -/
def initMonitorLocked (task : Task) (cmdId : UInt32) (now : TimeSpec) : MonitorState :=
  { monitor.setNode monitor.nodeCount
      { task := task, sendtime := now, lasttime := now, timerIndex := 0, count := 1
        returned := false, isReported := false, lastcmdid := cmdId, timetotal := 0
        agentCallCount := 0 } with
    freed := Function.update monitor.freed monitor.nodeCount false
    nodeCount := monitor.nodeCount + 1
    list := monitor.list ++ [monitor.nodeCount]
    listSize := monitor.listSize + 1 }

/-- `cmd_monitor_log`; `bigSession` is `CONFIG_BIG_SESSION`.  The scan may read every
node of the list. -/
def cmdMonitorLog (bigSession : Bool) (task : Task) (cmdId : UInt32) (allocated : Bool)
    (now : TimeSpec) : MonitorState × Option Nat :=
  let scanned := monitor.touch monitor.list
  match monitor.findItem task with
  | some item => (scanned.setNode item ((monitor.nodes item).restart cmdId now), some item)
  | none =>
      if bigSession = false ∧ monitor.listSize > maxCmdMonitorList - 1 then (scanned, none)
      else if allocated = false then (scanned, none)
      else
        let added := scanned.initMonitorLocked task cmdId now
        (if added.listSize = 1 then added.scheduleCmdMonitorWork else added,
          some monitor.nodeCount)

def cmdMonitorResetContext (task : Task) (now : TimeSpec) : MonitorState :=
  let scanned := monitor.touch monitor.list
  match monitor.findItem task with
  | some item => scanned.setNode item ((monitor.nodes item).resetContext now)
  | none => scanned

/-- The body of the loop of `cmd_monitor_tick`. -/
def visit (item : Nat) (now : TimeSpec) : MonitorState :=
  let touched := monitor.touch [item]
  if (monitor.nodes item).returned then
    { touched with
      listSize := monitor.listSize - 1
      list := monitor.list.erase item
      freed := Function.update monitor.freed item true }
  else touched.setNode item ((monitor.nodes item).showTimeoutCmdInfo now)

end MonitorState

/-! ### Runs -/

inductive MonitorLabel where
  | log (task : Task) (cmdId : UInt32) (allocated : Bool) (now : TimeSpec)
  | resetContext (task : Task) (now : TimeSpec)
  | logend (task : Task) (now : TimeSpec)
  | markReturned (task : Task)
  | runWork
  | lock
  | visit (now : TimeSpec)
  | unlock
  | finish

namespace MonitorState

variable (monitor : MonitorState)

/-- A step of a thread or of the work.  A thread does not log again before its
`cmd_monitor_logend`, and a work does not run twice at once. -/
def exec (bigSession : Bool) : MonitorLabel → Option MonitorState
  | .log task cmdId allocated now =>
      if monitor.calls task = .out ∧ monitor.tick.locks = false then
        let (logged, item) := monitor.cmdMonitorLog bigSession task cmdId allocated now
        some (logged.setCall task (.sending item))
      else none
  | .resetContext task now =>
      if monitor.tick.locks = false then some (monitor.cmdMonitorResetContext task now) else none
  | .logend task now =>
      match monitor.calls task with
      | .sending none => some (monitor.setCall task .out)
      | .sending (some item) =>
          some (((monitor.touch [item]).setNode item ((monitor.nodes item).addTime now)).setCall task
            (.marking item))
      | .out => none
      | .marking _ => none
  | .markReturned task =>
      match monitor.calls task with
      | .marking item =>
          some (((monitor.touch [item]).setNode item
            { monitor.nodes item with returned := true }).setCall task .out)
      | .out => none
      | .sending _ => none
  | .runWork =>
      if monitor.pending = true ∧ monitor.tick = .idle then
        some { monitor with pending := false, tick := .entered }
      else none
  | .lock =>
      if monitor.tick = .entered then some { monitor with tick := .walking monitor.list } else none
  | .visit now =>
      match monitor.tick with
      | .walking (item :: rest) => some { monitor.visit item now with tick := .walking rest }
      | .walking [] => none
      | .idle => none
      | .entered => none
      | .unlocked => none
  | .unlock =>
      if monitor.tick = .walking [] then
        let rearmed := if monitor.listSize > 0 then monitor.scheduleCmdMonitorWork else monitor
        some { rearmed with tick := .unlocked }
      else none
  | .finish =>
      if monitor.tick = .unlocked then some { monitor with tick := .idle } else none

end MonitorState

def someNode : CmdMonitor :=
  { task := ⟨0, 0⟩, sendtime := ⟨0, 0⟩, lasttime := ⟨0, 0⟩, timerIndex := 0, count := 0
    returned := false, isReported := false, lastcmdid := 0, timetotal := 0, agentCallCount := 0 }

def MonitorState.initial : MonitorState :=
  { nodes := fun _ => someNode, freed := fun _ => false, nodeCount := 0, list := [], listSize := 0
    pending := false, tick := .idle, calls := fun _ => .out, fault := false }

def monitorMachine (bigSession : Bool) : Machine MonitorState MonitorLabel :=
  { init := fun monitor => monitor = .initial
    step := fun before label after => before.exec bigSession label = some after }

/-! ### The invariant -/

/-- `once` and `only` together say that a thread has at most one node at all, and `held`
that the node of an unfinished call is not marked as returned. -/
structure Monitored (bigSession : Bool) (monitor : MonitorState) : Prop where
  size : monitor.listSize = monitor.list.length
  bounded : bigSession = false → monitor.list.length ≤ maxCmdMonitorList
  once : (monitor.list.map fun item => (monitor.nodes item).task).Nodup
  alive : ∀ item ∈ monitor.list, monitor.Exists item
  only : ∀ item, monitor.Exists item → item ∈ monitor.list
  ticking : monitor.list ≠ [] → monitor.pending = true ∨ monitor.tick.rearms = true
  held : ∀ task item, (monitor.calls task).item = some item →
    item ∈ monitor.list ∧ (monitor.nodes item).task = task ∧ (monitor.nodes item).returned = false
  walk : ∀ rest, monitor.tick = .walking rest → rest.Sublist monitor.list
  sound : monitor.fault = false

namespace Monitored

variable {bigSession : Bool} {monitor : MonitorState}

theorem initial : Monitored bigSession .initial where
  size := rfl
  bounded := fun _ => Nat.zero_le _
  once := List.nodup_nil
  alive := fun item member => by cases member
  only := fun item found => absurd found.1 (Nat.not_lt_zero item)
  ticking := fun some_ => absurd rfl some_
  held := fun task item holds => by cases holds
  walk := fun rest walking => by cases walking
  sound := rfl

theorem nodup (kept : Monitored bigSession monitor) : monitor.list.Nodup :=
  List.Nodup.of_map _ kept.once

theorem touch_eq (kept : Monitored bigSession monitor) {items : List Nat}
    (listed : ∀ item ∈ items, item ∈ monitor.list) : monitor.touch items = monitor := by
  have unfreed : items.any monitor.freed = false := by
    rw [List.any_eq_false]
    intro item member
    rw [(kept.alive item (listed item member)).2]
    exact Bool.false_ne_true
  rw [MonitorState.touch, unfreed, Bool.or_false]

theorem setNode (kept : Monitored bigSession monitor) {item : Nat} {node : CmdMonitor}
    (owner : node.task = (monitor.nodes item).task)
    (marks : node.returned = true → ∀ task, (monitor.calls task).item ≠ some item) :
    Monitored bigSession (monitor.setNode item node) := by
  have owners (other : Nat) : (Function.update monitor.nodes item node other).task =
      (monitor.nodes other).task := by
    by_cases same : other = item
    · subst same
      rw [Function.update_self, owner]
    · rw [Function.update_of_ne same]
  refine { kept with once := ?_, held := ?_ }
  · have tasks := funext owners
    unfold MonitorState.setNode
    rw [tasks]
    exact kept.once
  · intro task other holds
    obtain ⟨member, owned, unreturned⟩ := kept.held task other holds
    refine ⟨member, (owners other).trans owned, ?_⟩
    by_cases same : other = item
    · subst same
      change (Function.update monitor.nodes other node other).returned = false
      rw [Function.update_self, Bool.eq_false_iff]
      intro marked
      exact marks marked task holds
    · change (Function.update monitor.nodes item node other).returned = false
      rw [Function.update_of_ne same]
      exact unreturned

theorem setCall (kept : Monitored bigSession monitor) {task : Task} {call : Call}
    (holds : ∀ item, call.item = some item → item ∈ monitor.list ∧
      (monitor.nodes item).task = task ∧ (monitor.nodes item).returned = false) :
    Monitored bigSession (monitor.setCall task call) := by
  refine { kept with held := ?_ }
  intro other item held
  change (Function.update monitor.calls task call other).item = some item at held
  by_cases same : other = task
  · subst same
    rw [Function.update_self] at held
    exact holds item held
  · rw [Function.update_of_ne same] at held
    exact kept.held other item held

theorem held_unique (kept : Monitored bigSession monitor) {task other : Task} {item : Nat}
    (holds : (monitor.calls task).item = some item)
    (holdsToo : (monitor.calls other).item = some item) : task = other :=
  (kept.held task item holds).2.1.symm.trans (kept.held other item holdsToo).2.1

theorem findItem_some {task : Task} {item : Nat} (found : monitor.findItem task = some item) :
    item ∈ monitor.list ∧ (monitor.nodes item).task = task := by
  have same := List.find?_some found
  exact ⟨List.mem_of_find?_eq_some found, eq_of_beq same⟩

theorem findItem_none {task : Task} (missing : monitor.findItem task = none) {item : Nat}
    (member : item ∈ monitor.list) : (monitor.nodes item).task ≠ task := by
  intro same
  have differs := List.find?_eq_none.mp missing item member
  exact differs (beq_iff_eq.mpr same)

theorem add (kept : Monitored bigSession monitor) {task : Task} {cmdId : UInt32} {now : TimeSpec}
    (missing : monitor.findItem task = none)
    (room : ¬(bigSession = false ∧ monitor.listSize > maxCmdMonitorList - 1))
    (unlocked : monitor.tick.locks = false) {queued : Bool}
    (first : monitor.list = [] → queued = true) (still : monitor.pending = true → queued = true) :
    Monitored bigSession { monitor.initMonitorLocked task cmdId now with pending := queued } := by
  have old {item : Nat} (member : item ∈ monitor.list) : item ≠ monitor.nodeCount :=
    Nat.ne_of_lt (kept.alive item member).1
  have nodes {item : Nat} (member : item ∈ monitor.list) :
      (monitor.initMonitorLocked task cmdId now).nodes item = monitor.nodes item :=
    Function.update_of_ne (old member) _ _
  have new : ((monitor.initMonitorLocked task cmdId now).nodes monitor.nodeCount).task = task := by
    simp only [MonitorState.initMonitorLocked, MonitorState.setNode, Function.update_self]
  constructor
  case size =>
    change monitor.listSize + 1 = ((monitor.list ++ [monitor.nodeCount]).length : Int)
    rw [kept.size, List.length_append, List.length_singleton]
    rfl
  case bounded =>
    intro small
    change (monitor.list ++ [monitor.nodeCount]).length ≤ maxCmdMonitorList
    have below : ¬monitor.listSize > maxCmdMonitorList - 1 := fun full => room ⟨small, full⟩
    rw [kept.size] at below
    rw [List.length_append, List.length_singleton]
    unfold maxCmdMonitorList at below ⊢
    omega
  case once =>
    change ((monitor.list ++ [monitor.nodeCount]).map fun item =>
      ((monitor.initMonitorLocked task cmdId now).nodes item).task).Nodup
    have tasks : (monitor.list.map fun item =>
        ((monitor.initMonitorLocked task cmdId now).nodes item).task) =
          monitor.list.map fun item => (monitor.nodes item).task :=
      List.map_congr_left fun item member => by rw [nodes member]
    rw [List.map_append, tasks, List.map_singleton, new]
    refine List.nodup_append.mpr ⟨kept.once, List.nodup_singleton _, ?_⟩
    intro first inList second inNew
    obtain ⟨item, member, owner⟩ := List.mem_map.mp inList
    rw [List.mem_singleton.mp inNew, ← owner]
    exact findItem_none missing member
  case alive =>
    intro item member
    rcases List.mem_append.mp member with listed | added
    · obtain ⟨below, unfreed⟩ := kept.alive item listed
      refine ⟨Nat.lt_succ_of_lt below, ?_⟩
      exact (Function.update_of_ne (old listed) _ _).trans unfreed
    · rw [List.mem_singleton.mp added]
      exact ⟨Nat.lt_succ_self _, Function.update_self _ _ _⟩
  case only =>
    intro item found
    by_cases same : item = monitor.nodeCount
    · rw [same]
      exact List.mem_append_right _ (List.mem_singleton.mpr rfl)
    · have below : item < monitor.nodeCount := Nat.lt_of_le_of_ne (Nat.lt_succ_iff.mp found.1) same
      have unfreed : monitor.freed item = false :=
        (Function.update_of_ne same _ _).symm.trans found.2
      exact List.mem_append_left _ (kept.only item ⟨below, unfreed⟩)
  case ticking =>
    intro _
    by_cases empty : monitor.list = []
    · exact Or.inl (first empty)
    · exact (kept.ticking empty).imp_left still
  case held =>
    intro other item holds
    obtain ⟨member, owned, unreturned⟩ := kept.held other item holds
    refine ⟨List.mem_append_left _ member, ?_, ?_⟩
    · exact (congrArg CmdMonitor.task (nodes member)).trans owned
    · exact (congrArg CmdMonitor.returned (nodes member)).trans unreturned
  case walk =>
    intro rest walking
    change monitor.tick = .walking rest at walking
    rw [walking] at unlocked
    cases unlocked
  case sound => exact kept.sound

theorem log (kept : Monitored bigSession monitor) (task : Task) (cmdId : UInt32)
    (allocated : Bool) (now : TimeSpec) (unlocked : monitor.tick.locks = false) :
    Monitored bigSession (monitor.cmdMonitorLog bigSession task cmdId allocated now).1 ∧
      ∀ item, (monitor.cmdMonitorLog bigSession task cmdId allocated now).2 = some item →
        item ∈ (monitor.cmdMonitorLog bigSession task cmdId allocated now).1.list ∧
          ((monitor.cmdMonitorLog bigSession task cmdId allocated now).1.nodes item).task = task ∧
          ((monitor.cmdMonitorLog bigSession task cmdId allocated now).1.nodes item).returned =
            false := by
  unfold MonitorState.cmdMonitorLog
  rw [kept.touch_eq fun item member => member]
  split
  · next item found =>
      obtain ⟨member, owner⟩ := findItem_some found
      refine ⟨kept.setNode rfl (fun marked => by cases marked), ?_⟩
      intro other same
      cases same
      refine ⟨member, ?_⟩
      simp only [MonitorState.setNode, Function.update_self]
      exact ⟨owner, rfl⟩
  next missing =>
    split
    · exact ⟨kept, fun item none => by cases none⟩
    next room =>
      split
      · exact ⟨kept, fun item none => by cases none⟩
      dsimp only
      have stored : ((monitor.initMonitorLocked task cmdId now).nodes monitor.nodeCount).task = task ∧
          ((monitor.initMonitorLocked task cmdId now).nodes monitor.nodeCount).returned = false := by
        simp only [MonitorState.initMonitorLocked, MonitorState.setNode, Function.update_self, and_self]
      have listed : monitor.nodeCount ∈ (monitor.initMonitorLocked task cmdId now).list :=
        List.mem_append_right _ (List.mem_singleton.mpr rfl)
      split
      · refine ⟨kept.add missing room unlocked (fun _ => rfl) (fun _ => rfl), ?_⟩
        intro item same
        cases same
        exact ⟨listed, stored⟩
      · next more =>
          refine ⟨kept.add missing room unlocked ?_ id, ?_⟩
          · intro empty
            refine absurd ?_ more
            change monitor.listSize + 1 = 1
            rw [kept.size, empty]
            rfl
          · intro item same
            cases same
            exact ⟨listed, stored⟩

theorem resetContext (kept : Monitored bigSession monitor) (task : Task) (now : TimeSpec) :
    Monitored bigSession (monitor.cmdMonitorResetContext task now) := by
  unfold MonitorState.cmdMonitorResetContext
  rw [kept.touch_eq fun item member => member]
  split
  · next item found =>
      obtain ⟨member, owner⟩ := findItem_some found
      refine kept.setNode rfl ?_
      intro marked other holds
      cases (kept.held other item holds).2.2.symm.trans marked
  · exact kept

/-- The work at one node: a node that is freed was marked, so no call holds it. -/
theorem visit (kept : Monitored bigSession monitor) {item : Nat} {rest : List Nat}
    (walking : monitor.tick = .walking (item :: rest)) (now : TimeSpec) :
    Monitored bigSession { monitor.visit item now with tick := .walking rest } := by
  have sublist := kept.walk _ walking
  have member : item ∈ monitor.list := sublist.subset List.mem_cons_self
  have tail : rest.Sublist monitor.list := (List.sublist_cons_self item rest).trans sublist
  have apart : item ∉ rest := (List.nodup_cons.mp (kept.nodup.sublist sublist)).1
  unfold MonitorState.visit
  rw [kept.touch_eq fun other single => List.mem_singleton.mp single ▸ member]
  dsimp only
  split
  · next marked =>
      have unheld {task : Task} {other : Nat} (holds : (monitor.calls task).item = some other) :
          other ≠ item := by
        intro same
        rw [same] at holds
        cases (kept.held task item holds).2.2.symm.trans marked
      constructor
      case size =>
        change monitor.listSize - 1 = ((monitor.list.erase item).length : Int)
        have positive := List.length_pos_of_mem member
        rw [kept.size, List.length_erase_of_mem member]
        omega
      case bounded =>
        intro small
        exact Nat.le_trans List.length_erase_le (kept.bounded small)
      case once => exact kept.once.sublist (List.erase_sublist.map _)
      case alive =>
        intro other listed
        obtain ⟨differs, before⟩ := (kept.nodup.mem_erase_iff).mp listed
        obtain ⟨below, unfreed⟩ := kept.alive other before
        exact ⟨below, (Function.update_of_ne differs _ _).trans unfreed⟩
      case only =>
        intro other found
        have differs : other ≠ item := by
          intro same
          subst same
          cases (Function.update_self _ _ _).symm.trans found.2
        refine (kept.nodup.mem_erase_iff).mpr ⟨differs, kept.only other ⟨found.1, ?_⟩⟩
        exact (Function.update_of_ne differs _ _).symm.trans found.2
      case ticking => exact fun _ => Or.inr rfl
      case held =>
        intro task other holds
        obtain ⟨before, owned, unreturned⟩ := kept.held task other holds
        exact ⟨(kept.nodup.mem_erase_iff).mpr ⟨unheld holds, before⟩, owned, unreturned⟩
      case walk =>
        intro left same
        cases same
        have erased := tail.erase item
        rwa [List.erase_of_not_mem apart] at erased
      case sound => exact kept.sound
  · next unmarked =>
      have shown : Monitored bigSession
          (monitor.setNode item ((monitor.nodes item).showTimeoutCmdInfo now)) := by
        have same : ((monitor.nodes item).showTimeoutCmdInfo now).task = (monitor.nodes item).task ∧
            ((monitor.nodes item).showTimeoutCmdInfo now).returned =
              (monitor.nodes item).returned := by
          unfold CmdMonitor.showTimeoutCmdInfo
          dsimp only
          split <;> split <;> exact ⟨rfl, rfl⟩
        refine kept.setNode same.1 ?_
        intro marked
        exact absurd (same.2.symm.trans marked) unmarked
      refine { shown with ticking := fun _ => Or.inr rfl, walk := ?_ }
      intro left same
      cases same
      exact tail

/-- What one step of a thread or of the work preserves. -/
theorem step (kept : Monitored bigSession monitor) {label : MonitorLabel} {after : MonitorState}
    (taken : monitor.exec bigSession label = some after) : Monitored bigSession after := by
  cases label with
  | log task cmdId allocated now =>
      simp only [MonitorState.exec] at taken
      split at taken
      · next free =>
          obtain ⟨logged, item⟩ := kept.log task cmdId allocated now free.2
          cases taken
          exact logged.setCall item
      · cases taken
  | resetContext task now =>
      simp only [MonitorState.exec] at taken
      split at taken
      · cases taken
        exact kept.resetContext task now
      · cases taken
  | logend task now =>
      simp only [MonitorState.exec] at taken
      split at taken
      · cases taken
        exact kept.setCall (fun item none => by cases none)
      · next item sending =>
          have holds : (monitor.calls task).item = some item := by rw [sending]; rfl
          obtain ⟨member, owned, unreturned⟩ := kept.held task item holds
          cases taken
          rw [kept.touch_eq fun other single => List.mem_singleton.mp single ▸ member]
          have timed : Monitored bigSession
              (monitor.setNode item ((monitor.nodes item).addTime now)) :=
            kept.setNode rfl (fun marked => by cases unreturned.symm.trans marked)
          refine timed.setCall ?_
          intro other same
          cases same
          simp only [MonitorState.setNode, Function.update_self]
          exact ⟨member, owned, unreturned⟩
      · cases taken
      · cases taken
  | markReturned task =>
      simp only [MonitorState.exec] at taken
      split at taken
      · next item marking =>
          have holds : (monitor.calls task).item = some item := by rw [marking]; rfl
          obtain ⟨member, _, _⟩ := kept.held task item holds
          cases taken
          rw [kept.touch_eq fun other single => List.mem_singleton.mp single ▸ member]
          -- the call lets go of the node before the mark is there
          have released : Monitored bigSession (monitor.setCall task .out) :=
            kept.setCall (fun other none => by cases none)
          refine released.setNode rfl ?_
          intro _ other still
          change (Function.update monitor.calls task .out other).item = some item at still
          by_cases same : other = task
          · rw [same, Function.update_self] at still
            cases still
          · rw [Function.update_of_ne same] at still
            exact same (kept.held_unique still holds)
      · cases taken
      · cases taken
  | runWork =>
      simp only [MonitorState.exec] at taken
      split at taken
      · cases taken
        exact { kept with
          ticking := fun _ => Or.inr rfl
          walk := fun rest walking => by cases walking }
      · cases taken
  | lock =>
      simp only [MonitorState.exec] at taken
      split at taken
      · cases taken
        refine { kept with ticking := fun _ => Or.inr rfl, walk := ?_ }
        intro rest walking
        cases walking
        exact List.Sublist.refl _
      · cases taken
  | visit now =>
      simp only [MonitorState.exec] at taken
      split at taken
      · next item rest walking =>
          cases taken
          exact kept.visit walking now
      all_goals cases taken
  | unlock =>
      simp only [MonitorState.exec] at taken
      split at taken
      · cases taken
        split
        · exact { kept with
            ticking := fun _ => Or.inl rfl
            walk := fun rest walking => by cases walking }
        · next none =>
            refine { kept with
              ticking := ?_
              walk := fun rest walking => by cases walking }
            intro some_
            refine absurd ?_ none
            rw [kept.size]
            exact Int.natCast_pos.mpr (List.length_pos_of_ne_nil some_)
      · cases taken
  | finish =>
      simp only [MonitorState.exec] at taken
      split at taken
      · next unlocked =>
          cases taken
          refine { kept with ticking := ?_, walk := fun rest walking => by cases walking }
          intro some_
          refine (kept.ticking some_).imp_right ?_
          rw [unlocked]
          exact id
      · cases taken

end Monitored

theorem monitored_of_reachable {bigSession : Bool} {monitor : MonitorState}
    (reached : (monitorMachine bigSession).Reachable monitor) : Monitored bigSession monitor :=
  reached.invariant (fun _ initial => initial ▸ Monitored.initial)
    (fun _ _ _ kept taken => kept.step taken)

/-- In every run the size is that of the list and, where the build has a limit, below
it; a thread has at most one node; a list that is not empty has a tick coming; and the
node that `cmd_monitor_log` returned is on the list until `cmd_monitor_logend` is done
with it. -/
theorem cmd_monitor_kept {bigSession : Bool} {monitor : MonitorState}
    (reached : (monitorMachine bigSession).Reachable monitor) :
    monitor.listSize = monitor.list.length ∧
      (bigSession = false → monitor.listSize ≤ maxCmdMonitorList) ∧
      (∀ first second, monitor.Exists first → monitor.Exists second →
        (monitor.nodes first).task = (monitor.nodes second).task → first = second) ∧
      (monitor.list ≠ [] → monitor.pending = true ∨ monitor.tick ≠ .idle) ∧
      (∀ task item, (monitor.calls task).item = some item →
        item ∈ monitor.list ∧ monitor.Exists item) ∧
      monitor.fault = false := by
  have kept := monitored_of_reachable reached
  refine ⟨kept.size, ?_, ?_, ?_, ?_, kept.sound⟩
  · intro small
    rw [kept.size]
    exact Int.ofNat_le.mpr (kept.bounded small)
  · intro first second exists_ existsToo same
    exact List.inj_on_of_nodup_map kept.once (kept.only first exists_)
      (kept.only second existsToo) same
  · intro some_
    refine (kept.ticking some_).imp_right ?_
    intro rearms idle
    rw [idle] at rearms
    cases rearms
  · intro task item holds
    have member := (kept.held task item holds).1
    exact ⟨member, kept.alive item member⟩

/-- Two threads send commands; the tick frees the node of the one that has returned
while the other one is still at its own. -/
def oneReturns : List MonitorLabel :=
  [.log ⟨1, 1⟩ 7 true ⟨0, 0⟩, .log ⟨1, 2⟩ 8 true ⟨0, 0⟩, .runWork, .logend ⟨1, 1⟩ ⟨1, 0⟩, .lock,
    .markReturned ⟨1, 1⟩, .visit ⟨1, 0⟩, .logend ⟨1, 2⟩ ⟨1, 0⟩, .visit ⟨1, 0⟩, .unlock]

theorem cmd_monitor_kept_one_returns :
    ∃ monitor : MonitorState, (monitor.calls ⟨1, 2⟩).item = some 1 ∧ monitor.freed 0 = true ∧
      monitor.listSize = monitor.list.length ∧ 1 ∈ monitor.list := by
  have ran : ((Machine.replay (fun monitor => MonitorState.exec monitor false) .initial
      oneReturns).map
      fun monitor => monitor.freed 0 && decide ((monitor.calls ⟨1, 2⟩).item = some 1)) =
        some true := by
    decide
  have start : (monitorMachine false).Reachable .initial := .start rfl
  obtain ⟨monitor, reached, shown⟩ := start.exists_of_replay (fun _ _ _ stepped => stepped) ran
  rw [Bool.and_eq_true, decide_eq_true_eq] at shown
  obtain ⟨size, _, _, _, held, _⟩ := cmd_monitor_kept reached
  exact ⟨monitor, shown.2, shown.1, size, (held _ _ shown.2).1⟩

end TzDriver.Monitor
