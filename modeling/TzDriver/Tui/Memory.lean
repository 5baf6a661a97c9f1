/-
The secure memory of the TUI agent (`linux/tui/tui.c`).

One kthread serves the agent, so its commands come one after the other.  What the
allocators answer, and whether the drivers and the TEE succeed, is the environment of a
command.
-/

import TzDriver.Lib.Blocks
import TzDriver.Lib.Runs

namespace TzDriver.Tui

open TzDriver.Lib

/-- `mm_secmem_alloc` and `mailbox_alloc`. -/
inductive Kind where
  | secure
  | mailbox
deriving DecidableEq, Repr

/-- `TUI_STATE_UNUSED` and the states after it. -/
inductive TuiState where
  | unused
  | config
  | running
  | error
deriving DecidableEq, Repr

def TuiState.ofValue : Int → Option TuiState
  | 0 => some .unused
  | 1 => some .config
  | 2 => some .running
  | 3 => some .error
  | _ => none

def dssConfigIndex : Int := 1
def ionNentsFlag : Nat := 1

/-- `tui_ion_mem` by its two marks, `none` where they are NULL and 0.  The physical address
stands for the mailbox block at it. -/
structure TuiIonMem where
  tuiSgTable : Option (Heap.Block Kind)
  tuiIonPhysAddr : Option (Heap.Block Kind)
deriving DecidableEq, Repr

/-- What an allocation meets: the answers of `mm_secmem_alloc`, `mailbox_alloc` and
`mailbox_virt_to_phys`, and the table that came with the memory. -/
structure MemEnv where
  secmem : Bool
  nents : Nat
  mailbox : Bool
  entry : Bool
  phys : Bool

structure State where
  tuiState : TuiState
  usage : UInt32
  normalLoadFlag : Bool
  display : TuiIonMem
  font : TuiIonMem
  heap : Heap Kind
  -- whether the last command was an exit
  exited : Bool

/-! ### Memory -/

section Memory

variable (env : MemEnv) (heap : Heap Kind) (mem : TuiIonMem)

def checkIonSgTable : Int :=
  if mem.tuiSgTable = none then -1 else if env.nents ≠ ionNentsFlag then -1 else 0

def getTuiIonSglist : Int × Heap Kind × TuiIonMem :=
  if checkIonSgTable env mem ≠ 0 then (-1, heap, mem)
  else if env.mailbox = false then (-1, heap, mem)
  else
    let tmpTuiSglist := heap.block .mailbox
    let taken := heap.take .mailbox
    if env.entry = false then (-1, taken.give tmpTuiSglist, mem)
    else if env.phys = false then
      (-1, taken.give tmpTuiSglist, { mem with tuiIonPhysAddr := none })
    else (0, taken, { mem with tuiIonPhysAddr := some tmpTuiSglist })

def allocIonMem : Int × Heap Kind × TuiIonMem :=
  if env.secmem = false then (-1, heap, mem)
  else (0, heap.take .secure, { mem with tuiSgTable := some (heap.block .secure) })

/-- The table stays where it is; the address tells that it was freed. -/
def freeIonMem : Heap Kind × TuiIonMem :=
  match mem.tuiSgTable, mem.tuiIonPhysAddr with
  | some table, some _ => (heap.give table, { mem with tuiIonPhysAddr := none })
  | _, _ => (heap, mem)

/-- `mailbox_free` of the virtual address; that of 0 is outside the pool and refused. -/
def freeSglist : Heap Kind :=
  match mem.tuiIonPhysAddr with
  | some sglist => heap.give sglist
  | none => heap

end Memory

section Display

variable (state : State)

/-- `get_frame_addr`; `screen` tells that there is a display whose resolution is not too
large. -/
def getFrameAddr (screen : Bool) (env : MemEnv) : State :=
  if screen = false then state
  else
    let alloc := allocIonMem env state.heap state.display
    if alloc.1 ≠ 0 then state
    else
      let sglist := getTuiIonSglist env alloc.2.1 alloc.2.2
      if sglist.1 ≠ 0 then
        let freed := freeIonMem sglist.2.1 sglist.2.2
        { state with heap := freed.1, display := freed.2 }
      else { state with heap := sglist.2.1, display := sglist.2.2 }

def freeFrameAddr : State :=
  let freed := freeIonMem (freeSglist state.heap state.display) state.display
  { state with heap := freed.1, display := freed.2 }

end Display

section Font

variable (state : State)

def freeTuiFontMem : State :=
  let freed := freeIonMem state.heap state.font
  { state with heap := freed.1, font := freed.2, normalLoadFlag := false }

/-- `load_tui_font_file`; `sent` is the success of `send_ttf_mem`. -/
def loadTuiFontFile (env : MemEnv) (sent : Bool) : State :=
  if state.normalLoadFlag then state
  else
    let alloc := allocIonMem env state.heap state.font
    if alloc.1 ≠ 0 then state
    else
      let sglist := getTuiIonSglist env alloc.2.1 alloc.2.2
      let got := { state with heap := sglist.2.1, font := sglist.2.2 }
      if sglist.1 ≠ 0 then freeTuiFontMem got
      else if sent = false then freeTuiFontMem { got with heap := freeSglist got.heap got.font }
      else { got with heap := freeSglist got.heap got.font, normalLoadFlag := true }

end Font

/-! ### Commands -/

/-- The commands with what they meet.  `initialised` is the success of `init_tui_driver`
and `configured` that of the DSS driver. -/
inductive Command where
  | enable (initialised : Bool)
  | disable
  | pause
  | poll (value : Int) (configured screen : Bool) (env : MemEnv)
  | setState (value : Int)
  | loadTtf (env : MemEnv) (sent : Bool)
  | freeTtfMem
  | exit
  | other

namespace State

variable (state : State)

def setTuiState (value : TuiState) : State :=
  { state with tuiState := value }

def processTuiEnable (initialised : Bool) : State :=
  if state.tuiState = .config then state
  else if initialised = false then state.setTuiState .unused
  else { state.setTuiState .config with usage := state.usage + 1 }

/-- `atomic_dec_and_test` in a state that is not unused, and what follows it. -/
def release (free : State → State) : State :=
  if state.tuiState = .unused then state
  else
    let counted := { state with usage := state.usage - 1 }
    if counted.usage ≠ 0 then counted else (free counted).setTuiState .unused

def processTuiDisable : State :=
  state.release freeFrameAddr

def processTuiPause : State :=
  if state.tuiState = .unused then state else state.setTuiState .config

/-- `process_tui_msg` and `process_tui_poll_cfg`: of the devices only the display gets
memory. -/
def processTuiMsg (value : Int) (configured screen : Bool) (env : MemEnv) : State :=
  if value = dssConfigIndex ∧ configured = true then getFrameAddr state screen env else state

def doTuiWork : Command → State
  | .enable initialised => state.processTuiEnable initialised
  | .disable => state.processTuiDisable
  | .pause => state.processTuiPause
  | .poll value configured screen env => state.processTuiMsg value configured screen env
  | .setState value =>
      match TuiState.ofValue value with
      | some next => state.setTuiState next
      | none => state
  | .loadTtf env sent => loadTuiFontFile state env sent
  | .freeTtfMem => freeTuiFontMem state
  | .exit => state.release fun counted => freeTuiFontMem (freeFrameAddr counted)
  | .other => state

def exec (command : Command) : State :=
  { state.doTuiWork command with
    exited := match command with | .exit => true | _ => false }

end State

def State.booted : State :=
  { tuiState := .unused, usage := 0, normalLoadFlag := false, display := ⟨none, none⟩
    font := ⟨none, none⟩, heap := .empty, exited := false }

def tuiMachine : Machine State Command :=
  { init := fun state => state = .booted
    step := fun before command after => before.exec command = after }

/-! ### What is recorded -/

namespace TuiIonMem

variable (mem : TuiIonMem)

def secure : Multiset (Heap.Block Kind) :=
  match mem.tuiSgTable, mem.tuiIonPhysAddr with
  | some table, some _ => {table}
  | _, _ => 0

def mailbox : Multiset (Heap.Block Kind) :=
  match mem.tuiIonPhysAddr with
  | some sglist => {sglist}
  | none => 0

end TuiIonMem

/-- The address in the font's record is that of a block which the load has freed. -/
def State.recorded (state : State) : Multiset (Heap.Block Kind) :=
  state.display.secure + state.display.mailbox + state.font.secure

def MemEnv.listed (env : MemEnv) : Bool :=
  env.nents == ionNentsFlag && env.mailbox && env.entry && env.phys

/-- New memory is listed, and that of the display comes when none is recorded; an exit
that finds the agent unused and without users finds nothing recorded. -/
def KeepsRecord (state : State) : Command → Prop
  | .poll value configured screen env =>
      value = dssConfigIndex → configured = true → screen = true → env.secmem = true →
        state.display.tuiIonPhysAddr = none ∧ env.listed = true
  | .loadTtf env _ => state.normalLoadFlag = false → env.secmem = true → env.listed = true
  | .exit => state.tuiState = .unused → state.usage = 0 → state.recorded = 0
  | _ => True

/-! ### Taking and giving back -/

section Blocks

variable {env : MemEnv} {heap : Heap Kind} {mem : TuiIonMem} {rest : Multiset (Heap.Block Kind)}

def TuiIonMem.Marked (mem : TuiIonMem) : Prop :=
  mem.tuiIonPhysAddr ≠ none → mem.tuiSgTable ≠ none

theorem TuiIonMem.Marked.of_freed (freed : mem.tuiIonPhysAddr = none) : mem.Marked :=
  fun recorded => absurd freed recorded

theorem secure_of_freed (freed : mem.tuiIonPhysAddr = none) : mem.secure = 0 := by
  unfold TuiIonMem.secure
  rw [freed]
  cases mem.tuiSgTable with
  | none => rfl
  | some table => rfl

theorem mailbox_of_freed (freed : mem.tuiIonPhysAddr = none) : mem.mailbox = 0 := by
  unfold TuiIonMem.mailbox
  rw [freed]

theorem freeIonMem_holds (marked : mem.Marked) (holds : heap.Holds (mem.secure + rest)) :
    (freeIonMem heap mem).1.Holds rest ∧ (freeIonMem heap mem).2.tuiIonPhysAddr = none := by
  obtain ⟨tuiSgTable, tuiIonPhysAddr⟩ := mem
  cases tuiIonPhysAddr with
  | none =>
      rw [secure_of_freed rfl, Multiset.zero_add] at holds
      cases tuiSgTable with
      | none => exact ⟨holds, rfl⟩
      | some table => exact ⟨holds, rfl⟩
  | some sglist =>
      cases tuiSgTable with
      | none => exact absurd rfl (marked (Option.some_ne_none sglist))
      | some table =>
          have taken : heap.Holds (table ::ₘ rest) := by
            rw [← Multiset.singleton_add]
            exact holds
          exact ⟨taken.give, rfl⟩

theorem freeSglist_holds (holds : heap.Holds (mem.mailbox + rest)) :
    (freeSglist heap mem).Holds rest := by
  unfold freeSglist
  unfold TuiIonMem.mailbox at holds
  split
  · next sglist recorded =>
      rw [recorded, Multiset.singleton_add] at holds
      exact holds.give
  · next freed =>
      rw [freed, Multiset.zero_add] at holds
      exact holds

theorem allocIonMem_taken (taken : env.secmem = true) :
    allocIonMem env heap mem =
      (0, heap.take .secure, { mem with tuiSgTable := some (heap.block .secure) }) := by
  unfold allocIonMem
  rw [if_neg]
  rw [taken]
  decide

theorem allocIonMem_refused (refused : env.secmem = false) :
    allocIonMem env heap mem = (-1, heap, mem) :=
  if_pos refused

theorem getTuiIonSglist_listed (listed : env.listed = true) (table : mem.tuiSgTable ≠ none) :
    getTuiIonSglist env heap mem =
      (0, heap.take .mailbox, { mem with tuiIonPhysAddr := some (heap.block .mailbox) }) := by
  unfold MemEnv.listed at listed
  simp only [Bool.and_eq_true, beq_iff_eq] at listed
  obtain ⟨⟨⟨nents, mailbox⟩, entry⟩, phys⟩ := listed
  have checked : checkIonSgTable env mem = 0 := by
    unfold checkIonSgTable
    rw [if_neg table, if_neg (not_not.mpr nents)]
  unfold getTuiIonSglist
  simp only [checked, ne_eq, not_true_eq_false, if_false, mailbox, entry, phys, Bool.true_eq_false]

end Blocks

/-! ### One command -/

/-- What is left of the heap is what the records show. -/
structure State.Recorded (state : State) : Prop where
  holds : state.heap.Holds state.recorded
  display : state.display.Marked
  font : state.font.Marked
  unloaded : state.normalLoadFlag = false → state.font.tuiIonPhysAddr = none

section Steps

variable {state : State} {env : MemEnv}

theorem State.Recorded.of_same {other : State} (recorded : state.Recorded)
    (heap : other.heap = state.heap) (display : other.display = state.display)
    (font : other.font = state.font) (flag : other.normalLoadFlag = state.normalLoadFlag) :
    other.Recorded := by
  obtain ⟨holds, displayMarked, fontMarked, unloaded⟩ := recorded
  refine ⟨?_, ?_, ?_, ?_⟩
  · unfold State.recorded
    rw [heap, display, font]
    exact holds
  · rw [display]
    exact displayMarked
  · rw [font]
    exact fontMarked
  · rw [flag, font]
    exact unloaded

theorem freeFrameAddr_recorded (recorded : state.Recorded) :
    (freeFrameAddr state).Recorded ∧ (freeFrameAddr state).display.tuiIonPhysAddr = none := by
  have listed : state.heap.Holds
      (state.display.mailbox + (state.display.secure + state.font.secure)) := by
    have holds := recorded.holds
    unfold State.recorded at holds
    rw [Multiset.add_comm state.display.secure, Multiset.add_assoc] at holds
    exact holds
  obtain ⟨holds, freed⟩ := freeIonMem_holds recorded.display (freeSglist_holds listed)
  refine ⟨⟨?_, .of_freed freed, recorded.font, recorded.unloaded⟩, freed⟩
  unfold State.recorded freeFrameAddr
  simp only
  rw [secure_of_freed freed, mailbox_of_freed freed, Multiset.zero_add, Multiset.zero_add]
  exact holds

theorem freeTuiFontMem_recorded (recorded : state.Recorded) :
    (freeTuiFontMem state).Recorded ∧ (freeTuiFontMem state).font.tuiIonPhysAddr = none := by
  have ordered : state.heap.Holds
      (state.font.secure + (state.display.secure + state.display.mailbox)) := by
    have holds := recorded.holds
    unfold State.recorded at holds
    rw [Multiset.add_comm] at holds
    exact holds
  obtain ⟨holds, freed⟩ := freeIonMem_holds recorded.font ordered
  refine ⟨⟨?_, recorded.display, .of_freed freed, fun _ => freed⟩, freed⟩
  unfold State.recorded freeTuiFontMem
  simp only
  rw [secure_of_freed freed, Multiset.add_zero]
  exact holds

theorem getFrameAddr_recorded {screen : Bool} (recorded : state.Recorded)
    (keeps : screen = true → env.secmem = true →
      state.display.tuiIonPhysAddr = none ∧ env.listed = true) :
    (getFrameAddr state screen env).Recorded := by
  unfold getFrameAddr
  cases screen with
  | false => exact recorded
  | true =>
      simp only [Bool.true_eq_false, if_false]
      cases taken : env.secmem with
      | false =>
          rw [allocIonMem_refused taken]
          exact recorded
      | true =>
          obtain ⟨free, listed⟩ := keeps rfl taken
          rw [allocIonMem_taken taken, getTuiIonSglist_listed listed (Option.some_ne_none _)]
          simp only [ne_eq, not_true_eq_false, if_false]
          refine ⟨?_, fun _ => Option.some_ne_none _, recorded.font, recorded.unloaded⟩
          have holds := recorded.holds
          unfold State.recorded at holds ⊢
          rw [secure_of_freed free, mailbox_of_freed free, Multiset.zero_add,
            Multiset.zero_add] at holds
          have both := (holds.take .secure).take .mailbox
          rw [Multiset.cons_swap, ← Multiset.singleton_add, ← Multiset.singleton_add,
            ← Multiset.add_assoc] at both
          exact both

theorem loadTuiFontFile_recorded {sent : Bool} (recorded : state.Recorded)
    (keeps : state.normalLoadFlag = false → env.secmem = true → env.listed = true) :
    (loadTuiFontFile state env sent).Recorded := by
  unfold loadTuiFontFile
  cases flag : state.normalLoadFlag with
  | true => exact recorded
  | false =>
      simp only [Bool.false_eq_true, if_false]
      cases taken : env.secmem with
      | false =>
          rw [allocIonMem_refused taken]
          exact recorded
      | true =>
          have listed := keeps flag taken
          rw [allocIonMem_taken taken, getTuiIonSglist_listed listed (Option.some_ne_none _)]
          simp only [ne_eq, not_true_eq_false, if_false]
          -- the list is given back before the load returns
          have holds := recorded.holds
          unfold State.recorded at holds
          rw [secure_of_freed (recorded.unloaded flag), Multiset.add_zero] at holds
          have got := ((holds.take .secure).take .mailbox).give
          rw [← Multiset.singleton_add, Multiset.add_comm] at got
          have loaded : ({ state with
              heap := ((state.heap.take .secure).take .mailbox).give
                ((state.heap.take .secure).block .mailbox)
              font := ⟨some (state.heap.block .secure),
                some ((state.heap.take .secure).block .mailbox)⟩
              normalLoadFlag := true } : State).Recorded := by
            refine ⟨got, recorded.display, fun _ => Option.some_ne_none _, ?_⟩
            intro impossible
            cases impossible
          cases sent with
          | false => exact (freeTuiFontMem_recorded loaded).1
          | true => exact loaded

theorem release_recorded {free : State → State} (recorded : state.Recorded)
    (frees : ∀ counted : State, counted.Recorded → (free counted).Recorded) :
    (state.release free).Recorded := by
  have counted : ({ state with usage := state.usage - 1 } : State).Recorded :=
    recorded.of_same rfl rfl rfl rfl
  unfold State.release
  split
  · exact recorded
  simp only
  split
  · exact counted
  · exact (frees _ counted).of_same rfl rfl rfl rfl

theorem doTuiWork_recorded {command : Command} (recorded : state.Recorded)
    (keeps : KeepsRecord state command) : (state.doTuiWork command).Recorded := by
  cases command with
  | enable initialised =>
      change (state.processTuiEnable initialised).Recorded
      unfold State.processTuiEnable
      split
      · exact recorded
      split
      · exact recorded.of_same rfl rfl rfl rfl
      · exact recorded.of_same rfl rfl rfl rfl
  | disable => exact release_recorded recorded fun _ counted => (freeFrameAddr_recorded counted).1
  | pause =>
      change state.processTuiPause.Recorded
      unfold State.processTuiPause
      split
      · exact recorded
      · exact recorded.of_same rfl rfl rfl rfl
  | poll value configured screen env =>
      change (state.processTuiMsg value configured screen env).Recorded
      unfold State.processTuiMsg
      split
      · next display => exact getFrameAddr_recorded recorded (keeps display.1 display.2)
      · exact recorded
  | setState value =>
      rw [State.doTuiWork]
      cases TuiState.ofValue value with
      | none => exact recorded
      | some next => exact recorded.of_same rfl rfl rfl rfl
  | loadTtf env sent => exact loadTuiFontFile_recorded recorded keeps
  | freeTtfMem => exact (freeTuiFontMem_recorded recorded).1
  | exit =>
      rw [State.doTuiWork]
      refine release_recorded recorded ?_
      intro counted given
      exact (freeTuiFontMem_recorded (freeFrameAddr_recorded given).1).1
  | other => exact recorded

/-- An exit that ends without users leaves nothing. -/
theorem exit_empty (recorded : state.Recorded) (keeps : KeepsRecord state .exit)
    (unowned : (state.doTuiWork .exit).usage = 0) : (state.doTuiWork .exit).recorded = 0 := by
  rw [State.doTuiWork, State.release] at unowned ⊢
  split
  · next idle =>
      rw [if_pos idle] at unowned
      exact keeps idle unowned
  next busy =>
    rw [if_neg busy] at unowned
    simp only at unowned ⊢
    split
    · next shared =>
        rw [if_pos shared] at unowned
        exact absurd unowned shared
    · have counted : ({ state with usage := state.usage - 1 } : State).Recorded :=
        recorded.of_same rfl rfl rfl rfl
      obtain ⟨framed, noFrame⟩ := freeFrameAddr_recorded counted
      obtain ⟨_, noFont⟩ := freeTuiFontMem_recorded framed
      change (freeFrameAddr _).display.secure + (freeFrameAddr _).display.mailbox +
        (freeTuiFontMem (freeFrameAddr _)).font.secure = 0
      rw [secure_of_freed noFrame, mailbox_of_freed noFrame, secure_of_freed noFont]
      rfl

end Steps

/-! ### Every run -/

structure State.Balanced (state : State) : Prop where
  recorded : state.Recorded
  emptied : state.exited = true → state.usage = 0 → state.recorded = 0

theorem State.booted_balanced : State.booted.Balanced := by
  refine ⟨⟨Heap.Holds.empty, .of_freed rfl, .of_freed rfl, fun _ => rfl⟩, ?_⟩
  intro impossible
  cases impossible

theorem State.Balanced.exec {state : State} {command : Command} (balanced : state.Balanced)
    (keeps : KeepsRecord state command) : (state.exec command).Balanced := by
  refine ⟨(doTuiWork_recorded balanced.recorded keeps).of_same rfl rfl rfl rfl, ?_⟩
  intro exited unowned
  cases command with
  | exit => exact exit_empty balanced.recorded keeps unowned
  | enable initialised => cases exited
  | disable => cases exited
  | pause => cases exited
  | poll value configured screen env => cases exited
  | setState value => cases exited
  | loadTtf env sent => cases exited
  | freeTtfMem => cases exited
  | other => cases exited

theorem State.Balanced.of_reachable {state : State}
    (reached : (tuiMachine.restrict KeepsRecord).Reachable state) : state.Balanced := by
  refine Machine.Reachable.invariant ?_ ?_ reached
  · intro first given
    rw [show first = .booted from given]
    exact State.booted_balanced
  · intro before command after balanced given
    obtain ⟨keeps, ran⟩ := given
    rw [← ran]
    exact balanced.exec keeps

theorem card_secure (mem : TuiIonMem) : mem.secure.card ≤ 1 := by
  unfold TuiIonMem.secure
  split
  · exact Nat.le_of_eq (Multiset.card_singleton _)
  · exact Nat.zero_le 1

/-- In every run that keeps the records, each block was freed exactly once or is still
recorded, each record has at most one secure block, and an exit after which the agent is
unused and without users leaves none. -/
theorem tui_memory_balanced {state : State}
    (reached : (tuiMachine.restrict KeepsRecord).Reachable state) :
    (∀ block, Entry.acquire block ∈ state.heap.trace →
      (state.heap.trace.count (.release block) = 1 ∧ block ∉ state.recorded) ∨
        (state.heap.trace.count (.release block) = 0 ∧ block ∈ state.recorded)) ∧
      state.display.secure.card ≤ 1 ∧ state.font.secure.card ≤ 1 ∧
      (state.exited = true → state.tuiState = .unused → state.usage = 0 →
        state.recorded = 0) := by
  have balanced := State.Balanced.of_reachable reached
  refine ⟨?_, card_secure _, card_secure _, ?_⟩
  · intro block taken
    exact balanced.recorded.holds.given_or_left taken
  · intro exited _ unowned
    exact balanced.emptied exited unowned

/-! ### Polls of the display -/

def goodEnv : MemEnv :=
  { secmem := true, nents := 1, mailbox := true, entry := true, phys := true }

theorem tui_memory_balanced_polled :
    ∃ state : State, state.recorded.card = 2 ∧
      ∀ block, Entry.acquire block ∈ state.heap.trace →
        (state.heap.trace.count (.release block) = 1 ∧ block ∉ state.recorded) ∨
          (state.heap.trace.count (.release block) = 0 ∧ block ∈ state.recorded) := by
  have enabled : (tuiMachine.restrict KeepsRecord).Reachable (State.booted.exec (.enable true)) :=
    .next (.start rfl) ⟨show KeepsRecord State.booted (.enable true) from trivial, rfl⟩
  have polled : (tuiMachine.restrict KeepsRecord).Reachable
      ((State.booted.exec (.enable true)).exec (.poll 1 true true goodEnv)) := by
    refine .next enabled ⟨?_, rfl⟩
    intro _ _ _ _
    exact ⟨rfl, rfl⟩
  exact ⟨_, by decide +kernel, (tui_memory_balanced polled).1⟩

def fullMailbox : MemEnv :=
  { goodEnv with mailbox := false }

/-- The list of the first poll's memory is refused, and `free_ion_mem` frees nothing because
there is no address yet; the second poll puts its own table over it. -/
def pollTwice : List Command :=
  [.enable true, .poll 1 true true fullMailbox, .poll 1 true true goodEnv, .exit]

theorem reachable_foldl {state : State} (reached : tuiMachine.Reachable state)
    (commands : List Command) : tuiMachine.Reachable (commands.foldl State.exec state) := by
  induction commands generalizing state with
  | nil => exact reached
  | cons command rest ih => exact ih (.next reached rfl)

theorem tui_memory_leaked :
    ∃ state, tuiMachine.Reachable state ∧
      ∃ block, Entry.acquire block ∈ state.heap.trace ∧
        state.display.tuiSgTable ≠ some block ∧ state.font.tuiSgTable ≠ some block ∧
        ¬((state.heap.trace.count (.release block) = 1 ∧ block ∉ state.recorded) ∨
          (state.heap.trace.count (.release block) = 0 ∧ block ∈ state.recorded)) := by
  refine ⟨pollTwice.foldl State.exec .booted, reachable_foldl (.start rfl) pollTwice,
    ⟨.secure, 0⟩, ?_⟩
  decide +kernel

end TzDriver.Tui
