/-
`smc_lock`, the spin lock in the shared command buffer, one access at a time
(`linux/core/smc_smp.c`).

A section is what a thread does between `acquire_smc_buf_lock` and
`release_smc_buf_lock`.  The lock is a word of the buffer itself: every section writes
other words only, except `occupy_clean_cmd_buf`, which zeroes the whole buffer.
-/

import Mathlib.Logic.Function.Basic
import TzDriver.Lib.Runs
import TzDriver.Smc.Queue

namespace TzDriver.Smc

open TzDriver.Lib

/-! ### Sections -/

/-- `struct tc_ns_smc_queue` without its lock. -/
structure Buffer where
  slots : Nat → Slot
  lastIn : UInt32
  lastOut : UInt32

def Buffer.setSlot (buffer : Buffer) (index : Nat) (change : Slot → Slot) : Buffer :=
  { buffer with slots := Function.update buffer.slots index (change (buffer.slots index)) }

/-- What is left of a section: accesses to the buffer, each of which may decide how
the section goes on, and the overwriting of the lock. -/
inductive Section where
  | release
  | access (change : Buffer → Buffer) (next : Buffer → Section)
  | wipeLock (next : Section)

namespace Section

def write (index : Nat) (change : Slot → Slot) (next : Section) : Section :=
  .access (fun buffer => buffer.setSlot index change) fun _ => next

def test (condition : Buffer → Bool) (yes no : Section) : Section :=
  .access id fun buffer => if condition buffer then yes else no

def setAll (change : Slot → Slot) (next : Section) : Section :=
  .access (fun buffer => { buffer with slots := fun index => change (buffer.slots index) })
    fun _ => next

/-- `occupy_setbit_smc_in_doing_entry`, after the copy of the command. -/
def occupySetbit (index : Nat) : Section :=
  write index (fun slot => { slot with entry := { slot.entry with eventNr := UInt32.ofNat index } })
    (write index (fun slot => { slot with inBit := true })
      (write index (fun slot => { slot with doingBit := true }) .release))

/-- The loop of `occupy_free_smc_in_entry`, with `left` entries from `index` on. -/
def findFree (cmd : SmcCmd) : Nat → Nat → Section
  | 0, _ => .release
  | left + 1, index =>
      test (fun buffer => (buffer.slots index).inBit) (findFree cmd left (index + 1))
        (write index (fun slot => { slot with entry := cmd }) (occupySetbit index))

/-- The bits of the first entries are read, and the commands printed, while the
bitmaps are shown. -/
def showBitmaps : Nat → Section
  | 0 => .release
  | left + 1 => .access id fun _ => showBitmaps left

end Section

inductive SectionName where
  | occupyFree (cmd : SmcCmd)
  | occupied (index : Nat)
  | reuseSmcInEntry (index : Nat)
  | copySmcOutEntry (index : Nat)
  | clearSmcInEntry (index : Nat)
  | releaseSmcEntry (index : Nat)
  | isCmdWorkingDone (index : Nat)
  | occupyCleanCmdBuf
  | showCmdBitmap
  | setAbortCmd (index : Nat)

open Section in
def SectionName.body (config : Config) : SectionName → Section
  | .occupyFree cmd => findFree cmd config.maxSmcCmd 0
  | .occupied index => write index (fun slot => { slot with doingBit := false }) .release
  | .reuseSmcInEntry index =>
      test (fun buffer => (buffer.slots index).inBit && (buffer.slots index).doingBit)
        (write index (fun slot => { slot with entry := slot.out })
          (write index (fun slot => { slot with doingBit := false }) .release))
        .release
  | .copySmcOutEntry index =>
      let last := write index (fun slot => { slot with outBit := false }) .release
      test (fun buffer => (buffer.slots index).outBit)
        (test (fun buffer => (buffer.slots index).out.retVal == teecPending2 ||
            (buffer.slots index).out.retVal == teecPending)
          last
          (write index (fun slot => { slot with inBit := false })
            (write index (fun slot => { slot with doingBit := false }) last)))
        .release
  | .clearSmcInEntry index => write index (fun slot => { slot with inBit := false }) .release
  | .releaseSmcEntry index =>
      write index (fun slot => { slot with inBit := false })
        (write index (fun slot => { slot with doingBit := false })
          (write index (fun slot => { slot with outBit := false }) .release))
  | .isCmdWorkingDone index => test (fun buffer => (buffer.slots index).outBit) .release .release
  | .occupyCleanCmdBuf =>
      -- the fields of the struct in their order
      setAll (fun slot => { slot with inBit := false })
        (setAll (fun slot => { slot with doingBit := false })
          (setAll (fun slot => { slot with outBit := false })
            (.wipeLock
              (.access (fun buffer => { buffer with lastIn := 0 }) fun _ =>
                setAll (fun slot => { slot with entry := .zeroed })
                  (.access (fun buffer => { buffer with lastOut := 0 }) fun _ =>
                    setAll (fun slot => { slot with out := .zeroed }) .release)))))
  | .showCmdBitmap => showBitmaps (3 * config.maxSmcCmd)
  | .setAbortCmd index =>
      test (fun buffer => (buffer.slots index).doingBit)
        (write index (fun slot =>
            { slot with
              entry :=
                { slot.entry with
                  cmdId := globalCmdIdKillTask
                  cmdType := .global
                  operationPhys := 0
                  operationHPhys := 0
                  loginDataPhy := 0
                  loginDataHAddr := 0 } })
          (write index (fun slot => { slot with doingBit := false }) .release))
        .release

/-! ### Threads -/

/-- `wiped` tells that the thread has overwritten the lock since it acquired it. -/
inductive Spinner where
  | outside
  | spinning (body : Section)
  | inside (rest : Section) (wiped : Bool)

def Spinner.isInside : Spinner → Bool
  | .inside .. => true
  | _ => false

def Spinner.hasWiped : Spinner → Bool
  | .inside _ wiped => wiped
  | _ => false

structure Spin where
  buffer : Buffer
  smcLock : UInt32
  threads : Nat → Spinner

inductive SpinLabel where
  | enter (thread : Nat) (name : SectionName)
  | tryLock (thread : Nat)
  | access (thread : Nat)
  | release (thread : Nat)

/-- `cmpxchg`: the word after it, and the word it found. -/
def cmpxchg (word expected desired : UInt32) : UInt32 × UInt32 :=
  (if word = expected then desired else word, word)

namespace Spin

variable (state : Spin)

def goes (thread : Nat) (spinner : Spinner) : Spin :=
  { state with threads := Function.update state.threads thread spinner }

theorem goes_other {thread other : Nat} (spinner : Spinner) (different : other ≠ thread) :
    (state.goes thread spinner).threads other = state.threads other :=
  Function.update_of_ne different _ _

theorem goes_self (thread : Nat) (spinner : Spinner) :
    (state.goes thread spinner).threads thread = spinner :=
  Function.update_self _ _ _

def exec (config : Config) : SpinLabel → Option Spin
  | .enter thread name =>
      match state.threads thread with
      | .outside => some (state.goes thread (.spinning (name.body config)))
      | _ => none
  | .tryLock thread =>
      match state.threads thread with
      | .spinning body =>
          let (word, found) := cmpxchg state.smcLock 0 1
          some ({ state with smcLock := word }.goes thread
            (if found = 0 then .inside body false else .spinning body))
      | _ => none
  | .access thread =>
      match state.threads thread with
      | .inside (.access change next) wiped =>
          some ({ state with buffer := change state.buffer }.goes thread
            (.inside (next state.buffer) wiped))
      | .inside (.wipeLock next) _ =>
          some ({ state with smcLock := 0 }.goes thread (.inside next true))
      | _ => none
  | .release thread =>
      match state.threads thread with
      | .inside .release _ =>
          some ({ state with smcLock := (cmpxchg state.smcLock 1 0).1 }.goes thread .outside)
      | _ => none

def initial : Spin :=
  { buffer := ⟨fun _ => .empty, 0, 0⟩, smcLock := 0, threads := fun _ => .outside }

end Spin

def spinMachine (config : Config) : Machine Spin SpinLabel :=
  { init := fun state => state = .initial
    step := fun before label after => before.exec config label = some after }

/-! ### What a step can do -/

section Steps

variable {config : Config} {before after : Spin} {label : SpinLabel}

/-- A thread enters a section, acquires the lock or finds it held, makes an access,
overwrites the lock, or releases it. -/
theorem Spin.exec_cases (ran : before.exec config label = some after) :
    (∃ thread body, before.threads thread = .outside ∧
        after = before.goes thread (.spinning body)) ∨
      (∃ thread body, label = .tryLock thread ∧ before.threads thread = .spinning body ∧
        before.smcLock = 0 ∧
        after = { before with smcLock := 1 }.goes thread (.inside body false)) ∨
      (∃ thread body, before.threads thread = .spinning body ∧
        after = before.goes thread (.spinning body)) ∨
      (∃ thread rest next wiped buffer, before.threads thread = .inside rest wiped ∧
        after = { before with buffer := buffer }.goes thread (.inside next wiped)) ∨
      (∃ thread rest next wiped, before.threads thread = .inside rest wiped ∧
        after = { before with smcLock := 0 }.goes thread (.inside next true)) ∨
      ∃ thread wiped, before.threads thread = .inside .release wiped ∧
        after = { before with smcLock := (cmpxchg before.smcLock 1 0).1 }.goes thread .outside := by
  cases label with
  | enter thread name =>
      rw [Spin.exec] at ran
      split at ran
      · next outside =>
          cases ran
          exact Or.inl ⟨thread, _, outside, rfl⟩
      · cases ran
  | tryLock thread =>
      rw [Spin.exec] at ran
      split at ran
      · next body spinning =>
          by_cases free : before.smcLock = 0
          · simp only [cmpxchg, if_pos free] at ran
            cases ran
            exact Or.inr (Or.inl ⟨thread, body, rfl, spinning, free, rfl⟩)
          · simp only [cmpxchg, if_neg free] at ran
            cases ran
            exact Or.inr (Or.inr (Or.inl ⟨thread, body, spinning, rfl⟩))
      · cases ran
  | access thread =>
      rw [Spin.exec] at ran
      split at ran
      · next change next wiped inside =>
          cases ran
          exact Or.inr (Or.inr (Or.inr (Or.inl ⟨thread, _, _, wiped, _, inside, rfl⟩)))
      · next next wiped inside =>
          cases ran
          exact Or.inr (Or.inr (Or.inr (Or.inr (Or.inl ⟨thread, _, next, wiped, inside, rfl⟩))))
      · cases ran
  | release thread =>
      rw [Spin.exec] at ran
      split at ran
      · next wiped inside =>
          cases ran
          exact Or.inr (Or.inr (Or.inr (Or.inr (Or.inr ⟨thread, wiped, inside, rfl⟩))))
      · cases ran

end Steps

/-! ### Exclusion -/

/-- At most one thread is inside, and the lock is taken while it is there and has not
overwritten it. -/
structure Spin.Exclusive (state : Spin) : Prop where
  alone : ∀ first second, (state.threads first).isInside = true →
    (state.threads second).isInside = true → first = second
  held : ∀ thread, (state.threads thread).isInside = true →
    state.smcLock = if (state.threads thread).hasWiped then 0 else 1
  free : (∀ thread, (state.threads thread).isInside = false) → state.smcLock = 0

namespace Spin.Exclusive

variable {state : Spin} {thread : Nat} {spinner : Spinner}

theorem initial : Spin.initial.Exclusive := by
  refine ⟨?_, ?_, fun _ => rfl⟩
  · intro first _ inside
    cases inside
  · intro thread inside
    cases inside

theorem goes (exclusive : state.Exclusive) (buffer : Buffer)
    (side : spinner.isInside = (state.threads thread).isInside)
    (mark : spinner.hasWiped = (state.threads thread).hasWiped) :
    ({ state with buffer := buffer }.goes thread spinner).Exclusive := by
  have sides (other : Nat) : (Function.update state.threads thread spinner other).isInside =
      (state.threads other).isInside := by
    by_cases same : other = thread
    · subst same
      rw [Function.update_self, side]
    · rw [Function.update_of_ne same]
  have marks (other : Nat) : (Function.update state.threads thread spinner other).hasWiped =
      (state.threads other).hasWiped := by
    by_cases same : other = thread
    · subst same
      rw [Function.update_self, mark]
    · rw [Function.update_of_ne same]
  refine ⟨?_, ?_, ?_⟩
  · intro first second here there
    exact exclusive.alone first second ((sides first).symm.trans here)
      ((sides second).symm.trans there)
  · intro other inside
    rw [Spin.goes, marks other]
    exact exclusive.held other ((sides other).symm.trans inside)
  · intro none
    exact exclusive.free fun other => (sides other).symm.trans (none other)

theorem of_alone {word : UInt32} (others : ∀ other, other ≠ thread →
      (state.threads other).isInside = false)
    (taken : spinner.isInside = true → word = if spinner.hasWiped then 0 else 1)
    (given : spinner.isInside = false → word = 0) :
    ({ state with smcLock := word }.goes thread spinner).Exclusive := by
  have only (other : Nat)
      (inside : (Function.update state.threads thread spinner other).isInside = true) :
      other = thread := by
    by_contra different
    rw [Function.update_of_ne different, others other different] at inside
    cases inside
  refine ⟨?_, ?_, ?_⟩
  · intro first second here there
    exact (only first here).trans (only second there).symm
  · intro other inside
    obtain rfl := only other inside
    rw [Spin.goes_self] at inside
    rw [Spin.goes_self]
    exact taken inside
  · intro none
    have here := none thread
    rw [Spin.goes_self] at here
    exact given here

theorem others_outside (exclusive : state.Exclusive)
    (inside : (state.threads thread).isInside = true) (other : Nat) (different : other ≠ thread) :
    (state.threads other).isInside = false := by
  rw [Bool.eq_false_iff]
  intro also
  exact different (exclusive.alone other thread also inside)

end Spin.Exclusive

/-- A thread tries for the lock only while nobody inside has overwritten it. -/
def LockIntact (state : Spin) : SpinLabel → Prop
  | .tryLock _ => ∀ thread, (state.threads thread).hasWiped = false
  | _ => True

section Runs

variable {config : Config}

theorem Spin.Exclusive.step {before after : Spin} {label : SpinLabel}
    (exclusive : before.Exclusive) (intact : LockIntact before label)
    (ran : before.exec config label = some after) : after.Exclusive := by
  rcases Spin.exec_cases ran with ⟨thread, body, outside, rfl⟩ |
    ⟨thread, body, rfl, spinning, free, rfl⟩ | ⟨thread, body, spinning, rfl⟩ |
    ⟨thread, rest, next, wiped, buffer, inside, rfl⟩ | ⟨thread, rest, next, wiped, inside, rfl⟩ |
    ⟨thread, wiped, inside, rfl⟩
  · exact exclusive.goes before.buffer (by rw [outside]; rfl) (by rw [outside]; rfl)
  · -- the word is 0, and who is inside would have to have overwritten it
    refine .of_alone ?_ (fun _ => rfl) (fun outside => by cases outside)
    intro other _
    rw [Bool.eq_false_iff]
    intro inside
    have held := exclusive.held other inside
    rw [intact other, free] at held
    cases held
  · exact exclusive.goes before.buffer (by rw [spinning]) (by rw [spinning])
  · exact exclusive.goes buffer (by rw [inside]; rfl) (by rw [inside]; rfl)
  · exact .of_alone (exclusive.others_outside (by rw [inside]; rfl)) (fun _ => rfl)
      (fun outside => by cases outside)
  · have held := exclusive.held thread (by rw [inside]; rfl)
    refine .of_alone (exclusive.others_outside (by rw [inside]; rfl))
      (fun stays => by cases stays) (fun _ => ?_)
    rw [held]
    split <;> rfl

/-- In every run in which nobody tries for a lock that its holder has overwritten, at
most one thread is inside. -/
theorem smc_lock_exclusive {state : Spin}
    (reached : ((spinMachine config).restrict LockIntact).Reachable state) :
    ∀ first second, (state.threads first).isInside = true →
      (state.threads second).isInside = true → first = second := by
  have exclusive : state.Exclusive := by
    refine reached.invariant ?_ ?_
    · intro state initial
      rw [initial]
      exact .initial
    · intro before label after exclusive taken
      exact exclusive.step taken.1 taken.2
  exact exclusive.alone

end Runs

def SpinLabel.tries : SpinLabel → Bool
  | .tryLock _ => true
  | _ => false

/-- The steps that do not try for the lock. -/
def Spin.execInside (state : Spin) (label : SpinLabel) : Option Spin :=
  if label.tries then none else state.exec defaultConfig label

theorem Spin.execInside_sound {before after : Spin} {label : SpinLabel}
    (ran : before.execInside label = some after) :
    ((spinMachine defaultConfig).restrict LockIntact).step before label after := by
  rw [Spin.execInside] at ran
  split at ran
  · cases ran
  · next quiet =>
      refine ⟨?_, ran⟩
      cases label with
      | tryLock thread => exact absurd rfl quiet
      | enter | access | release => trivial

theorem Spin.intact_goes {state : Spin} (intact : ∀ thread, (state.threads thread).hasWiped = false)
    (thread : Nat) {spinner : Spinner} (unwiped : spinner.hasWiped = false) (other : Nat) :
    ((state.goes thread spinner).threads other).hasWiped = false := by
  by_cases same : other = thread
  · subst same
    rw [Spin.goes_self]
    exact unwiped
  · rw [Spin.goes_other _ _ same]
    exact intact other

def cleaning : Section := SectionName.occupyCleanCmdBuf.body defaultConfig

def clearing : Section := (SectionName.clearSmcInEntry 0).body defaultConfig

def bothSpin : Spin :=
  (Spin.initial.goes 0 (.spinning cleaning)).goes 1 (.spinning clearing)

def cleanerInside : Spin :=
  ({ bothSpin with smcLock := 1 }.goes 0 (.inside cleaning false)).goes 1 (.spinning clearing)

theorem cleanerInside_reachable :
    ((spinMachine defaultConfig).restrict LockIntact).Reachable cleanerInside := by
  have intact : ∀ thread, (bothSpin.threads thread).hasWiped = false :=
    Spin.intact_goes (Spin.intact_goes (fun _ => rfl) 0 rfl) 1 rfl
  have first : ((spinMachine defaultConfig).restrict LockIntact).step .initial
      (.enter 0 .occupyCleanCmdBuf) (Spin.initial.goes 0 (.spinning cleaning)) := ⟨trivial, rfl⟩
  have second : ((spinMachine defaultConfig).restrict LockIntact).step
      (Spin.initial.goes 0 (.spinning cleaning)) (.enter 1 (.clearSmcInEntry 0)) bothSpin :=
    ⟨trivial, rfl⟩
  have locked : ((spinMachine defaultConfig).restrict LockIntact).step bothSpin (.tryLock 0)
      ({ bothSpin with smcLock := 1 }.goes 0 (.inside cleaning false)) := ⟨intact, rfl⟩
  have refused : ((spinMachine defaultConfig).restrict LockIntact).step
      ({ bothSpin with smcLock := 1 }.goes 0 (.inside cleaning false)) (.tryLock 1)
      cleanerInside := by
    have still : ∀ thread,
        (({ bothSpin with smcLock := 1 }.goes 0 (.inside cleaning false)).threads
          thread).hasWiped = false :=
      @Spin.intact_goes { bothSpin with smcLock := 1 } intact 0 (.inside cleaning false) rfl
    exact ⟨still, rfl⟩
  exact .next (.next (.next (.next (.start rfl) first) second) locked) refused

/-- The cleaner overwrites the lock while thread 1 waits. -/
theorem smc_lock_exclusive_cleaner : ∃ state : Spin, (state.threads 0).hasWiped = true ∧
    (∃ body, state.threads 1 = .spinning body) ∧
    ∀ first second, (state.threads first).isInside = true →
      (state.threads second).isInside = true → first = second := by
  have ran : ((Machine.replay Spin.execInside cleanerInside
      [.access 0, .access 0, .access 0, .access 0]).map fun state =>
        match state.threads 1 with
        | .spinning _ => (state.threads 0).hasWiped
        | _ => false) = some true := by
    decide
  obtain ⟨state, reached, passed⟩ :=
    cleanerInside_reachable.exists_of_replay (fun _ _ _ => Spin.execInside_sound) ran
  split at passed
  · next body waits => exact ⟨state, passed, ⟨body, waits⟩, smc_lock_exclusive reached⟩
  · cases passed

/-- Thread 1 waits for the lock while thread 0 cleans the buffer. -/
def acquiredTwice : List SpinLabel :=
  [.enter 0 .occupyCleanCmdBuf, .tryLock 0, .enter 1 (.clearSmcInEntry 0), .tryLock 1,
    .access 0, .access 0, .access 0, .access 0, .tryLock 1]

theorem smc_lock_not_exclusive :
    ∃ state, (spinMachine defaultConfig).Reachable state ∧ (state.threads 0).isInside = true ∧
      (state.threads 1).isInside = true := by
  have ran : ((Machine.replay (fun state => Spin.exec state defaultConfig) .initial
      acquiredTwice).map fun state => (state.threads 0).isInside && (state.threads 1).isInside) = some true := by
    decide
  have start : (spinMachine defaultConfig).Reachable .initial := .start rfl
  obtain ⟨state, reached, both⟩ := start.exists_of_replay (fun _ _ _ stepped => stepped) ran
  rw [Bool.and_eq_true] at both
  exact ⟨state, reached, both.1, both.2⟩

end TzDriver.Smc
