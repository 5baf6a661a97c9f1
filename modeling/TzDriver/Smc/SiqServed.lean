/-
The slots of the dump requests as a queue: what was accepted is dumped once and in order, no
wake-up is lost, and when the end of the thread can be waited for.
-/

import TzDriver.Smc.Siq

namespace TzDriver.Smc

open TzDriver.Lib
open TzDriver.Lib.Cells (Block contents)

def SiqThread.locks : SiqThread → Bool
  | .draining | .dumped _ | .drained | .unlocking => true
  | .waiting _ | .awake | .atLock | .returned _ => false

def SiqCaller.locks : SiqCaller → Bool
  | .inside _ | .full | .filed | .marked => true
  | .idle | .atLock _ | .waking => false

theorem SiqThread.woken_locks (thread : SiqThread) : thread.woken.locks = thread.locks := by
  cases thread <;> rfl

theorem SiqThread.woken_cases (thread : SiqThread) :
    thread.woken = thread ∨ (thread.locks = false ∧ thread.woken.locks = false) := by
  cases thread with
  | waiting asleep => exact Or.inr ⟨rfl, rfl⟩
  | _ => exact Or.inl rfl

theorem SiqThread.rest_of_not_locks {thread : SiqThread} (outside : thread.locks = false)
    (filled : List UInt32) : thread.rest filled = filled := by
  cases thread with
  | dumped index => cases outside
  | _ => rfl

namespace SiqState

@[simp] theorem goes_self (state : SiqState) (id : Nat) (caller : SiqCaller) :
    (state.goes id caller).callers id = caller :=
  Function.update_self ..

theorem goes_other (state : SiqState) {id other : Nat} (caller : SiqCaller) (apart : other ≠ id) :
    (state.goes id caller).callers other = state.callers other :=
  Function.update_of_ne apart ..

end SiqState

/-! ### The lock -/

/-- `g_siq_lock` is held by whoever is in a section. -/
structure SiqLocked (state : SiqState) : Prop where
  thread : state.thread.locks = true ↔ state.lock = some .thread
  caller : ∀ id, (state.callers id).locks = true ↔ state.lock = some (.caller id)

section Lock

variable {logDumpPath : Bool} {state after : SiqState}

theorem SiqLocked.stay (locked : SiqLocked state) (thread : after.thread.locks = state.thread.locks)
    (lock : after.lock = state.lock) {id : Nat} {caller : SiqCaller}
    (callers : after.callers = Function.update state.callers id caller)
    (same : caller.locks = (state.callers id).locks) : SiqLocked after := by
  constructor
  · rw [thread, lock]
    exact locked.thread
  · intro other
    rw [lock, callers]
    by_cases self : other = id
    · subst self
      rw [Function.update_self, same]
      exact locked.caller other
    · rw [Function.update_of_ne self]
      exact locked.caller other

theorem SiqLocked.keep (locked : SiqLocked state) (thread : after.thread.locks = state.thread.locks)
    (lock : after.lock = state.lock) (callers : after.callers = state.callers) :
    SiqLocked after := by
  constructor
  · rw [thread, lock]
    exact locked.thread
  · intro id
    rw [lock, callers]
    exact locked.caller id

theorem SiqLocked.thread_outside (locked : SiqLocked state) {id : Nat}
    (inside : (state.callers id).locks = true) : state.thread.locks = false := by
  have owner := (locked.caller id).mp inside
  apply Bool.eq_false_iff.mpr
  intro threadInside
  have clash := locked.thread.mp threadInside
  rw [owner] at clash
  cases clash

theorem SiqLocked.caller_outside (locked : SiqLocked state) (inside : state.thread.locks = true)
    (id : Nat) : (state.callers id).locks = false := by
  apply Bool.eq_false_iff.mpr
  intro callerInside
  rw [locked.thread_outside callerInside] at inside
  cases inside

/-- Two callers are never in their sections together. -/
theorem SiqLocked.alone (locked : SiqLocked state) {first second : Nat}
    (inFirst : (state.callers first).locks = true)
    (inSecond : (state.callers second).locks = true) : first = second := by
  have owner := (locked.caller first).mp inFirst
  rw [(locked.caller second).mp inSecond] at owner
  cases owner
  rfl

theorem SiqLocked.acquire (locked : SiqLocked state) (open_ : state.lock = none) {id : Nat}
    {caller : SiqCaller} (inside : caller.locks = true) :
    SiqLocked ({ state with lock := some (.caller id) }.goes id caller) := by
  have free : ∀ owner, state.lock ≠ some owner := by
    intro owner held
    rw [open_] at held
    cases held
  constructor
  · change state.thread.locks = true ↔ some (SiqOwner.caller id) = some .thread
    constructor
    · intro threadInside
      exact absurd (locked.thread.mp threadInside) (free _)
    · intro impossible
      cases impossible
  · intro other
    change _ ↔ some (SiqOwner.caller id) = some (.caller other)
    by_cases self : other = id
    · subst self
      rw [SiqState.goes_self]
      exact ⟨fun _ => rfl, fun _ => inside⟩
    · rw [SiqState.goes_other _ _ self]
      constructor
      · intro otherInside
        exact absurd ((locked.caller other).mp otherInside) (free _)
      · intro same
        cases same
        exact absurd rfl self

theorem SiqLocked.release (locked : SiqLocked state) {id : Nat} {caller : SiqCaller}
    (inside : (state.callers id).locks = true) (outside : caller.locks = false) :
    SiqLocked ({ state with lock := none }.goes id caller) := by
  constructor
  · change state.thread.locks = true ↔ none = some SiqOwner.thread
    rw [locked.thread_outside inside]
    simp
  · intro other
    change _ ↔ none = some (SiqOwner.caller other)
    constructor
    · intro otherInside
      by_cases self : other = id
      · subst self
        rw [SiqState.goes_self, outside] at otherInside
        cases otherInside
      · rw [SiqState.goes_other _ _ self] at otherInside
        exact absurd (locked.alone otherInside inside) self
    · intro impossible
      cases impossible

theorem SiqLocked.enter (locked : SiqLocked state) (open_ : state.lock = none) {thread : SiqThread}
    (inside : thread.locks = true) :
    SiqLocked { state with lock := some .thread, thread := thread } := by
  constructor
  · exact ⟨fun _ => rfl, fun _ => inside⟩
  · intro id
    change (state.callers id).locks = true ↔ some SiqOwner.thread = some (.caller id)
    constructor
    · intro callerInside
      have held := (locked.caller id).mp callerInside
      rw [open_] at held
      cases held
    · intro impossible
      cases impossible

theorem SiqLocked.exit (locked : SiqLocked state) (inside : state.thread.locks = true)
    {thread : SiqThread} (outside : thread.locks = false) :
    SiqLocked { state with lock := none, thread := thread } := by
  constructor
  · change thread.locks = true ↔ none = some SiqOwner.thread
    rw [outside]
    simp
  · intro id
    change (state.callers id).locks = true ↔ none = some (SiqOwner.caller id)
    rw [locked.caller_outside inside id]
    simp

theorem SiqLocked.move (locked : SiqLocked state) {label : SiqLabel}
    (move : SiqMove logDumpPath state label after) : SiqLocked after := by
  cases move with
  | ignored id => exact locked
  | call id mode place proper => exact locked.stay rfl rfl rfl (by rw [place]; rfl)
  | acquire id mode place open_ => exact locked.acquire open_ rfl
  | refuse id mode place none_ => exact locked.stay rfl rfl rfl (by rw [place]; rfl)
  | file id mode place room => exact locked.stay rfl rfl rfl (by rw [place]; rfl)
  | giveUp id place => exact locked.release (by rw [place]; rfl) rfl
  | mark id place => exact locked.stay rfl rfl rfl (by rw [place]; rfl)
  | release id place => exact locked.release (by rw [place]; rfl) rfl
  | wake id place =>
      exact locked.stay (SiqThread.woken_locks state.thread) rfl rfl (by rw [place]; rfl)
  | sleep crashed place unset => exact locked.keep (by rw [place]; rfl) rfl rfl
  | see crashed place set => exact locked.keep (by rw [place]; rfl) rfl rfl
  | leave crashed place stopped => exact locked.keep (by rw [place]; rfl) rfl rfl
  | approach crashed place runs => exact locked.keep (by rw [place]; rfl) rfl rfl
  | enter crashed place open_ => exact locked.enter open_ rfl
  | dump crashed place found => exact locked.keep (by rw [place]; rfl) rfl rfl
  | finish crashed place none_ => exact locked.keep (by rw [place]; rfl) rfl rfl
  | clear crashed index place => exact locked.keep (by rw [place]; rfl) rfl rfl
  | reset crashed place => exact locked.keep (by rw [place]; rfl) rfl rfl
  | unlock crashed place => exact locked.exit (by rw [place]; rfl) rfl
  | interrupt place => exact locked.keep (by rw [place]; rfl) rfl rfl
  | store place => exact locked.keep rfl rfl rfl
  | signal place => exact locked.keep (SiqThread.woken_locks state.thread) rfl rfl
  | stop place => exact locked.keep (SiqThread.woken_locks state.thread) rfl rfl
  | join ret place ended => exact locked.keep rfl rfl rfl

end Lock

/-! ### The order of the slots -/

/-- How the slots look to a thread at a place. -/
def SiqThread.Fits (front : Nat) (filled : List UInt32) : SiqThread → Prop
  | .draining => True
  | .dumped index => front = index ∧ filled ≠ []
  | .drained | .unlocking => front = 0 ∧ filled = []
  | .waiting _ | .awake | .atLock | .returned _ => front = 0

theorem SiqThread.fits_outside {thread : SiqThread} (outside : thread.locks = false) {front : Nat}
    {filled : List UInt32} : thread.Fits front filled ↔ front = 0 := by
  cases thread with
  | draining => cases outside
  | dumped index => cases outside
  | drained => cases outside
  | unlocking => cases outside
  | waiting asleep => exact Iff.rfl
  | awake => exact Iff.rfl
  | atLock => exact Iff.rfl
  | returned ret => exact Iff.rfl

/-- What is asked for is not the mark of a free slot. -/
def SiqCaller.Proper : SiqCaller → Prop
  | .atLock mode | .inside mode => mode ≠ 0
  | .idle | .full | .filed | .marked | .waking => True

/-- The slots hold what was accepted and is not dumped, in one block and in order. -/
structure SiqOrdered (state : SiqState) : Prop where
  length : state.queue.length = maxSiqNum
  proper : ∀ id, (state.callers id).Proper
  block : ∃ front filled, Block 0 state.queue front filled ∧ state.thread.Fits front filled ∧
    state.accepted = state.dumps.map Dump.mode ++ state.thread.rest filled

section Order

variable {logDumpPath : Bool} {state after : SiqState}

theorem SiqOrdered.goes_proper (ordered : SiqOrdered state) {id : Nat} {caller : SiqCaller}
    (kept : caller.Proper) (other : Nat) : ((state.goes id caller).callers other).Proper := by
  by_cases self : other = id
  · subst self
    rw [SiqState.goes_self]
    exact kept
  · rw [SiqState.goes_other _ _ self]
    exact ordered.proper other

theorem SiqOrdered.stay (ordered : SiqOrdered state) (queue : after.queue = state.queue)
    (accepted : after.accepted = state.accepted) (dumps : after.dumps = state.dumps)
    (proper : ∀ id, (after.callers id).Proper)
    (thread : after.thread = state.thread ∨
      (state.thread.locks = false ∧ after.thread.locks = false)) : SiqOrdered after := by
  obtain ⟨front, filled, block, fits, order⟩ := ordered.block
  constructor
  · rw [queue]
    exact ordered.length
  · exact proper
  · refine ⟨front, filled, ?_, ?_, ?_⟩
    · rw [queue]
      exact block
    · rcases thread with same | ⟨outside, stays⟩
      · rw [same]
        exact fits
      · rw [SiqThread.fits_outside outside] at fits
        exact (SiqThread.fits_outside stays).mpr fits
    · rw [accepted, dumps, order]
      rcases thread with same | ⟨outside, stays⟩
      · rw [same]
      · rw [SiqThread.rest_of_not_locks outside, SiqThread.rest_of_not_locks stays]

theorem SiqOrdered.goes (ordered : SiqOrdered state) (queue : after.queue = state.queue)
    (accepted : after.accepted = state.accepted) (dumps : after.dumps = state.dumps)
    (thread : after.thread = state.thread) {id : Nat} {caller : SiqCaller}
    (callers : after.callers = (state.goes id caller).callers) (kept : caller.Proper) :
    SiqOrdered after := by
  apply ordered.stay queue accepted dumps _ (Or.inl thread)
  rw [callers]
  exact ordered.goes_proper kept

theorem SiqOrdered.outside (ordered : SiqOrdered state) (was : state.thread.locks = false)
    {thread : SiqThread} (is_ : thread.locks = false) :
    SiqOrdered { state with thread := thread } :=
  ordered.stay rfl rfl rfl ordered.proper (Or.inr ⟨was, is_⟩)

theorem SiqOrdered.file (ordered : SiqOrdered state) (outside : state.thread.locks = false)
    {id : Nat} {mode : UInt32} (place : state.callers id = .inside mode)
    (room : getFreeSiqIndex state.queue < maxSiqNum) :
    SiqOrdered ({ state with
      queue := state.queue.set (getFreeSiqIndex state.queue) mode
      accepted := state.accepted ++ [mode] }.goes id .filed) := by
  obtain ⟨front, filled, block, fits, order⟩ := ordered.block
  rw [SiqThread.fits_outside outside] at fits
  subst fits
  have nonzero : mode ≠ 0 := by
    have asked := ordered.proper id
    rw [place] at asked
    exact asked
  rw [← ordered.length] at room
  constructor
  · exact List.length_set.trans ordered.length
  · exact ordered.goes_proper trivial
  · refine ⟨0, filled ++ [mode], block.put nonzero room, ?_, ?_⟩
    · exact (SiqThread.fits_outside outside).mpr rfl
    · change state.accepted ++ [mode] = state.dumps.map Dump.mode ++ state.thread.rest _
      rw [order, SiqThread.rest_of_not_locks outside, SiqThread.rest_of_not_locks outside,
        List.append_assoc]

theorem SiqOrdered.dump (ordered : SiqOrdered state) (crashed : Bool)
    (place : state.thread = .draining) (found : getUndoSiqIndex state.queue < maxSiqNum) :
    SiqOrdered { state with
      dumps := state.dumps ++
        [siqDump logDumpPath (state.queue.getD (getUndoSiqIndex state.queue) 0) crashed]
      sysCrash := state.sysCrash || crashed
      thread := .dumped (getUndoSiqIndex state.queue) } := by
  obtain ⟨front, filled, block, fits, order⟩ := ordered.block
  cases filled with
  | nil =>
      have past := block.firstFilled_none
      rw [ordered.length] at past
      exact absurd found (Nat.not_lt.mpr (Nat.le_of_eq past.symm))
  | cons mode rest =>
      have index : getUndoSiqIndex state.queue = front := block.firstFilled_eq
      have read : state.queue.getD front 0 = mode := by
        rw [List.getD_eq_getElem?_getD, block.getElem?_front, Option.getD_some]
      refine ⟨ordered.length, ordered.proper, front, mode :: rest, block, ?_, ?_⟩
      · exact ⟨index.symm, List.cons_ne_nil mode rest⟩
      · rw [place] at order
        change state.accepted = (state.dumps ++ _).map Dump.mode ++ rest
        rw [List.map_append, List.append_assoc, index, read, order]
        rfl

theorem SiqOrdered.clear (ordered : SiqOrdered state) {index : Nat}
    (place : state.thread = .dumped index) :
    SiqOrdered { state with queue := state.queue.set index 0, thread := .draining } := by
  obtain ⟨front, filled, block, fits, order⟩ := ordered.block
  rw [place] at fits order
  obtain ⟨rfl, filled_⟩ := fits
  cases filled with
  | nil => exact absurd rfl filled_
  | cons mode rest =>
      refine ⟨List.length_set.trans ordered.length, ordered.proper, front + 1, rest, block.take,
        trivial, ?_⟩
      exact order

theorem SiqOrdered.finish (ordered : SiqOrdered state) (place : state.thread = .draining)
    (none_ : maxSiqNum ≤ getUndoSiqIndex state.queue) :
    SiqOrdered { state with thread := .drained } := by
  obtain ⟨front, filled, block, fits, order⟩ := ordered.block
  rw [place] at order
  cases filled with
  | nil =>
      refine ⟨ordered.length, ordered.proper, 0, [], block.restart, ⟨rfl, rfl⟩, ?_⟩
      exact order
  | cons mode rest =>
      have index : getUndoSiqIndex state.queue = front := block.firstFilled_eq
      have inside := block.lt_length
      rw [ordered.length] at inside
      omega

theorem SiqOrdered.unlock (ordered : SiqOrdered state) (place : state.thread = .unlocking) :
    SiqOrdered { state with lock := none, thread := .waiting false } := by
  obtain ⟨front, filled, block, fits, order⟩ := ordered.block
  rw [place] at fits order
  exact ⟨ordered.length, ordered.proper, front, filled, block, fits.1, order⟩

theorem SiqOrdered.enter (ordered : SiqOrdered state) (place : state.thread = .atLock) :
    SiqOrdered { state with lock := some .thread, thread := .draining } := by
  obtain ⟨front, filled, block, fits, order⟩ := ordered.block
  rw [place] at order
  exact ⟨ordered.length, ordered.proper, front, filled, block, trivial, order⟩

theorem SiqOrdered.reset (ordered : SiqOrdered state) (place : state.thread = .drained) :
    SiqOrdered { state with run := 0, thread := .unlocking } := by
  obtain ⟨front, filled, block, fits, order⟩ := ordered.block
  rw [place] at fits order
  exact ⟨ordered.length, ordered.proper, front, filled, block, fits, order⟩

theorem SiqOrdered.move (ordered : SiqOrdered state) (locked : SiqLocked state) {label : SiqLabel}
    (move : SiqMove logDumpPath state label after) : SiqOrdered after := by
  cases move with
  | ignored id => exact ordered
  | call id mode place nonzero => exact ordered.goes rfl rfl rfl rfl rfl nonzero
  | acquire id mode place open_ =>
      have asked := ordered.proper id
      rw [place] at asked
      exact ordered.goes rfl rfl rfl rfl rfl asked
  | refuse id mode place none_ => exact ordered.goes rfl rfl rfl rfl rfl trivial
  | file id mode place room =>
      apply ordered.file _ place room
      apply locked.thread_outside
      rw [place]
      rfl
  | giveUp id place => exact ordered.goes rfl rfl rfl rfl rfl trivial
  | mark id place => exact ordered.goes rfl rfl rfl rfl rfl trivial
  | release id place => exact ordered.goes rfl rfl rfl rfl rfl trivial
  | wake id place =>
      refine ordered.stay rfl rfl rfl ?_ (SiqThread.woken_cases state.thread)
      exact ordered.goes_proper trivial
  | sleep crashed place unset => exact ordered.outside (by rw [place]; rfl) rfl
  | see crashed place set => exact ordered.outside (by rw [place]; rfl) rfl
  | leave crashed place stopped => exact ordered.outside (by rw [place]; rfl) rfl
  | approach crashed place runs => exact ordered.outside (by rw [place]; rfl) rfl
  | enter crashed place open_ => exact ordered.enter place
  | dump crashed place found => exact ordered.dump crashed place found
  | finish crashed place none_ => exact ordered.finish place none_
  | clear crashed index place => exact ordered.clear place
  | reset crashed place => exact ordered.reset place
  | unlock crashed place => exact ordered.unlock place
  | interrupt place => exact ordered.outside (by rw [place]; rfl) rfl
  | store place => exact ordered.stay rfl rfl rfl ordered.proper (Or.inl rfl)
  | signal place =>
      exact ordered.stay rfl rfl rfl ordered.proper (SiqThread.woken_cases state.thread)
  | stop place =>
      exact ordered.stay rfl rfl rfl ordered.proper (SiqThread.woken_cases state.thread)
  | join ret place ended => exact ordered.stay rfl rfl rfl ordered.proper (Or.inl rfl)

theorem SiqOrdered.contents_eq (ordered : SiqOrdered state) :
    state.accepted = state.dumps.map Dump.mode ++ state.outstanding := by
  obtain ⟨front, filled, block, fits, order⟩ := ordered.block
  rw [order, SiqState.outstanding, block.contents_eq]

/-- Behind the drain no slot is filled. -/
theorem SiqOrdered.contents_nil (ordered : SiqOrdered state) (place : state.thread = .unlocking) :
    contents 0 state.queue = [] := by
  obtain ⟨front, filled, block, fits, order⟩ := ordered.block
  rw [place] at fits
  rw [block.contents_eq]
  exact fits.2

theorem SiqOrdered.contents_full (ordered : SiqOrdered state) (outside : state.thread.locks = false)
    (none_ : maxSiqNum ≤ getFreeSiqIndex state.queue) :
    (contents 0 state.queue).length = maxSiqNum := by
  obtain ⟨front, filled, block, fits, order⟩ := ordered.block
  rw [SiqThread.fits_outside outside] at fits
  subst fits
  rw [← ordered.length] at none_
  rw [block.contents_eq, block.full none_, ordered.length]

end Order

/-! ### The flag and the wake-ups -/

/-- Someone has stored `g_siq_th_run` and has still to wake the thread. -/
def SiqState.Waker (state : SiqState) : Prop :=
  (∃ id, state.callers id = .marked ∨ state.callers id = .waking) ∨ state.stopper = .stored

structure SiqFlagged (state : SiqState) : Prop where
  /-- A filled slot is known to the flag, to the drain or to the caller that filled it. -/
  flag : state.run = 0 → contents 0 state.queue ≠ [] →
    state.thread.locks = true ∨ ∃ id, state.callers id = .filed
  /-- Nobody sleeps on a flag that is set. -/
  sleep : state.thread = .waiting true → state.run ≠ 0 → state.Waker
  full : ∀ id, state.callers id = .full → (contents 0 state.queue).length = maxSiqNum

section Flag

variable {logDumpPath : Bool} {state after : SiqState}

theorem SiqState.caller_kept {id other : Nat} {caller place target : SiqCaller}
    (was : state.callers id = place) (there : state.callers other = target)
    (apart : place ≠ target) : (state.goes id caller).callers other = target := by
  rw [state.goes_other]
  · exact there
  · intro same
    subst same
    rw [was] at there
    exact apart there

theorem SiqState.Waker.kept (waker : state.Waker) {id : Nat} {caller place : SiqCaller}
    (was : state.callers id = place) (notMarked : place ≠ .marked) (notWaking : place ≠ .waking)
    (callers : after.callers = (state.goes id caller).callers)
    (stopper : after.stopper = state.stopper) : after.Waker := by
  rcases waker with ⟨other, marked | waking⟩ | stored
  · left
    refine ⟨other, Or.inl ?_⟩
    rw [callers]
    exact state.caller_kept was marked notMarked
  · left
    refine ⟨other, Or.inr ?_⟩
    rw [callers]
    exact state.caller_kept was waking notWaking
  · right
    rw [stopper]
    exact stored

theorem SiqState.full_goes {Holds : Prop} (full : ∀ other, state.callers other = .full → Holds)
    {id : Nat} {caller : SiqCaller} (moved : caller = .full → Holds) (other : Nat)
    (there : (state.goes id caller).callers other = .full) : Holds := by
  by_cases self : other = id
  · subst self
    rw [SiqState.goes_self] at there
    exact moved there
  · rw [SiqState.goes_other _ _ self] at there
    exact full other there

theorem SiqFlagged.goes (flagged : SiqFlagged state) (queue : after.queue = state.queue)
    (run : after.run = state.run) (thread : after.thread = state.thread)
    (stopper : after.stopper = state.stopper) {id : Nat} {caller place : SiqCaller}
    (was : state.callers id = place) (notFiled : place ≠ .filed) (notMarked : place ≠ .marked)
    (notWaking : place ≠ .waking) (callers : after.callers = (state.goes id caller).callers)
    (full : caller = .full → (contents 0 state.queue).length = maxSiqNum) :
    SiqFlagged after := by
  constructor
  · rw [run, queue, thread, callers]
    intro unset some_
    rcases flagged.flag unset some_ with inside | ⟨other, filed⟩
    · exact Or.inl inside
    · exact Or.inr ⟨other, state.caller_kept was filed notFiled⟩
  · rw [thread, run]
    intro asleep set
    exact (flagged.sleep asleep set).kept was notMarked notWaking callers stopper
  · rw [queue, callers]
    exact SiqState.full_goes flagged.full full

theorem SiqThread.woken_ne_asleep (thread : SiqThread) : thread.woken ≠ .waiting true := by
  cases thread <;> simp [SiqThread.woken]

theorem SiqFlagged.outside (flagged : SiqFlagged state) {thread : SiqThread}
    (was : state.thread.locks = false) (asleep : thread = .waiting true → state.run = 0) :
    SiqFlagged { state with thread := thread } := by
  constructor
  · intro unset some_
    rcases flagged.flag unset some_ with inside | filed
    · rw [was] at inside
      cases inside
    · exact Or.inr filed
  · intro sleeps set
    exact absurd (asleep sleeps) set
  · exact flagged.full

theorem SiqFlagged.inside (flagged : SiqFlagged state) (queue : after.queue = state.queue)
    (callers : after.callers = state.callers) (locks : after.thread.locks = true) :
    SiqFlagged after := by
  constructor
  · intro _unset _some
    exact Or.inl locks
  · intro sleeps
    rw [sleeps] at locks
    cases locks
  · rw [callers, queue]
    exact flagged.full

theorem SiqFlagged.woken (flagged : SiqFlagged state) (queue : after.queue = state.queue)
    (run : after.run = state.run) (thread : after.thread = state.thread.woken)
    (callers : after.callers = state.callers) : SiqFlagged after := by
  constructor
  · rw [run, queue, thread, callers, SiqThread.woken_locks]
    exact flagged.flag
  · rw [thread]
    intro sleeps
    exact absurd sleeps state.thread.woken_ne_asleep
  · rw [callers, queue]
    exact flagged.full

theorem SiqFlagged.file (flagged : SiqFlagged state) (locked : SiqLocked state) {id : Nat}
    {mode : UInt32} (place : state.callers id = .inside mode) {queue accepted : List UInt32} :
    SiqFlagged ({ state with queue := queue, accepted := accepted }.goes id .filed) := by
  constructor
  · intro _unset _some
    exact Or.inr ⟨id, SiqState.goes_self _ id .filed⟩
  · intro asleep set
    exact (flagged.sleep asleep set).kept place (by simp) (by simp) rfl rfl
  · have nobody : ∀ other, state.callers other = .full → False := by
      intro other there
      have together : other = id := by
        apply locked.alone
        · rw [there]
          rfl
        · rw [place]
          rfl
      rw [together, place] at there
      cases there
    intro other there
    exact (SiqState.full_goes nobody (by simp) other there).elim

theorem SiqFlagged.mark (flagged : SiqFlagged state) {id : Nat} :
    SiqFlagged ({ state with run := runSiqThread }.goes id .marked) := by
  constructor
  · intro unset
    cases unset
  · intro _asleep _set
    exact Or.inl ⟨id, Or.inl (SiqState.goes_self _ id .marked)⟩
  · apply SiqState.full_goes flagged.full
    simp

theorem SiqFlagged.release (flagged : SiqFlagged state) {id : Nat}
    (place : state.callers id = .marked) :
    SiqFlagged ({ state with lock := none }.goes id .waking) := by
  constructor
  · intro unset some_
    rcases flagged.flag unset some_ with inside | ⟨other, filed⟩
    · exact Or.inl inside
    · exact Or.inr ⟨other, state.caller_kept place filed (by simp)⟩
  · intro _asleep _set
    exact Or.inl ⟨id, Or.inr (SiqState.goes_self _ id .waking)⟩
  · apply SiqState.full_goes flagged.full
    simp

theorem SiqFlagged.wake (flagged : SiqFlagged state) {id : Nat}
    (place : state.callers id = .waking) : SiqFlagged (state.wake.goes id .idle) := by
  have woken : SiqFlagged state.wake := flagged.woken rfl rfl rfl rfl
  constructor
  · intro unset some_
    rcases woken.flag unset some_ with inside | ⟨other, filed⟩
    · exact Or.inl inside
    · exact Or.inr ⟨other, SiqState.caller_kept place filed (by simp)⟩
  · intro asleep
    exact absurd asleep state.thread.woken_ne_asleep
  · apply SiqState.full_goes woken.full
    simp

theorem SiqFlagged.clear (locked : SiqLocked state) {index : Nat}
    (place : state.thread = .dumped index) {queue : List UInt32} :
    SiqFlagged { state with queue := queue, thread := .draining } := by
  constructor
  · intro _unset _some
    exact Or.inl rfl
  · intro asleep
    cases asleep
  · intro id there
    have outside := locked.caller_outside (by rw [place]; rfl) id
    rw [show state.callers id = .full from there] at outside
    cases outside

theorem SiqFlagged.unlock (flagged : SiqFlagged state) (ordered : SiqOrdered state)
    (place : state.thread = .unlocking) :
    SiqFlagged { state with lock := none, thread := .waiting false } := by
  constructor
  · intro _unset some_
    exact absurd (ordered.contents_nil place) some_
  · intro asleep
    cases asleep
  · exact flagged.full

theorem SiqFlagged.move (flagged : SiqFlagged state) (locked : SiqLocked state)
    (ordered : SiqOrdered state) {label : SiqLabel}
    (move : SiqMove logDumpPath state label after) : SiqFlagged after := by
  cases move with
  | ignored id => exact flagged
  | call id mode place nonzero =>
      exact flagged.goes rfl rfl rfl rfl place (by simp) (by simp) (by simp) rfl (by simp)
  | acquire id mode place open_ =>
      exact flagged.goes rfl rfl rfl rfl place (by simp) (by simp) (by simp) rfl (by simp)
  | refuse id mode place none_ =>
      refine flagged.goes rfl rfl rfl rfl place (by simp) (by simp) (by simp) rfl ?_
      intro _full
      apply ordered.contents_full _ none_
      apply locked.thread_outside
      rw [place]
      rfl
  | file id mode place room => exact flagged.file locked place
  | giveUp id place =>
      exact flagged.goes rfl rfl rfl rfl place (by simp) (by simp) (by simp) rfl (by simp)
  | mark id place => exact flagged.mark
  | release id place => exact flagged.release place
  | wake id place => exact flagged.wake place
  | sleep crashed place unset =>
      apply flagged.outside
      · rw [place]
        rfl
      · exact fun _ => unset
  | see crashed place set => exact flagged.outside (by rw [place]; rfl) (by simp)
  | leave crashed place stopped => exact flagged.outside (by rw [place]; rfl) (by simp)
  | approach crashed place runs => exact flagged.outside (by rw [place]; rfl) (by simp)
  | enter crashed place open_ => exact flagged.inside rfl rfl rfl
  | dump crashed place found => exact flagged.inside rfl rfl rfl
  | finish crashed place none_ => exact flagged.inside rfl rfl rfl
  | clear crashed index place => exact SiqFlagged.clear locked place
  | reset crashed place => exact flagged.inside rfl rfl rfl
  | unlock crashed place => exact flagged.unlock ordered place
  | interrupt place => exact flagged.outside (by rw [place]; rfl) (by simp)
  | store place =>
      constructor
      · intro unset
        cases unset
      · intro _asleep _set
        exact Or.inr rfl
      · exact flagged.full
  | signal place => exact flagged.woken rfl rfl rfl rfl
  | stop place => exact flagged.woken rfl rfl rfl rfl
  | join ret place ended =>
      constructor
      · exact flagged.flag
      · intro asleep
        rw [show state.thread = .waiting true from asleep] at ended
        cases ended
      · exact flagged.full

end Flag

/-! ### Runs -/

structure SiqSound (state : SiqState) : Prop where
  locked : SiqLocked state
  ordered : SiqOrdered state
  flagged : SiqFlagged state

theorem siqSound_initial : SiqSound .initial := by
  constructor
  · constructor
    · simp [SiqState.initial, SiqThread.locks]
    · intro id
      simp [SiqState.initial, SiqCaller.locks]
  · constructor
    · rfl
    · intro id
      trivial
    · exact ⟨0, [], Block.empty maxSiqNum, rfl, rfl⟩
  · constructor
    · intro _unset some_
      exact absurd (Cells.contents_replicate maxSiqNum) some_
    · intro asleep
      cases asleep
    · intro id there
      cases there

theorem siqSound_of_reachable {logDumpPath : Bool} {state : SiqState}
    (reached : (siqMachine logDumpPath).Reachable state) : SiqSound state := by
  apply reached.invariant
  · intro start initial
    rw [initial]
    exact siqSound_initial
  · intro before label after sound taken
    have move := SiqMove.of_step taken
    exact ⟨sound.locked.move move, sound.ordered.move sound.locked move,
      sound.flagged.move sound.locked sound.ordered move⟩

/-- The requests that find a slot are dumped in the order in which they came, each once and
with its own mode; a request is refused only while `MAX_SIQ_NUM` others are outstanding; and
the thread never sleeps over an outstanding request unless a caller that is still inside
`wakeup_tc_siq`, or the end of the thread, is about to wake it. -/
theorem siq_requests_served (logDumpPath : Bool) (state : SiqState)
    (reached : (siqMachine logDumpPath).Reachable state) :
    state.accepted = state.dumps.map Dump.mode ++ state.outstanding ∧
      state.outstanding.length ≤ maxSiqNum ∧
      (∀ id, state.callers id = .full → state.outstanding.length = maxSiqNum) ∧
      (state.outstanding ≠ [] → state.thread = .waiting true →
        (∃ id, state.callers id = .filed) ∨ state.Waker) := by
  have sound := siqSound_of_reachable reached
  have outside : state.thread.locks = false → state.outstanding = contents 0 state.queue :=
    fun free => SiqThread.rest_of_not_locks free _
  have bounded : (contents 0 state.queue).length ≤ maxSiqNum := by
    rw [← sound.ordered.length]
    exact List.length_filter_le _ state.queue
  refine ⟨sound.ordered.contents_eq, ?_, ?_, ?_⟩
  · apply Nat.le_trans _ bounded
    unfold SiqState.outstanding
    cases state.thread with
    | dumped index =>
        change (contents 0 state.queue).tail.length ≤ _
        rw [List.length_tail]
        exact Nat.sub_le _ 1
    | _ => exact Nat.le_refl _
  · intro id there
    rw [outside]
    · exact sound.flagged.full id there
    · apply sound.locked.thread_outside
      rw [there]
      rfl
  · intro some_ asleep
    have free : state.thread.locks = false := by
      rw [asleep]
      rfl
    rw [outside free] at some_
    by_cases unset : state.run = 0
    · left
      rcases sound.flagged.flag unset some_ with inside | filed
      · rw [free] at inside
        cases inside
      · exact filed
    · right
      exact sound.flagged.sleep asleep unset

/-- Two callers, and the thread between its first dump and the end of its drain. -/
def twoRequests : List SiqLabel :=
  [.call 0 siqDumpTimeout, .call 1 siqDumpShell, .caller 1, .caller 1, .caller 1, .caller 1,
    .caller 0, .caller 0, .thread false, .caller 0, .caller 0, .thread false, .thread false,
    .thread false, .thread true]

theorem siq_requests_served_two : ∃ state, (siqMachine true).Reachable state ∧
    state.accepted = [siqDumpShell, siqDumpTimeout] ∧
    state.accepted = state.dumps.map Dump.mode ++ state.outstanding ∧
    state.outstanding = [siqDumpTimeout] := by
  have start : (siqMachine true).Reachable .initial := .start rfl
  have ran : ((Machine.replay (SiqState.exec true) .initial twoRequests).map fun state =>
      decide (state.accepted = [siqDumpShell, siqDumpTimeout] ∧
        state.outstanding = [siqDumpTimeout])) = some true := by
    decide
  obtain ⟨state, reached, shown⟩ := start.exists_of_replay (fun _ _ _ stepped => stepped) ran
  obtain ⟨accepted, left⟩ := of_decide_eq_true shown
  exact ⟨state, reached, accepted, (siq_requests_served true state reached).1, left⟩

end TzDriver.Smc
