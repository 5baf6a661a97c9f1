/-
Slots and pending entries are given back.

`Released` says that every occupied slot and every listed pending entry belongs to
a command that is still under way.  It survives every step at which power
management, the SMC and the allocator do not fail under a command that already has
its slot.
-/

import TzDriver.Smc.Exclusive

namespace TzDriver.Smc

open TzDriver.Lib

@[simp] def Client.pe : Client → Option Nat
  | .retry call | .occupying call _ | .filled call | .releasing call | .sending call | .sent call _
  | .aborting call | .woken call | .done call | .cleaning call | .leaving call _ => some call.pe
  | .idle | .begins _ _ | .waiting _ | .returned _ => none

/-- No slot is owned by a client that has let it go. -/
def Held (state : State) : Prop :=
  ∀ index id, (state.slots index).owner = some id → (state.clients id).slot = some index

/-- The entries of `g_pending_head` are those of the calls under way, each with its
creator's reference. -/
structure Pended (state : State) : Prop where
  listed : ∀ entry, entry ∈ state.pending.list ↔ ∃ id, (state.clients id).pe = some entry
  once : state.pending.list.Nodup
  apart : ∀ first second entry, (state.clients first).pe = some entry →
    (state.clients second).pe = some entry → first = second
  created : ∀ entry ∈ state.pending.list, entry < state.pending.count
  users : ∀ entry, state.pending.users entry =
    state.pending.visitors entry + if entry ∈ state.pending.list then 1 else 0
  unvisited : ∀ entry, state.pending.count ≤ entry → state.pending.visitors entry = 0

/-- The steps at which nothing fails under a command that has its slot or its
pending entry: the entry of a re-send is allocated, power management works, the TEE
does not crash, an unfinished SMC exits normally or with an abort, and no TEE reboot
meets the service command.  The TEE answers submissions only. -/
@[simp] def smooth (config : Config) (state : State) : Label → Bool
  | .run id choice =>
      match state.clients id with
      | .begins _ true => choice.allocated
      | .retry call =>
          !(config.teeReboot && choice.rebooting && call.input.cmdId == globalCmdIdSetServeCmd)
      | .sending _ => choice.poweredOn && choice.poweredDown && !choice.crashed
      | .sent call exit => (state.slots call.cmdIndex).outBit || exit != .other
      | _ => true
  | .postKill .. => false
  | _ => true

theorem running_of_smooth {config : Config} {choice : Choice} {state : State} {id : Nat}
    {call : Call} (here : state.clients id = .retry call)
    (calm : smooth config state (.run id choice) = true) :
    (config.teeReboot && choice.rebooting && call.input.cmdId == globalCmdIdSetServeCmd) =
      false := by
  simpa only [smooth, here, Bool.not_eq_true'] using calm

/-! ### Slots -/

section Slots

variable {config : Config} {choice : Choice} {state : State} {id index : Nat} {client : Client}
  {slot : Slot} {call : Call}

theorem Held.goes (held : Held state) (same : client.slot = (state.clients id).slot) :
    Held (state.goes id client) := by
  intro index other owned
  change (Function.update state.clients id client other).slot = some index
  by_cases here : other = id
  · subst here
    rw [Function.update_self, same]
    exact held index other owned
  · rw [Function.update_of_ne here]
    exact held index other owned

theorem Held.setSlot_goes (held : Held state)
    (only : ∀ place, (state.clients id).slot = some place → place = index)
    (mine : ∀ other, slot.owner = some other → other = id ∧ client.slot = some index) :
    Held ((state.setSlot index slot).goes id client) := by
  intro place other owned
  change (Function.update state.slots index slot place).owner = some other at owned
  change (Function.update state.clients id client other).slot = some place
  by_cases here : place = index
  · subst here
    rw [Function.update_self] at owned
    obtain ⟨rfl, occupied⟩ := mine other owned
    rw [Function.update_self]
    exact occupied
  · rw [Function.update_of_ne here] at owned
    have occupied := held place other owned
    have different : other ≠ id := by
      intro same
      subst same
      exact here (only place occupied)
    rw [Function.update_of_ne different]
    exact occupied

theorem Held.setSlot (held : Held state) (owner : slot.owner = (state.slots index).owner) :
    Held (state.setSlot index slot) := by
  intro place other owned
  change (Function.update state.slots index slot place).owner = some other at owned
  by_cases here : place = index
  · subst here
    rw [Function.update_self, owner] at owned
    exact held place other owned
  · rw [Function.update_of_ne here] at owned
    exact held place other owned

private theorem begins_held {input : SmcCmd} {reuse : Bool} (held : Held state)
    (here : state.clients id = .begins input reuse)
    (allocated : reuse = true → choice.allocated = true) :
    Held (beginsSection choice state id input reuse) := by
  have listed : Held (state.setPending state.pending.initPendingEntry) := held
  unfold beginsSection
  split
  · apply listed.goes
    change _ = (state.clients id).slot
    rw [here]
    cases reuse with
    | true => simp
    | false => simp
  · next failed =>
      cases reuse with
      | true => exact absurd (allocated rfl) failed
      | false =>
          apply held.goes
          rw [here]
          rfl

private theorem retry_held (invariant : Invariant config state) (held : Held state)
    (here : state.clients id = .retry call)
    (running : (config.teeReboot && choice.rebooting &&
      call.input.cmdId == globalCmdIdSetServeCmd) = false) :
    Held (retrySection config choice state id call) := by
  obtain ⟨local_, owns⟩ := invariant.at_ here
  unfold retrySection
  rw [running, if_neg Bool.false_ne_true]
  split
  · next normal =>
      split
      · next resend =>
          have occupied : (state.clients id).slot = some call.cmdIndex := by
            rw [here]
            simp [normal, resend]
          have own := (owns call.cmdIndex (by simp [normal, resend])).1
          have saved : call.savedIndex = call.cmdIndex := by
            simpa [normal, resend] using local_
          split
          · next slot reused =>
              have owner : slot.owner = (state.slots call.cmdIndex).owner := by
                unfold Slot.reuseSmcInEntry at reused
                split at reused <;> cases reused
                rfl
              refine held.setSlot_goes ?_ ?_
              · intro place also
                exact Option.some.inj (also.symm.trans occupied)
              · intro other owned
                rw [owner] at owned
                exact ⟨only_owner own other owned, by simp [saved]⟩
          · apply held.goes
            rw [occupied]
            rfl
      · next clear =>
          apply held.goes
          rw [here]
          simp [normal, clear]
  · next other =>
      apply held.goes
      rw [here]
      simp [other]

private theorem occupying_held {retryCount : Nat} (held : Held state)
    (here : state.clients id = .occupying call retryCount) :
    Held (occupyingSection config state id call retryCount) := by
  unfold occupyingSection
  split
  · next index found =>
      refine held.setSlot_goes ?_ ?_
      · intro place occupied
        rw [here] at occupied
        cases occupied
      · intro other impossible
        cases impossible
        exact ⟨rfl, rfl⟩
  · split
    · apply held.goes
      rw [here]
      rfl
    · apply held.goes
      rw [here]
      rfl

private theorem aborting_held (invariant : Invariant config state) (held : Held state)
    (here : state.clients id = .aborting call) : Held (abortingSection state id call) := by
  have own := ((invariant.at_ here).2 call.cmdIndex rfl).1
  have occupied : (state.clients id).slot = some call.cmdIndex := by
    rw [here]
    rfl
  unfold abortingSection
  split
  · next slot aborted =>
      have owner : slot.owner = (state.slots call.cmdIndex).owner := by
        unfold Slot.setAbortCmd at aborted
        split at aborted <;> cases aborted
        rfl
      refine held.setSlot_goes ?_ ?_
      · intro place also
        exact Option.some.inj (also.symm.trans occupied)
      · intro other owned
        rw [owner] at owned
        exact ⟨only_owner own other owned, by simp⟩
  · apply held.goes
    rw [occupied]
    simp

private theorem done_held (invariant : Invariant config state) (held : Held state)
    (here : state.clients id = .done call) : Held (doneSection state id call) := by
  obtain ⟨own, written, ready⟩ := (invariant.at_ here).2 call.cmdIndex rfl
  have occupied := (invariant.slots call.cmdIndex).occupied own
  have only (place : Nat) (also : (state.clients id).slot = some place) : place = call.cmdIndex := by
    rw [here] at also
    exact (Option.some.inj also).symm
  have recorded : Held { state with copied := (id, (state.slots call.cmdIndex).outFor) ::
      state.copied } := held
  unfold doneSection
  simp only
  split
  · next notReady => exact absurd notReady (Slot.copySmcOutEntry_ready ready)
  · next usage after copied =>
      obtain ⟨_, _, ⟨rfl, again, owner, _, _⟩ | ⟨rfl, notPending2, _, owner, _⟩⟩ :=
        Slot.copySmcOutEntry_cases occupied written copied
      · split
        · apply recorded.setSlot_goes only
          intro other owned
          rw [owner] at owned
          exact ⟨only_owner own other owned, by simp⟩
        · apply recorded.setSlot_goes only
          intro other owned
          rw [owner] at owned
          exact ⟨only_owner own other owned, by simp⟩
      · rw [if_neg notPending2]
        apply recorded.setSlot_goes only
        intro other owned
        rw [owner] at owned
        cases owned

private theorem cleaning_held (invariant : Invariant config state) (held : Held state)
    (here : state.clients id = .cleaning call) : Held (cleaningSection state id call) := by
  obtain ⟨⟨pending, eventNr⟩, owns⟩ := invariant.at_ here
  rw [cleaningSection_keeps pending]
  apply held.goes
  rw [here]
  by_cases resend : call.cmdUsage = .resend
  · have own := (owns call.cmdIndex (by simp [resend])).1
    have inRange := invariant.bound call.cmdIndex id own
    simp [resend, pending.mp resend, eventNr resend,
      UInt32.toNat_ofNat_of_lt' (Nat.lt_trans inRange config.fits)]
  · have final : call.cmd.retVal ≠ teecPending := fun result => resend (pending.mpr result)
    simp [resend, final]

theorem clientStep_held {after : State} (invariant : Invariant config state) (held : Held state)
    (calm : smooth config state (.run id choice) = true)
    (ran : clientStep config choice state id = some after) : Held after := by
  unfold clientStep at ran
  split at ran
  · next input reuse here =>
      apply Option.some.inj ran ▸ begins_held held here
      intro same
      subst same
      simpa [here] using calm
  · next call here =>
      exact Option.some.inj ran ▸ retry_held invariant held here (running_of_smooth here calm)
  · next call retryCount here => exact Option.some.inj ran ▸ occupying_held held here
  · next call here =>
      have own := ((invariant.at_ here).2 call.cmdIndex rfl).1
      refine Option.some.inj ran ▸ held.setSlot_goes ?_ ?_
      · intro place also
        rw [here] at also
        exact (Option.some.inj also).symm
      · intro other owned
        exact ⟨only_owner own other owned, rfl⟩
  · next call here =>
      refine Option.some.inj ran ▸ held.setSlot_goes ?_ nofun
      intro place also
      rw [here] at also
      exact (Option.some.inj also).symm
  · next call here =>
      obtain ⟨on, down, alive⟩ : choice.poweredOn = true ∧ choice.poweredDown = true ∧
          choice.crashed = false := by simpa [here, and_assoc] using calm
      refine Option.some.inj ran ▸ ?_
      simp only [sendingSection, on, down, alive, Bool.not_true, Bool.or_self, Bool.false_eq_true,
        if_false]
      refine held.goes ?_
      rw [here]
      rfl
  · next call exit here =>
      have normal : (state.slots call.cmdIndex).outBit = true ∨ exit ≠ .other := by
        simpa [here] using calm
      refine Option.some.inj ran ▸ ?_
      unfold sentSection
      repeat' split
      all_goals
        first
        | exact absurd rfl (normal.resolve_left ‹_›)
        | refine held.goes ?_
          rw [here]
          simp
  · next call here => exact Option.some.inj ran ▸ aborting_held invariant held here
  · next call here =>
      refine Option.some.inj ran ▸ ?_
      unfold wokenSection
      split
      · refine held.goes ?_
        rw [here]
        rfl
      · apply held.goes
        rw [here]
        simp
  · next call here => exact Option.some.inj ran ▸ done_held invariant held here
  · next call here => exact Option.some.inj ran ▸ cleaning_held invariant held here
  · next call result here =>
      have released : Held (state.setPending (state.pending.releasePendingEntry call.pe)) := held
      refine Option.some.inj ran ▸ released.goes ?_
      change _ = (state.clients id).slot
      rw [here]
      split
      · next pending => simp [pending]
      · next final => simp [final]
  · cases ran
  · cases ran
  · cases ran

end Slots

/-! ### Pending entries -/

section Pending

variable {config : Config} {choice : Choice} {state after : State} {id : Nat} {call : Call}

/-- A step that keeps every call's pending entry. -/
structure SamePe (before after : State) : Prop where
  pending : after.pending = before.pending
  pe : ∀ other, (after.clients other).pe = (before.clients other).pe

theorem SamePe.goes {middle : State} {client : Client} (pending : middle.pending = state.pending)
    (clients : middle.clients = state.clients) (same : client.pe = (state.clients id).pe) :
    SamePe state (middle.goes id client) := by
  refine ⟨pending, ?_⟩
  intro other
  change (Function.update middle.clients id client other).pe = _
  rw [clients]
  by_cases here : other = id
  · subst here
    rw [Function.update_self, same]
  · rw [Function.update_of_ne here]

theorem Pended.of_same (pended : Pended state) (same : SamePe state after) : Pended after := by
  obtain ⟨pending, pe⟩ := same
  refine ⟨?_, ?_, ?_, ?_, ?_, ?_⟩ <;> simp only [pending, pe]
  · exact pended.listed
  · exact pended.once
  · exact pended.apart
  · exact pended.created
  · exact pended.users
  · exact pended.unvisited

theorem Pended.init (pended : Pended state) {client : Client}
    (outside : (state.clients id).pe = none) (new : client.pe = some state.pending.count) :
    Pended ((state.setPending state.pending.initPendingEntry).goes id client) := by
  have fresh : state.pending.count ∉ state.pending.list := fun member =>
    Nat.lt_irrefl _ (pended.created _ member)
  have others (other : Nat) (different : other ≠ id) :
      (((state.setPending state.pending.initPendingEntry).goes id client).clients other).pe =
        (state.clients other).pe :=
    congrArg Client.pe (Function.update_of_ne different _ _)
  have mine : (((state.setPending state.pending.initPendingEntry).goes id client).clients id).pe =
      some state.pending.count := by
    simp only [State.goes, Function.update_self, new]
  have old (other entry : Nat) (holds : (state.clients other).pe = some entry) :
      entry ∈ state.pending.list := (pended.listed entry).mpr ⟨other, holds⟩
  refine ⟨?_, ?_, ?_, ?_, ?_, ?_⟩
  · intro entry
    change entry ∈ state.pending.list ++ [state.pending.count] ↔ _
    rw [List.mem_append, List.mem_singleton, pended.listed]
    constructor
    · intro either
      rcases either with ⟨other, holds⟩ | rfl
      · have different : other ≠ id := by
          intro same
          subst same
          rw [outside] at holds
          cases holds
        exact ⟨other, (others other different).trans holds⟩
      · exact ⟨id, mine⟩
    · intro given
      obtain ⟨other, holds⟩ := given
      by_cases here : other = id
      · subst here
        rw [mine] at holds
        exact Or.inr (Option.some.inj holds).symm
      · rw [others other here] at holds
        exact Or.inl ⟨other, holds⟩
  · exact List.nodup_append.mpr ⟨pended.once, List.nodup_singleton _, by
      intro entry member other single
      rw [List.mem_singleton.mp single]
      intro same
      subst same
      exact fresh member⟩
  · intro first second entry holdsFirst holdsSecond
    by_cases firstHere : first = id
    · by_cases secondHere : second = id
      · rw [firstHere, secondHere]
      · rw [firstHere, mine] at holdsFirst
        rw [others second secondHere] at holdsSecond
        cases holdsFirst
        exact absurd (old second _ holdsSecond) fresh
    · rw [others first firstHere] at holdsFirst
      by_cases secondHere : second = id
      · rw [secondHere, mine] at holdsSecond
        cases holdsSecond
        exact absurd (old first _ holdsFirst) fresh
      · rw [others second secondHere] at holdsSecond
        exact pended.apart first second entry holdsFirst holdsSecond
  · intro entry member
    rcases List.mem_append.mp member with before | new
    · exact Nat.lt_succ_of_lt (pended.created entry before)
    · rw [List.mem_singleton.mp new]
      exact Nat.lt_succ_self _
  · intro entry
    change Function.update state.pending.users state.pending.count 1 entry =
      state.pending.visitors entry +
        if entry ∈ state.pending.list ++ [state.pending.count] then 1 else 0
    by_cases here : entry = state.pending.count
    · subst here
      simp [pended.unvisited _ (Nat.le_refl _)]
    · rw [Function.update_of_ne here, pended.users]
      simp [here]
  · intro entry above
    exact pended.unvisited entry (Nat.le_of_succ_le above)

theorem Pended.release (pended : Pended state) {client : Client} {entry : Nat}
    (inside : (state.clients id).pe = some entry) (outside : client.pe = none) :
    Pended ((state.setPending (state.pending.releasePendingEntry entry)).goes id client) := by
  have listed := (pended.listed entry).mpr ⟨id, inside⟩
  have others (other : Nat) (different : other ≠ id) :
      (((state.setPending (state.pending.releasePendingEntry entry)).goes id client).clients
        other).pe = (state.clients other).pe :=
    congrArg Client.pe (Function.update_of_ne different _ _)
  have mine : (((state.setPending (state.pending.releasePendingEntry entry)).goes id
      client).clients id).pe = none := by
    simp only [State.goes, Function.update_self, outside]
  have member (other : Nat) : other ∈ state.pending.list.erase entry ↔
      other ≠ entry ∧ other ∈ state.pending.list := pended.once.mem_erase_iff
  refine ⟨?_, pended.once.erase entry, ?_, ?_, ?_, pended.unvisited⟩
  · intro other
    change other ∈ state.pending.list.erase entry ↔ _
    rw [member, pended.listed]
    constructor
    · intro given
      obtain ⟨different, holder, holds⟩ := given
      have away : holder ≠ id := by
        intro same
        subst same
        exact different (Option.some.inj (holds.symm.trans inside))
      exact ⟨holder, (others holder away).trans holds⟩
    · intro given
      obtain ⟨holder, holds⟩ := given
      by_cases here : holder = id
      · subst here
        rw [mine] at holds
        cases holds
      · rw [others holder here] at holds
        refine ⟨?_, holder, holds⟩
        intro same
        subst same
        exact here (pended.apart holder id other holds inside)
  · intro first second other holdsFirst holdsSecond
    by_cases firstHere : first = id
    · rw [firstHere, mine] at holdsFirst
      cases holdsFirst
    · by_cases secondHere : second = id
      · rw [secondHere, mine] at holdsSecond
        cases holdsSecond
      · rw [others first firstHere] at holdsFirst
        rw [others second secondHere] at holdsSecond
        exact pended.apart first second other holdsFirst holdsSecond
  · intro other still
    exact pended.created other ((member other).mp still).2
  · intro other
    change Function.update state.pending.users entry (state.pending.users entry - 1) other =
      state.pending.visitors other + if other ∈ state.pending.list.erase entry then 1 else 0
    by_cases here : other = entry
    · subst here
      rw [Function.update_self, pended.users, if_pos listed, if_neg fun still =>
        ((member other).mp still).1 rfl]
      rfl
    · rw [Function.update_of_ne here, pended.users]
      simp only [member, here, ne_eq, not_false_eq_true, true_and]

theorem clientStep_samePe (calm : smooth config state (.run id choice) = true)
    (ran : clientStep config choice state id = some after)
    (notBegin : ∀ input reuse, state.clients id ≠ .begins input reuse)
    (notLeave : ∀ call result, state.clients id ≠ .leaving call result) : SamePe state after := by
  unfold clientStep at ran
  split at ran
  · next input reuse here => exact absurd here (notBegin input reuse)
  · next call here =>
      refine Option.some.inj ran ▸ ?_
      unfold retrySection
      rw [running_of_smooth here calm, if_neg Bool.false_ne_true]
      repeat' split
      all_goals exact .goes rfl rfl (by rw [here]; rfl)
  · next call retryCount here =>
      refine Option.some.inj ran ▸ ?_
      unfold occupyingSection
      repeat' split
      all_goals exact .goes rfl rfl (by rw [here]; rfl)
  · next call here => exact Option.some.inj ran ▸ .goes rfl rfl (by rw [here]; rfl)
  · next call here => exact Option.some.inj ran ▸ .goes rfl rfl (by rw [here]; rfl)
  · next call here =>
      refine Option.some.inj ran ▸ ?_
      unfold sendingSection
      repeat' split
      all_goals exact .goes rfl rfl (by rw [here]; rfl)
  · next call exit here =>
      refine Option.some.inj ran ▸ ?_
      unfold sentSection
      repeat' split
      all_goals exact .goes rfl rfl (by rw [here]; rfl)
  · next call here =>
      refine Option.some.inj ran ▸ ?_
      unfold abortingSection
      split
      all_goals exact .goes rfl rfl (by rw [here]; rfl)
  · next call here =>
      refine Option.some.inj ran ▸ ?_
      unfold wokenSection
      split
      all_goals exact .goes rfl rfl (by rw [here]; rfl)
  · next call here =>
      refine Option.some.inj ran ▸ ?_
      unfold doneSection
      simp only
      repeat' split
      all_goals exact .goes rfl rfl (by rw [here]; rfl)
  · next call here =>
      refine Option.some.inj ran ▸ ?_
      unfold cleaningSection
      split
      all_goals exact .goes rfl rfl (by rw [here]; rfl)
  · next call result here => exact absurd here (notLeave call result)
  · cases ran
  · cases ran
  · cases ran

theorem clientStep_pended (pended : Pended state) (calm : smooth config state (.run id choice) = true)
    (ran : clientStep config choice state id = some after) : Pended after := by
  cases here : state.clients id with
  | begins input reuse =>
      have outside : (state.clients id).pe = none := by
        rw [here]
        rfl
      simp only [clientStep, here, Option.some.injEq] at ran
      subst ran
      unfold beginsSection
      split
      · apply pended.init outside
        cases reuse with
        | true => rfl
        | false => rfl
      · exact pended.of_same (.goes rfl rfl outside.symm)
  | leaving call result =>
      simp only [clientStep, here, Option.some.injEq] at ran
      subst ran
      refine pended.release ?_ ?_
      · rw [here]
        rfl
      · split
        · rfl
        · rfl
  | _ =>
      refine pended.of_same (clientStep_samePe calm ran ?_ ?_)
      · intro input reuse also
        cases here.symm.trans also
      · intro call result also
        cases here.symm.trans also

theorem Pended.users_update (pended : Pended state) {entry users visitors : Nat}
    (same : users = visitors + if entry ∈ state.pending.list then 1 else 0) (other : Nat) :
    Function.update state.pending.users entry users other =
      Function.update state.pending.visitors entry visitors other +
        if other ∈ state.pending.list then 1 else 0 := by
  by_cases here : other = entry
  · subst here
    rw [Function.update_self, Function.update_self]
    exact same
  · rw [Function.update_of_ne here, Function.update_of_ne here]
    exact pended.users other

theorem Pended.find (pended : Pended state) {entry : Nat} (listed : entry ∈ state.pending.list) :
    Pended (state.setPending (state.pending.findPendingEntry entry)) := by
  refine ⟨pended.listed, pended.once, pended.apart, pended.created, ?_, ?_⟩
  · refine pended.users_update ?_
    have counted := pended.users entry
    omega
  · intro other above
    have below := pended.created entry listed
    have different : other ≠ entry := by
      intro same
      subst same
      exact Nat.lt_irrefl _ (Nat.lt_of_lt_of_le below above)
    exact (Function.update_of_ne different _ _).trans (pended.unvisited other above)

theorem Pended.put (pended : Pended state) {entry : Nat}
    (visited : 0 < state.pending.visitors entry) :
    Pended (state.setPending (state.pending.putPendingEntry entry)) := by
  refine ⟨pended.listed, pended.once, pended.apart, pended.created, ?_, ?_⟩
  · refine pended.users_update ?_
    have counted := pended.users entry
    omega
  · intro other above
    have none_ := pended.unvisited other above
    have different : other ≠ entry := by
      intro same
      subst same
      omega
    exact (Function.update_of_ne different _ _).trans none_

end Pending

/-! ### Whole runs -/

section Runs

variable {config : Config}

structure Released (config : Config) (state : State) : Prop where
  slots : Invariant config state
  held : Held state
  pended : Pended state

theorem Released.initial : Released config .initial := by
  refine ⟨.initial, nofun, ?_, List.nodup_nil, nofun, nofun, fun _ => rfl, fun _ _ => rfl⟩
  intro entry
  constructor
  · intro member
    cases member
  · intro given
    obtain ⟨id, holds⟩ := given
    cases holds

theorem Released.step {before after : State} {label : Label} (released : Released config before)
    (calm : smooth config before label = true) (stepped : State.Step config before label after) :
    Released config after := by
  obtain ⟨slots, held, pended⟩ := released
  have answers : label.answersKill = false := by
    cases label with
    | postKill => cases calm
    | _ => rfl
  refine ⟨slots.step answers stepped, ?_, ?_⟩
  · cases stepped with
    | call idle => exact held.goes (by rw [idle]; rfl)
    | resend waits => exact held.goes (by rw [waits]; rfl)
    | run ran => exact clientStep_held slots held calm ran
    | take => exact held.setSlot (Slot.take_owner _)
    | post => exact held.setSlot rfl
    | postKill => cases calm
    | find => exact held
    | put => exact held
  · cases stepped with
    | call idle => exact pended.of_same (.goes rfl rfl (by rw [idle]; rfl))
    | resend waits => exact pended.of_same (.goes rfl rfl (by rw [waits]; rfl))
    | run ran => exact clientStep_pended pended calm ran
    | take => exact pended.of_same ⟨rfl, fun _ => rfl⟩
    | post => exact pended.of_same ⟨rfl, fun _ => rfl⟩
    | postKill => cases calm
    | find listed => exact pended.find listed
    | put visited => exact pended.put visited

def smoothMachine (config : Config) : Machine State Label :=
  (smcMachine config).restrict fun state label => smooth config state label = true

theorem released_of_reachable {state : State} (reached : (smoothMachine config).Reachable state) :
    Released config state := by
  refine Machine.Reachable.invariant ?_ ?_ reached
  · intro _ same
    subst same
    exact .initial
  · intro before label after released given
    obtain ⟨calm, stepped⟩ := given
    exact released.step calm stepped

/-- What a call that has returned leaves behind: no slot is its own, a slot that
nobody owns is clear, and neither slots nor pending entries are lost. -/
structure NothingLost (state : State) : Prop where
  released : ∀ id result, state.clients id = .returned result →
    ∀ index, (state.slots index).owner ≠ some id
  clear : ∀ index, (state.slots index).owner = none →
    (state.slots index).inBit = false ∧ (state.slots index).doingBit = false ∧
      (state.slots index).outBit = false
  underWay : ∀ index, (state.slots index).inBit = true →
    ∃ id, (state.slots index).owner = some id ∧ (state.clients id).slot = some index
  entries : ∀ entry, entry ∈ state.pending.list ↔ ∃ id, (state.clients id).pe = some entry
  references : ∀ entry ∉ state.pending.list,
    state.pending.users entry = state.pending.visitors entry

theorem Released.nothingLost {state : State} (released : Released config state) :
    NothingLost state := by
  obtain ⟨slots, held, pended⟩ := released
  refine ⟨?_, ?_, ?_, pended.listed, ?_⟩
  · intro id result returned index owned
    have occupied := held index id owned
    rw [returned] at occupied
    cases occupied
  · intro index unowned
    have free := (slots.slots index).free unowned
    exact ⟨free.inBit, free.doingBit, free.outBit⟩
  · intro index submitted
    cases owned : (state.slots index).owner with
    | none =>
        have clear := ((slots.slots index).free owned).inBit
        rw [submitted] at clear
        cases clear
    | some id => exact ⟨id, rfl, held index id owned⟩
  · intro entry unlisted
    rw [pended.users, if_neg unlisted, Nat.add_zero]

/-- However many commands a run has sent, killed and sent again, those that have
returned hold no slot and no pending entry. -/
theorem smc_entries_released {state : State} (reached : (smoothMachine config).Reachable state) :
    NothingLost state :=
  (released_of_reachable reached).nothingLost

end Runs

/-! ### Replayed runs -/

section Replay

def State.execSmooth (config : Config) (state : State) (label : Label) : Option State :=
  if smooth config state label then state.exec config label else none

theorem State.execSmooth_sound {config : Config} {before after : State} {label : Label}
    (ran : before.execSmooth config label = some after) :
    (smoothMachine config).step before label after := by
  rw [State.execSmooth] at ran
  split at ran
  · next allowed => exact ⟨allowed, State.exec_sound ran⟩
  · cases ran

def Client.hasReturned : Client → Bool
  | .returned _ => true
  | _ => false

def bothReturn : List Label :=
  answeredBoth ++ [.run 0 (works .woken), .run 1 (works .woken), .run 1 (works .woken),
    .run 0 (works .woken)]

theorem smc_entries_released_both_return :
    ∃ state, ((state.clients 0).hasReturned && (state.clients 1).hasReturned) = true ∧
      NothingLost state := by
  have ran : ((Machine.replay (State.execSmooth defaultConfig) .initial bothReturn).map
      fun state => (state.clients 0).hasReturned && (state.clients 1).hasReturned) = some true := by
    decide +kernel
  have start : (smoothMachine defaultConfig).Reachable .initial := .start rfl
  obtain ⟨state, reached, returned⟩ :=
    start.exists_of_replay (fun _ _ _ => State.execSmooth_sound) ran
  exact ⟨state, returned, smc_entries_released reached⟩

/-- The crypto cell cannot be powered on for a command that has its slot. -/
def powerFails : List Label :=
  occupies 0 ++ [.run 0 { works .woken with poweredOn := false }, .run 0 (works .woken),
    .run 0 (works .woken)]

/-- The only command has returned, and the TEE can still take it. -/
theorem smc_entries_not_released :
    ∃ state, (smcMachine defaultConfig).Reachable state ∧
      (state.clients 0).hasReturned = true ∧ (state.slots 0).inBit = true ∧
      (state.slots 0).doingBit = false ∧ (state.slots 0).owner = some 0 ∧ ¬NothingLost state := by
  have ran : ((Machine.replay (State.exec defaultConfig) .initial powerFails).map fun state =>
      decide ((state.clients 0).hasReturned = true ∧ (state.slots 0).inBit = true ∧
        (state.slots 0).doingBit = false ∧ (state.slots 0).owner = some 0)) = some true := by
    decide +kernel
  have start : (smcMachine defaultConfig).Reachable .initial := .start rfl
  obtain ⟨state, reached, passed⟩ := start.exists_of_replay (fun _ _ _ => State.exec_sound) ran
  obtain ⟨returned, submitted, idle, owner⟩ := of_decide_eq_true passed
  refine ⟨state, reached, returned, submitted, idle, owner, ?_⟩
  intro nothingLost
  cases here : state.clients 0 with
  | returned result => exact nothingLost.released 0 result here 0 owner
  | _ =>
      rw [here] at returned
      cases returned

end Replay

end TzDriver.Smc
