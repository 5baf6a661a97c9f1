/-
Slots are exclusive: every step of the clients and of the TEE keeps the invariant.
-/

import TzDriver.Smc.Slots

namespace TzDriver.Smc

open TzDriver.Lib

section Moves

variable {config : Config} {state : State} {id index : Nat} {client : Client} {slot : Slot}

theorem Invariant.goes (invariant : Invariant config state)
    (owns : ∀ index, client.slot = some index →
      (state.slots index).owner = some id ∧ client.Expects index (state.slots index))
    (local_ : client.Local) : Invariant config (state.goes id client) := by
  refine ⟨invariant.slots, invariant.bound, ?_, ?_, invariant.copied⟩
  · intro other place
    change (Function.update state.clients id client other).slot = some place →
      _ ∧ (Function.update state.clients id client other).Expects place (state.slots place)
    by_cases same : other = id
    · subst same
      rw [Function.update_self]
      exact owns place
    · rw [Function.update_of_ne same]
      exact invariant.owns other place
  · intro other
    change (Function.update state.clients id client other).Local
    by_cases same : other = id
    · subst same
      rw [Function.update_self]
      exact local_
    · rw [Function.update_of_ne same]
      exact invariant.locals other

/-- A slot changes that is free or belongs to a client that does not rely on it. -/
theorem Invariant.setSlot (invariant : Invariant config state) (ok : slot.Ok index)
    (bound : ∀ owner, slot.owner = some owner → index < config.maxSmcCmd)
    (users : ∀ other, (state.clients other).slot = some index →
      slot.owner = some other ∧ (state.clients other).Expects index slot) :
    Invariant config (state.setSlot index slot) := by
  refine ⟨?_, ?_, ?_, invariant.locals, invariant.copied⟩
  · intro place
    change (Function.update state.slots index slot place).Ok place
    by_cases same : place = index
    · subst same
      rw [Function.update_self]
      exact ok
    · rw [Function.update_of_ne same]
      exact invariant.slots place
  · intro place owner
    change (Function.update state.slots index slot place).owner = some owner → _
    by_cases same : place = index
    · subst same
      rw [Function.update_self]
      exact bound owner
    · rw [Function.update_of_ne same]
      exact invariant.bound place owner
  · intro other place occupied
    change (Function.update state.slots index slot place).owner = some other ∧
      (state.clients other).Expects place (Function.update state.slots index slot place)
    by_cases same : place = index
    · subst same
      rw [Function.update_self]
      exact users other occupied
    · rw [Function.update_of_ne same]
      exact invariant.owns other place occupied

theorem Invariant.setSlot_goes (invariant : Invariant config state)
    (mine : ∀ other, (state.slots index).owner = some other → other = id) (ok : slot.Ok index)
    (bound : ∀ owner, slot.owner = some owner → index < config.maxSmcCmd)
    (keeps : ∀ place, client.slot = some place →
      place = index ∧ slot.owner = some id ∧ client.Expects index slot)
    (local_ : client.Local) : Invariant config ((state.setSlot index slot).goes id client) := by
  -- the client lets go of its slot before the slot changes
  have away : Invariant config (state.goes id (.returned 0)) := invariant.goes nofun trivial
  have changed : Invariant config ((state.goes id (.returned 0)).setSlot index slot) := by
    apply away.setSlot ok bound
    intro other occupied
    by_cases same : other = id
    · subst same
      simp [State.goes] at occupied
    · have own := (away.owns other index occupied).1
      exact absurd (mine other own) same
  have back : Invariant config (((state.goes id (.returned 0)).setSlot index slot).goes id client) := by
    refine changed.goes ?_ local_
    intro place occupied
    obtain ⟨rfl, owned, expects⟩ := keeps place occupied
    simp only [State.goes, State.setSlot, Function.update_self]
    exact ⟨owned, expects⟩
  simpa [State.goes, State.setSlot] using back

end Moves

/-! ### Sections of a client -/

section Sections

variable {config : Config} {choice : Choice} {state : State} {id : Nat} {call : Call}

theorem Invariant.at_ (invariant : Invariant config state) {client : Client}
    (here : state.clients id = client) :
    client.Local ∧ ∀ index, client.slot = some index →
      (state.slots index).owner = some id ∧ client.Expects index (state.slots index) := by
  subst here
  exact ⟨invariant.locals id, invariant.owns id⟩

private theorem begins_invariant {input : SmcCmd} {reuse : Bool}
    (invariant : Invariant config state) (here : state.clients id = .begins input reuse) :
    Invariant config (beginsSection choice state id input reuse) := by
  obtain ⟨_, owns⟩ := invariant.at_ here
  have listed : Invariant config (state.setPending state.pending.initPendingEntry) :=
    ⟨invariant.slots, invariant.bound, invariant.owns, invariant.locals, invariant.copied⟩
  unfold beginsSection
  split
  · cases reuse with
    | true =>
        refine listed.goes ?_ (by simp)
        intro index occupied
        obtain ⟨own, resending⟩ := owns index (by simpa using occupied)
        exact ⟨own, by simpa using resending⟩
    | false => exact listed.goes (by simp) (by simp)
  · exact invariant.goes nofun trivial

theorem only_owner {index : Nat} (own : (state.slots index).owner = some id) (other : Nat)
    (also : (state.slots index).owner = some other) : other = id := by
  rw [own] at also
  exact (Option.some.inj also).symm

private theorem retry_invariant (invariant : Invariant config state)
    (here : state.clients id = .retry call) :
    Invariant config (retrySection config choice state id call) := by
  obtain ⟨local_, owns⟩ := invariant.at_ here
  unfold retrySection
  split
  · exact invariant.goes nofun trivial
  · split
    · next normal =>
        split
        · next resend =>
            simp only [Client.slot, Client.Expects, Client.Local, normal, resend, reduceCtorEq,
              and_false, if_false, if_true, false_or, or_false, and_true, Option.some.injEq,
              forall_eq'] at owns local_
            obtain ⟨own, resending⟩ := owns
            have occupied := (invariant.slots call.cmdIndex).occupied own
            split
            · next slot reused =>
                obtain ⟨reoccupied, written, owner⟩ :=
                  Slot.reuseSmcInEntry_occupied occupied resending reused
                refine invariant.setSlot_goes (only_owner own) (.of_occupied (owner.trans own)
                  reoccupied) (fun owner _ => invariant.bound _ _ own) ?_ (by simp)
                intro place same
                simp only [Client.slot, Option.some.injEq] at same
                exact ⟨same.symm.trans local_, owner.trans own, written⟩
            · refine invariant.goes ?_ resend
              intro index same
              cases same
              exact ⟨own, resending⟩
        · next clear => exact invariant.goes nofun ⟨normal, clear⟩
    · next other =>
        simp only [Client.slot, Client.Expects, Client.Local, other, false_and, if_false, false_or,
          Option.some.injEq, forall_eq'] at owns local_
        refine invariant.goes ?_ local_
        intro index same
        cases same
        exact owns

private theorem occupying_invariant {retryCount : Nat} (invariant : Invariant config state)
    (here : state.clients id = .occupying call retryCount) :
    Invariant config (occupyingSection config state id call retryCount) := by
  obtain ⟨local_, _⟩ := invariant.at_ here
  unfold occupyingSection
  split
  · next index found =>
      have clear := List.find?_some found
      rw [Bool.not_eq_true'] at clear
      have inRange := List.mem_range.mp (List.mem_of_find?_eq_some found)
      have unowned := (invariant.slots index).unowned clear
      have free := (invariant.slots index).free unowned
      refine invariant.setSlot_goes ?_ (.of_occupied rfl (Slot.occupySetbit_occupied _ free))
        (fun _ _ => inRange) ?_ local_.2
      · intro other owned
        rw [unowned] at owned
        cases owned
      · intro place same
        cases same
        exact ⟨rfl, rfl, rfl, rfl, free.unasked, free.outBit⟩
  · split
    · exact invariant.goes nofun local_
    · exact invariant.goes nofun trivial

private theorem filled_invariant (invariant : Invariant config state)
    (here : state.clients id = .filled call) : Invariant config (filledSection state id call) := by
  obtain ⟨clear, owns⟩ := invariant.at_ here
  obtain ⟨own, filling⟩ := owns call.cmdIndex rfl
  have occupied := (invariant.slots call.cmdIndex).occupied own
  refine invariant.setSlot_goes (only_owner own)
    (.of_occupied own (Slot.finishEntry_occupied occupied filling))
    (fun _ _ => invariant.bound _ _ own) ?_ ⟨rfl, clear⟩
  intro place same
  cases same
  exact ⟨rfl, own, rfl⟩

private theorem releasing_invariant (invariant : Invariant config state)
    (here : state.clients id = .releasing call) :
    Invariant config (releasingSection state id call) := by
  obtain ⟨_, owns⟩ := invariant.at_ here
  obtain ⟨own, resending⟩ := owns call.cmdIndex rfl
  refine invariant.setSlot_goes (only_owner own)
    (.of_free rfl (Slot.releaseSmcEntry_free resending.answered)) nofun ?_ trivial
  intro place same
  cases same

private theorem sending_invariant (invariant : Invariant config state)
    (here : state.clients id = .sending call) :
    Invariant config (sendingSection choice state id call) := by
  obtain ⟨local_, owns⟩ := invariant.at_ here
  have notResend : call.cmdUsage ≠ .resend := by
    rw [local_.2]
    exact CmdReuse.noConfusion
  unfold sendingSection
  split
  · refine invariant.goes ?_ ?_
    · simp [notResend]
    · simp only [Client.Local, notResend, false_iff, false_implies, and_true]
      decide
  · split
    · refine invariant.goes ?_ ?_
      · simp [notResend]
      · simp only [Client.Local, notResend, false_iff, false_implies, and_true]
        decide
    · refine invariant.goes ?_ local_
      intro index same
      cases same
      exact owns call.cmdIndex rfl

private theorem sent_invariant {exit : SmcExit} (invariant : Invariant config state)
    (here : state.clients id = .sent call exit) :
    Invariant config (sentSection choice state id call exit) := by
  obtain ⟨local_, owns⟩ := invariant.at_ here
  obtain ⟨own, written⟩ := owns call.cmdIndex rfl
  have rescheduled : Invariant config (state.goes id (.retry { call with ops := .schedto })) := by
    refine invariant.goes ?_ (Or.inr ⟨local_.1, Or.inr local_.2⟩)
    intro index same
    cases same
    exact ⟨own, written⟩
  have aborting : Invariant config (state.goes id (.aborting call)) := by
    refine invariant.goes ?_ local_
    intro index same
    cases same
    exact ⟨own, written⟩
  unfold sentSection
  split
  · next ready =>
      refine invariant.goes ?_ local_
      intro index same
      cases same
      exact ⟨own, written, ready⟩
  · split
    · split
      · exact rescheduled
      · exact rescheduled
      · exact aborting
      · refine invariant.goes ?_ local_
        intro index same
        cases same
        exact ⟨own, written⟩
    · exact aborting
    · have notResend : call.cmdUsage ≠ .resend := by
        rw [local_.2]
        exact CmdReuse.noConfusion
      refine invariant.goes ?_ ?_
      · simp [notResend]
      · simp only [Client.Local, notResend, false_iff, false_implies, and_true]
        decide

private theorem aborting_invariant (invariant : Invariant config state)
    (here : state.clients id = .aborting call) :
    Invariant config (abortingSection state id call) := by
  obtain ⟨local_, owns⟩ := invariant.at_ here
  obtain ⟨own, written⟩ := owns call.cmdIndex rfl
  have occupied := (invariant.slots call.cmdIndex).occupied own
  unfold abortingSection
  split
  · next slot aborted =>
      obtain ⟨reoccupied, still, owner⟩ := Slot.setAbortCmd_occupied occupied written aborted
      refine invariant.setSlot_goes (only_owner own) (.of_occupied (owner.trans own) reoccupied)
        (fun _ _ => invariant.bound _ _ own) ?_ (Or.inr ⟨local_.1, Or.inr local_.2⟩)
      intro place same
      cases same
      exact ⟨rfl, owner.trans own, still⟩
  · refine invariant.goes ?_ (Or.inr ⟨local_.1, Or.inr local_.2⟩)
    intro index same
    cases same
    exact ⟨own, written⟩

private theorem woken_invariant (invariant : Invariant config state)
    (here : state.clients id = .woken call) : Invariant config (wokenSection state id call) := by
  obtain ⟨local_, owns⟩ := invariant.at_ here
  obtain ⟨own, written⟩ := owns call.cmdIndex rfl
  unfold wokenSection
  split
  · next ready =>
      refine invariant.goes ?_ local_
      intro index same
      cases same
      exact ⟨own, written, ready⟩
  · refine invariant.goes ?_ (Or.inr ⟨local_.1, Or.inr local_.2⟩)
    intro index same
    cases same
    exact ⟨own, written⟩

/-- A response is recorded before the slot changes. -/
theorem Invariant.record (invariant : Invariant config state) {author : Option Nat}
    (mine : author = some id) :
    Invariant config { state with copied := (id, author) :: state.copied } := by
  refine ⟨invariant.slots, invariant.bound, invariant.owns, invariant.locals, ?_⟩
  intro copy member
  rcases List.mem_cons.mp member with rfl | before
  · exact mine
  · exact invariant.copied copy before

private theorem done_invariant (invariant : Invariant config state)
    (here : state.clients id = .done call) : Invariant config (doneSection state id call) := by
  obtain ⟨local_, owns⟩ := invariant.at_ here
  obtain ⟨own, written, ready⟩ := owns call.cmdIndex rfl
  have occupied := (invariant.slots call.cmdIndex).occupied own
  unfold doneSection
  simp only
  split
  · next notReady => exact absurd notReady (Slot.copySmcOutEntry_ready ready)
  · next usage after copied =>
      obtain ⟨mine, eventNr, ⟨rfl, again, owner, reoccupied, resending⟩ |
        ⟨rfl, notPending2, notPending, owner, free⟩⟩ :=
        Slot.copySmcOutEntry_cases occupied written copied
      · have recorded := invariant.record mine
        split
        · refine recorded.setSlot_goes (only_owner own) (.of_occupied (owner.trans own) reoccupied)
            (fun _ _ => invariant.bound _ _ own) ?_ (Or.inr ⟨local_.1, Or.inl rfl⟩)
          intro place same
          simp only [Client.slot, reduceCtorEq, and_false, if_false, Option.some.injEq] at same
          exact ⟨same.symm, owner.trans own, by simpa using resending⟩
        · next notPending2 =>
            have pending := again.resolve_left notPending2
            refine recorded.setSlot_goes (only_owner own)
              (.of_occupied (owner.trans own) reoccupied) (fun _ _ => invariant.bound _ _ own) ?_
              (by simpa using ⟨pending, eventNr⟩)
            intro place same
            simp only [Client.slot, if_true, Option.some.injEq] at same
            exact ⟨same.symm, owner.trans own, resending⟩
      · have recorded := invariant.record mine
        rw [if_neg notPending2]
        refine recorded.setSlot_goes (only_owner own) (.of_free owner free)
          (by rw [owner]; exact nofun) (by simp) (by simpa using notPending)

/-- An answer that keeps the slot is `TEEC_PENDING`, so nothing is released. -/
theorem cleaningSection_keeps (pending : call.cmdUsage = .resend ↔ call.cmd.retVal = teecPending) :
    cleaningSection state id call = state.goes id (.leaving call call.cmd.retVal) := by
  apply if_neg
  rintro ⟨used, final⟩
  cases usage : call.cmdUsage with
  | clear => exact used usage
  | resend => exact final (pending.mp usage)

private theorem cleaning_invariant (invariant : Invariant config state)
    (here : state.clients id = .cleaning call) :
    Invariant config (cleaningSection state id call) := by
  obtain ⟨⟨pending, eventNr⟩, owns⟩ := invariant.at_ here
  rw [cleaningSection_keeps pending]
  refine invariant.goes ?_ trivial
  intro index occupied
  simp only [Client.slot] at occupied
  split at occupied
  · next result =>
      have resend := pending.mpr result
      have number := eventNr resend
      obtain ⟨own, resending⟩ := owns call.cmdIndex (by simp [resend])
      have inRange := invariant.bound call.cmdIndex id own
      have same : index = call.cmdIndex := by
        have value := Option.some.inj occupied
        rw [number, UInt32.toNat_ofNat_of_lt' (Nat.lt_trans inRange config.fits)] at value
        exact value.symm
      rw [same]
      exact ⟨own, resending⟩
  · cases occupied

private theorem leaving_invariant {result : UInt32} (invariant : Invariant config state)
    (here : state.clients id = .leaving call result) :
    Invariant config (leavingSection state id call result) := by
  obtain ⟨_, owns⟩ := invariant.at_ here
  have released : Invariant config
      (state.setPending (state.pending.releasePendingEntry call.pe)) :=
    ⟨invariant.slots, invariant.bound, invariant.owns, invariant.locals, invariant.copied⟩
  unfold leavingSection
  refine released.goes ?_ ?_
  · intro index occupied
    split at occupied
    · next pending =>
        rw [if_pos pending]
        exact owns index (by simpa [pending] using occupied)
    · cases occupied
  · split <;> trivial

theorem clientStep_invariant {after : State} (invariant : Invariant config state)
    (ran : clientStep config choice state id = some after) : Invariant config after := by
  unfold clientStep at ran
  split at ran
  · next input reuse here => exact Option.some.inj ran ▸ begins_invariant invariant here
  · next call here => exact Option.some.inj ran ▸ retry_invariant invariant here
  · next call retryCount here => exact Option.some.inj ran ▸ occupying_invariant invariant here
  · next call here => exact Option.some.inj ran ▸ filled_invariant invariant here
  · next call here => exact Option.some.inj ran ▸ releasing_invariant invariant here
  · next call here => exact Option.some.inj ran ▸ sending_invariant invariant here
  · next call exit here => exact Option.some.inj ran ▸ sent_invariant invariant here
  · next call here => exact Option.some.inj ran ▸ aborting_invariant invariant here
  · next call here => exact Option.some.inj ran ▸ woken_invariant invariant here
  · next call here => exact Option.some.inj ran ▸ done_invariant invariant here
  · next call here => exact Option.some.inj ran ▸ cleaning_invariant invariant here
  · next call result here => exact Option.some.inj ran ▸ leaving_invariant invariant here
  · cases ran
  · cases ran
  · cases ran

end Sections

/-! ### The TEE -/

section Tee

variable {config : Config} {state : State} {index : Nat}

/-- The TEE changes a slot and leaves its owner and what the owner relies on. -/
theorem Invariant.tee (invariant : Invariant config state) {slot : Slot}
    (owner : slot.owner = (state.slots index).owner) (ok : slot.Ok index)
    (keeps : ∀ client : Client, client.Expects index (state.slots index) →
      client.Expects index slot) : Invariant config (state.setSlot index slot) := by
  refine invariant.setSlot ok ?_ ?_
  · intro client owned
    exact invariant.bound index client (owner.symm.trans owned)
  · intro other occupied
    obtain ⟨own, expects⟩ := invariant.owns other index occupied
    exact ⟨owner.trans own, keeps _ expects⟩

theorem Slot.take_owner (slot : Slot) : slot.take.owner = slot.owner := by
  unfold Slot.take
  split <;> rfl

theorem take_expects {slot : Slot} (idle : slot.doingBit = false) (client : Client)
    (expects : client.Expects index slot) : client.Expects index slot.take := by
  have written : slot.take.written = slot.written := by
    unfold Slot.take
    split <;> rfl
  have outBit : slot.take.outBit = slot.outBit := by
    unfold Slot.take
    split <;> rfl
  cases client with
  | filled call => exact absurd (idle.symm.trans expects.doing) Bool.false_ne_true
  | begins input reuse => exact Slot.take_resending expects idle
  | waiting input => exact Slot.take_resending expects idle
  | releasing call => exact Slot.take_resending expects idle
  | cleaning call => exact Slot.take_resending expects idle
  | leaving call result => exact Slot.take_resending expects idle
  | retry call =>
      simp only [Client.Expects] at expects ⊢
      split at expects
      · next normal =>
          rw [if_pos normal]
          exact Slot.take_resending expects idle
      · next other =>
          rw [if_neg other, written]
          exact expects
  | done call => exact ⟨written.trans expects.1, outBit.trans expects.2⟩
  | _ => exact written.trans expects

theorem post_expects {slot : Slot} {request : Debt} (owed : request ∈ slot.owed)
    (content : SmcCmd) (client : Client) (expects : client.Expects index slot) :
    client.Expects index (slot.post request content) := by
  have asked : slot.owed ≠ [] := List.ne_nil_of_mem owed
  cases client with
  | filled call => exact absurd expects.unasked asked
  | begins input reuse => exact absurd expects.answered asked
  | waiting input => exact absurd expects.answered asked
  | releasing call => exact absurd expects.answered asked
  | cleaning call => exact absurd expects.answered asked
  | leaving call result => exact absurd expects.answered asked
  | retry call =>
      simp only [Client.Expects] at expects ⊢
      split at expects
      · exact absurd expects.answered asked
      · next other =>
          rw [if_neg other]
          exact expects
  | done call => exact ⟨expects.1, rfl⟩
  | _ => exact expects

private theorem take_invariant (invariant : Invariant config state)
    (submitted : (state.slots index).inBit = true) (idle : (state.slots index).doingBit = false) :
    Invariant config (state.setSlot index (state.slots index).take) := by
  refine invariant.tee (Slot.take_owner _) ?_ (take_expects idle)
  cases owned : (state.slots index).owner with
  | none =>
      have clear := ((invariant.slots index).free owned).inBit
      rw [submitted] at clear
      cases clear
  | some client =>
      exact .of_occupied ((Slot.take_owner _).trans owned)
        (Slot.take_occupied ((invariant.slots index).occupied owned) owned idle)

private theorem post_invariant {request : Debt} {content : SmcCmd}
    (invariant : Invariant config state) (owed : request ∈ (state.slots index).owed) :
    Invariant config (state.setSlot index ((state.slots index).post request content)) := by
  refine invariant.tee rfl ?_ (post_expects owed content)
  cases owned : (state.slots index).owner with
  | none =>
      have unasked := ((invariant.slots index).free owned).unasked
      rw [unasked] at owed
      cases owed
  | some client =>
      exact .of_occupied owned
        (Slot.post_occupied content ((invariant.slots index).occupied owned) owed)

end Tee

/-! ### Whole runs -/

section Runs

variable {config : Config}

/-- A kill request earns no response of its own. -/
def Label.answersKill : Label → Bool
  | .postKill .. => true
  | _ => false

/-- The runs in which the TEE answers every submission at most once and kill
requests never. -/
def answeringMachine (config : Config) : Machine State Label :=
  (smcMachine config).restrict fun _ label => label.answersKill = false

theorem Invariant.initial : Invariant config .initial :=
  ⟨fun _ => ⟨rfl, rfl, rfl, rfl⟩, nofun, nofun, fun _ => trivial, nofun⟩

theorem Invariant.step {before after : State} {label : Label} (invariant : Invariant config before)
    (answers : label.answersKill = false) (stepped : State.Step config before label after) :
    Invariant config after := by
  cases stepped with
  | call idle => exact invariant.goes nofun trivial
  | resend waits =>
      refine invariant.goes ?_ trivial
      intro index occupied
      exact (invariant.at_ waits).2 index occupied
  | run ran => exact clientStep_invariant invariant ran
  | take submitted idle => exact take_invariant invariant submitted idle
  | post owed => exact post_invariant invariant owed
  | postKill => cases answers
  | find =>
      exact ⟨invariant.slots, invariant.bound, invariant.owns, invariant.locals, invariant.copied⟩
  | put =>
      exact ⟨invariant.slots, invariant.bound, invariant.owns, invariant.locals, invariant.copied⟩

theorem invariant_of_reachable {state : State}
    (reached : (answeringMachine config).Reachable state) : Invariant config state := by
  refine Machine.Reachable.invariant ?_ ?_ reached
  · intro _ same
    subst same
    exact .initial
  · intro before label after invariant given
    obtain ⟨answers, stepped⟩ := given
    exact invariant.step answers stepped

/-- No slot has two commands, what the TEE can take is completely written, and
every copied response was written for the client that copied it. -/
structure SlotsExclusive (state : State) : Prop where
  one : ∀ first second index, (state.clients first).slot = some index →
    (state.clients second).slot = some index → first = second
  marked : ∀ id index, (state.clients id).slot = some index → (state.slots index).inBit = true
  complete : ∀ index, (state.slots index).inBit = true → (state.slots index).doingBit = false →
    (state.slots index).written = true
  own : ∀ copy ∈ state.copied, copy.2 = some copy.1

theorem Invariant.slotsExclusive {state : State} (invariant : Invariant config state) :
    SlotsExclusive state := by
  refine ⟨?_, ?_, ?_, invariant.copied⟩
  · intro first second index atFirst atSecond
    exact only_owner (invariant.owns second index atSecond).1 first
      (invariant.owns first index atFirst).1
  · intro id index occupied
    have own := (invariant.owns id index occupied).1
    exact ((invariant.slots index).occupied own).inBit
  · intro index submitted idle
    cases owned : (state.slots index).owner with
    | none =>
        have clear := ((invariant.slots index).free owned).inBit
        rw [submitted] at clear
        cases clear
    | some client => exact ((invariant.slots index).occupied owned).written idle

/-- Any number of clients, with their re-sends and kill requests, and any order of
their sections and the TEE's. -/
theorem smc_slots_exclusive {state : State}
    (reached : (answeringMachine config).Reachable state) : SlotsExclusive state :=
  (invariant_of_reachable reached).slotsExclusive

end Runs

/-! ### Replayed runs -/

section Replay

def State.exec (config : Config) (state : State) : Label → Option State
  | .call id input =>
      match state.clients id with
      | .idle => some (state.goes id (.begins input false))
      | _ => none
  | .resend id =>
      match state.clients id with
      | .waiting input => some (state.goes id (.begins input true))
      | _ => none
  | .run id choice => clientStep config choice state id
  | .take index =>
      if (state.slots index).inBit = true ∧ (state.slots index).doingBit = false then
        some (state.setSlot index (state.slots index).take)
      else none
  | .post index request content =>
      if request ∈ (state.slots index).owed then
        some (state.setSlot index ((state.slots index).post request content))
      else none
  | .postKill index request content =>
      if request ∈ (state.slots index).owedKills then
        some (state.setSlot index ((state.slots index).postKill request content))
      else none
  | .find entry =>
      if entry ∈ state.pending.list then
        some (state.setPending (state.pending.findPendingEntry entry))
      else none
  | .put entry =>
      if 0 < state.pending.visitors entry then
        some (state.setPending (state.pending.putPendingEntry entry))
      else none

theorem State.exec_sound {config : Config} {before after : State} {label : Label}
    (ran : before.exec config label = some after) : State.Step config before label after := by
  cases label with
  | run id choice => exact .run ran
  | call id input =>
      rw [State.exec] at ran
      split at ran
      · next idle =>
          cases ran
          exact .call idle
      · cases ran
  | resend id =>
      rw [State.exec] at ran
      split at ran
      · next input waits =>
          cases ran
          exact .resend waits
      · cases ran
  | take index =>
      rw [State.exec] at ran
      split at ran
      · next ready =>
          cases ran
          exact .take ready.1 ready.2
      · cases ran
  | post index request content =>
      rw [State.exec] at ran
      split at ran
      · next owed =>
          cases ran
          exact .post owed
      · cases ran
  | postKill index request content =>
      rw [State.exec] at ran
      split at ran
      · next owed =>
          cases ran
          exact .postKill owed
      · cases ran
  | find entry =>
      rw [State.exec] at ran
      split at ran
      · next listed =>
          cases ran
          exact .find listed
      · cases ran
  | put entry =>
      rw [State.exec] at ran
      split at ran
      · next visited =>
          cases ran
          exact .put visited
      · cases ran

def State.execAnswering (config : Config) (state : State) (label : Label) : Option State :=
  if label.answersKill then none else state.exec config label

theorem State.execAnswering_sound {config : Config} {before after : State} {label : Label}
    (ran : before.execAnswering config label = some after) :
    (answeringMachine config).step before label after := by
  rw [State.execAnswering] at ran
  split at ran
  · cases ran
  · next quiet => exact ⟨Bool.eq_false_iff.mpr quiet, State.exec_sound ran⟩

def works (wait : Wait) : Choice :=
  { allocated := true, rebooting := false, poweredOn := true, poweredDown := true, crashed := false
    exit := .normal, wait := wait }

def occupies (id : Nat) : List Label :=
  [.call id .zeroed, .run id (works .woken), .run id (works .woken), .run id (works .woken),
    .run id (works .woken)]

def submits (id : Nat) : List Label :=
  occupies id ++ [.run id (works .woken)]

/-- Two commands in the TEE at once, answered the other way round. -/
def answeredBoth : List Label :=
  submits 0 ++ submits 1 ++
    [.take 1, .take 0, .post 1 ⟨some 1, 1⟩ .zeroed, .run 1 (works .woken), .run 1 (works .woken),
      .post 0 ⟨some 0, 0⟩ .zeroed, .run 0 (works .woken), .run 0 (works .woken)]

theorem smc_slots_exclusive_answered_both :
    ∃ state, state.copied = [(0, some 0), (1, some 1)] ∧ SlotsExclusive state := by
  have ran : ((Machine.replay (State.execAnswering defaultConfig) .initial answeredBoth).map
      fun state => decide (state.copied = [(0, some 0), (1, some 1)])) = some true := by
    decide +kernel
  have start : (answeringMachine defaultConfig).Reachable .initial := .start rfl
  obtain ⟨state, reached, copied⟩ :=
    start.exists_of_replay (fun _ _ _ => State.execAnswering_sound) ran
  exact ⟨state, of_decide_eq_true copied, smc_slots_exclusive reached⟩

/-- Client 0 is killed while its command runs.  The TEE takes the kill request,
answers the command, and answers the kill request when client 1 has the slot. -/
def killAnsweredLate : List Label :=
  submits 0 ++
    [.take 0, .run 0 (works .killed), .run 0 (works .woken), .take 0, .run 0 (works .woken),
      .post 0 ⟨some 0, 0⟩ .zeroed, .run 0 (works .woken), .run 0 (works .woken),
      .run 0 (works .woken), .run 0 (works .woken), .run 0 (works .woken)] ++
    submits 1 ++ [.postKill 0 ⟨some 0, 0⟩ .zeroed, .run 1 (works .woken), .run 1 (works .woken)]

theorem smc_slots_not_exclusive :
    ∃ state, (smcMachine defaultConfig).Reachable state ∧ (1, some 0) ∈ state.copied ∧
      ¬SlotsExclusive state := by
  have ran : ((Machine.replay (State.exec defaultConfig) .initial killAnsweredLate).map
      fun state => decide ((1, some 0) ∈ state.copied)) = some true := by
    decide +kernel
  have start : (smcMachine defaultConfig).Reachable .initial := .start rfl
  obtain ⟨state, reached, copied⟩ := start.exists_of_replay (fun _ _ _ => State.exec_sound) ran
  have member := of_decide_eq_true copied
  refine ⟨state, reached, member, ?_⟩
  intro exclusive
  cases exclusive.own _ member

end Replay

end TzDriver.Smc
