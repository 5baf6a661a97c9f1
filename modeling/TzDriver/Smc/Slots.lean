/-
The invariant of the command slots.

The bits of a slot and the program point of its owner belong together: an entry is
kept from the TEE until it is written, the TEE owes at most one answer to a
submission, and the owner takes that answer before it submits again or leaves.
The TEE answers submissions only; a kill request hastens the answer of the command
it kills.
-/

import TzDriver.Smc.SendFunc

namespace TzDriver.Smc

open TzDriver.Lib

/-! ### Program points -/

@[simp] def Client.slot : Client → Option Nat
  | .begins input true | .waiting input => some input.eventNr.toNat
  | .retry call => if call.ops = .normal ∧ call.cmdUsage = .clear then none else some call.cmdIndex
  | .filled call | .releasing call | .sending call | .sent call _ | .aborting call | .woken call
  | .done call => some call.cmdIndex
  | .cleaning call => if call.cmdUsage = .resend then some call.cmdIndex else none
  | .leaving call result => if result = teecPending then some call.input.eventNr.toNat else none
  | .idle | .begins _ false | .occupying _ _ | .returned _ => none

/-- The client has copied an answer that asks for another submission. -/
structure Slot.Resending (index : Nat) (slot : Slot) : Prop where
  written : slot.written = true
  answered : slot.owed = []
  copied : slot.outBit = false
  eventNr : slot.out.eventNr = UInt32.ofNat index
  held : slot.doingBit = true ∨ slot.killed = true

structure Slot.Filling (slot : Slot) : Prop where
  doing : slot.doingBit = true
  unkilled : slot.killed = false
  unasked : slot.owed = []
  unanswered : slot.outBit = false

/-- What the client relies on in its slot. -/
@[simp] def Client.Expects (index : Nat) (slot : Slot) : Client → Prop
  | .filled _ => slot.Filling
  | .begins _ _ | .waiting _ | .releasing _ | .cleaning _ | .leaving _ _ => slot.Resending index
  | .retry call => if call.ops = .normal then slot.Resending index else slot.written = true
  | .done _ => slot.written = true ∧ slot.outBit = true
  | _ => slot.written = true

/-- What the client's locals keep. -/
@[simp] def Client.Local : Client → Prop
  | .retry call =>
      call.ops = .normal ∧ call.cmdUsage = .clear ∨
        call.savedIndex = call.cmdIndex ∧ (call.ops = .normal ∨ call.cmdUsage = .clear)
  | .occupying call _ => call.ops = .normal ∧ call.cmdUsage = .clear
  | .filled call => call.cmdUsage = .clear
  | .sending call | .sent call _ | .aborting call | .woken call | .done call =>
      call.savedIndex = call.cmdIndex ∧ call.cmdUsage = .clear
  | .cleaning call =>
      (call.cmdUsage = .resend ↔ call.cmd.retVal = teecPending) ∧
        (call.cmdUsage = .resend → call.input.eventNr = UInt32.ofNat call.cmdIndex)
  | .releasing call => call.cmdUsage = .resend
  | _ => True

/-! ### The bits of a slot -/

structure Slot.Free (slot : Slot) : Prop where
  inBit : slot.inBit = false
  doingBit : slot.doingBit = false
  outBit : slot.outBit = false
  unasked : slot.owed = []

structure Slot.Occupied (index client : Nat) (slot : Slot) : Prop where
  inBit : slot.inBit = true
  eventNr : slot.entry.eventNr = UInt32.ofNat index
  written : slot.doingBit = false → slot.written = true
  untaken : slot.doingBit = false → slot.killed = false → slot.owed = [] ∧ slot.outBit = false
  asked : slot.owed = [] ∨ slot.owed = [⟨some client, UInt32.ofNat index⟩]
  answered : slot.outBit = true → slot.outFor = some client ∧ slot.owed = [] ∧
    slot.out.eventNr = UInt32.ofNat index

def Slot.Ok (index : Nat) (slot : Slot) : Prop :=
  match slot.owner with
  | none => slot.Free
  | some client => slot.Occupied index client

structure Invariant (config : Config) (state : State) : Prop where
  slots : ∀ index, (state.slots index).Ok index
  bound : ∀ index client, (state.slots index).owner = some client → index < config.maxSmcCmd
  owns : ∀ id index, (state.clients id).slot = some index →
    (state.slots index).owner = some id ∧ (state.clients id).Expects index (state.slots index)
  locals : ∀ id, (state.clients id).Local
  copied : ∀ copy ∈ state.copied, copy.2 = some copy.1

section Slots

variable {slot : Slot} {index client : Nat}

theorem Slot.Ok.free (ok : slot.Ok index) (unowned : slot.owner = none) : slot.Free := by
  unfold Slot.Ok at ok
  rwa [unowned] at ok

theorem Slot.Ok.occupied (ok : slot.Ok index) (owned : slot.owner = some client) :
    slot.Occupied index client := by
  unfold Slot.Ok at ok
  rwa [owned] at ok

theorem Slot.Ok.of_free (unowned : slot.owner = none) (free : slot.Free) : slot.Ok index := by
  unfold Slot.Ok
  rwa [unowned]

theorem Slot.Ok.of_occupied (owned : slot.owner = some client)
    (occupied : slot.Occupied index client) : slot.Ok index := by
  unfold Slot.Ok
  rwa [owned]

/-- A clear in bit means a free slot. -/
theorem Slot.Ok.unowned (ok : slot.Ok index) (clear : slot.inBit = false) : slot.owner = none := by
  cases owned : slot.owner with
  | none => rfl
  | some client =>
      have set := (ok.occupied owned).inBit
      rw [clear] at set
      cases set

theorem Slot.occupySetbit_occupied (cmd : SmcCmd) (free : slot.Free) :
    (slot.occupySetbit client index cmd).Occupied index client := by
  refine ⟨rfl, rfl, nofun, nofun, Or.inl free.unasked, ?_⟩
  intro answered
  exact absurd (free.outBit.symm.trans answered) Bool.false_ne_true

theorem Slot.finishEntry_occupied (occupied : slot.Occupied index client)
    (filling : slot.Filling) : slot.finishEntry.Occupied index client :=
  ⟨occupied.inBit, occupied.eventNr, fun _ => rfl,
    fun _ _ => ⟨filling.unasked, filling.unanswered⟩, occupied.asked, occupied.answered⟩

theorem Slot.reuseSmcInEntry_occupied {after : Slot} (occupied : slot.Occupied index client)
    (resending : slot.Resending index) (reused : slot.reuseSmcInEntry = some after) :
    after.Occupied index client ∧ after.written = true ∧ after.owner = slot.owner := by
  unfold Slot.reuseSmcInEntry at reused
  split at reused
  · cases reused
    exact ⟨⟨occupied.inBit, resending.eventNr, fun _ => resending.written,
      fun _ _ => ⟨resending.answered, resending.copied⟩, occupied.asked, occupied.answered⟩,
      resending.written, rfl⟩
  · cases reused

theorem Slot.releaseSmcEntry_free (answered : slot.owed = []) : slot.releaseSmcEntry.Free :=
  ⟨rfl, rfl, rfl, answered⟩

theorem Slot.setAbortCmd_occupied {after : Slot} (occupied : slot.Occupied index client)
    (written : slot.written = true) (aborted : slot.setAbortCmd = some after) :
    after.Occupied index client ∧ after.written = true ∧ after.owner = slot.owner := by
  unfold Slot.setAbortCmd at aborted
  split at aborted
  · cases aborted
    exact ⟨⟨occupied.inBit, occupied.eventNr, fun _ => written, nofun, occupied.asked,
      occupied.answered⟩, written, rfl⟩
  · cases aborted

theorem Slot.copySmcOutEntry_ready (ready : slot.outBit = true) : slot.copySmcOutEntry ≠ none := by
  rw [Slot.copySmcOutEntry, if_pos ready]
  split
  · exact Option.some_ne_none _
  · exact Option.some_ne_none _

/-- `copy_smc_out_entry` either keeps the slot for another submission or frees it. -/
theorem Slot.copySmcOutEntry_cases {after : Slot} {usage : CmdReuse}
    (occupied : slot.Occupied index client) (written : slot.written = true)
    (copied : slot.copySmcOutEntry = some (usage, after)) :
    slot.outFor = some client ∧ slot.out.eventNr = UInt32.ofNat index ∧
      ((usage = .resend ∧ (slot.out.retVal = teecPending2 ∨ slot.out.retVal = teecPending) ∧
          after.owner = slot.owner ∧ after.Occupied index client ∧ after.Resending index) ∨
        (usage = .clear ∧ slot.out.retVal ≠ teecPending2 ∧ slot.out.retVal ≠ teecPending ∧
          after.owner = none ∧ after.Free)) := by
  unfold Slot.copySmcOutEntry at copied
  split at copied
  · next ready =>
      obtain ⟨outFor, answered, eventNr⟩ := occupied.answered ready
      have held : slot.doingBit = true ∨ slot.killed = true := by
        by_contra neither
        rw [not_or, Bool.not_eq_true, Bool.not_eq_true] at neither
        have untaken := (occupied.untaken neither.1 neither.2).2
        rw [ready] at untaken
        cases untaken
      refine ⟨outFor, eventNr, ?_⟩
      split at copied
      · next again =>
          cases copied
          exact Or.inl ⟨rfl, again, rfl, ⟨occupied.inBit, occupied.eventNr, occupied.written,
            fun idle unkilled => ⟨answered, rfl⟩, occupied.asked, nofun⟩,
            ⟨written, answered, rfl, eventNr, held⟩⟩
      · next final =>
          cases copied
          rw [not_or] at final
          exact Or.inr ⟨rfl, final.1, final.2, rfl, Slot.releaseSmcEntry_free answered⟩
  · cases copied

/-! ### The TEE -/

theorem Slot.take_occupied (occupied : slot.Occupied index client)
    (owned : slot.owner = some client) (idle : slot.doingBit = false) :
    slot.take.Occupied index client := by
  unfold Slot.take
  split
  · exact ⟨occupied.inBit, occupied.eventNr, nofun, nofun, occupied.asked, occupied.answered⟩
  · next unkilled =>
      obtain ⟨unasked, unanswered⟩ := occupied.untaken idle (Bool.eq_false_iff.mpr unkilled)
      refine ⟨occupied.inBit, occupied.eventNr, nofun, nofun, Or.inr ?_, ?_⟩
      · simp only [unasked, Slot.debt, owned, occupied.eventNr]
      · intro answered
        exact absurd (unanswered.symm.trans answered) Bool.false_ne_true

theorem Slot.take_resending (resending : slot.Resending index) (idle : slot.doingBit = false) :
    slot.take.Resending index := by
  have killed : slot.killed = true := by
    rcases resending.held with doing | killed
    · rw [idle] at doing
      cases doing
    · exact killed
  rw [Slot.take, if_pos killed]
  exact ⟨resending.written, resending.answered, resending.copied, resending.eventNr, Or.inl rfl⟩

theorem Slot.post_occupied {request : Debt} (content : SmcCmd)
    (occupied : slot.Occupied index client) (owed : request ∈ slot.owed) :
    (slot.post request content).Occupied index client := by
  rcases occupied.asked with none_ | one
  · rw [none_] at owed
    cases owed
  · have request_eq : request = ⟨some client, UInt32.ofNat index⟩ := by
      rw [one] at owed
      exact List.mem_singleton.mp owed
    have paid : slot.owed.erase request = [] := by
      rw [one, request_eq, List.erase_cons_head]
    refine ⟨occupied.inBit, occupied.eventNr, occupied.written, ?_, Or.inl paid, ?_⟩
    · intro idle unkilled
      have untaken := (occupied.untaken idle unkilled).1
      rw [one] at untaken
      cases untaken
    · intro _
      exact ⟨congrArg Debt.client request_eq, paid, congrArg Debt.eventNr request_eq⟩

end Slots

end TzDriver.Smc
