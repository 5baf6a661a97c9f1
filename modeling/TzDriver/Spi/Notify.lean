/-
The notifications that the TEE leaves in a shared table and announces by an SPI
(`linux/core/tz_spi_notify.c`).

`tc_notify_fn` takes one entry after the other out of the table and hands each to the
handler of its type.  No other thread writes the table while it runs.
-/

import Mathlib.Data.List.Perm.Basic
import Mathlib.Data.Fintype.Pi
import TzDriver.Types

namespace TzDriver.Spi

/-! ### The table -/

/-- The words of `union notify_context`; its members overlap from word 0 on. -/
structure NotifyContext where
  words : Fin 12 → UInt32
deriving DecidableEq

structure NotifyDataEntry where
  entryType : BitVec 31
  filled : Bool
  context : NotifyContext
deriving DecidableEq

/-- The counters of the meta entry that the driver writes, and the mask of missed
notifications. -/
structure NotifyContextStats where
  recvS : UInt32
  recvW : UInt32
  recvAf : UInt32
  missed : UInt32
deriving DecidableEq

/-- `struct notify_data_struct`, with any number of entries. -/
structure NotifyDataStruct where
  entry : List NotifyDataEntry
  stats : NotifyContextStats
deriving DecidableEq

/-- The types of `enum notify_data_type` that an entry can be delivered as. -/
inductive NotifyDataType where
  | timer
  | rtc
  | wakeup
  | shadow
  | fiqshd
  | shadowExit
  | setAffinity
deriving DecidableEq

/-- `affinity` tells that the driver is built with `CONFIG_TA_AFFINITY`. -/
def NotifyDataType.ofEntryType (affinity : Bool) (entryType : BitVec 31) : Option NotifyDataType :=
  if entryType = 1 then some .timer
  else if entryType = 2 then some .rtc
  else if entryType = 3 then some .wakeup
  else if entryType = 4 then some .shadow
  else if entryType = 5 then some .fiqshd
  else if entryType = 6 then some .shadowExit
  else if entryType = 7 ∧ affinity = true then some .setAffinity
  else none

def notifyDataEntryWakeup : UInt32 := 3
def notifyDataEntryFiqshd : UInt32 := 5

namespace NotifyDataEntry

variable (affinity : Bool) (entry : NotifyDataEntry)

def dataType : Option NotifyDataType := NotifyDataType.ofEntryType affinity entry.entryType

def Deliverable : Prop := entry.filled = true ∧ entry.dataType affinity ≠ none

def Malformed : Prop := entry.filled = true ∧ entry.dataType affinity = none

instance decidableDeliverable : Decidable (entry.Deliverable affinity) :=
  inferInstanceAs (Decidable (_ ∧ _))

instance decidableMalformed : Decidable (entry.Malformed affinity) :=
  inferInstanceAs (Decidable (_ ∧ _))

def taken : NotifyDataEntry := { entry with filled := false }

theorem not_deliverable_of_empty {affinity : Bool} {entry : NotifyDataEntry}
    (empty : entry.filled = false) : ¬entry.Deliverable affinity := by
  intro deliverable
  exact Bool.false_ne_true (empty.symm.trans deliverable.1)

end NotifyDataEntry

/-! ### Taking an entry out -/

def NotifyContextStats.received (stats : NotifyContextStats) :
    NotifyDataType → NotifyContextStats
  | .timer | .rtc => stats
  | .shadow | .shadowExit | .fiqshd => { stats with recvS := stats.recvS + 1 }
  | .wakeup => { stats with recvW := stats.recvW + 1 }
  | .setAffinity => { stats with recvAf := stats.recvAf + 1 }

/-- The scan of `get_notify_data_entry` over the entries from some index on; `none` is
its return of -1. -/
def scanEntries (affinity : Bool) :
    List NotifyDataEntry → Option (NotifyDataEntry × NotifyDataType × List NotifyDataEntry)
  | [] => none
  | entry :: rest =>
      if entry.filled = false then
        (scanEntries affinity rest).map fun found => (found.1, found.2.1, entry :: found.2.2)
      else
        match entry.dataType affinity with
        -- an invalid type leaves the loop, and later entries are not looked at
        | none => none
        | some type => some (entry, type, entry.taken :: rest)

/-- `get_notify_data_entry`: the copy, and the table without it. -/
def getNotifyDataEntry (affinity : Bool) (data : NotifyDataStruct) :
    Option (NotifyDataEntry × NotifyDataStruct) :=
  (scanEntries affinity data.entry).map fun found =>
    (found.1, { entry := found.2.2, stats := data.stats.received found.2.1 })

/-! ### The handlers -/

/-- A call of a handler, with the copy it gets, or of `smc_wakeup_broadcast`. -/
inductive Call where
  | timerFn (copy : NotifyDataEntry)
  | wakeupFn (copy : NotifyDataEntry)
  | shadowFn (copy : NotifyDataEntry)
  | fiqshdFn (copy : Option NotifyDataEntry)
  | shadowexitFn (copy : NotifyDataEntry)
  | setAffinity (copy : NotifyDataEntry)
  | wakeupBroadcast
deriving DecidableEq

def Call.delivers : Call → Bool
  | .fiqshdFn none | .wakeupBroadcast => false
  | _ => true

def NotifyDataType.handler : NotifyDataType → NotifyDataEntry → Call
  | .timer, copy | .rtc, copy => .timerFn copy
  | .wakeup, copy => .wakeupFn copy
  | .shadow, copy => .shadowFn copy
  | .fiqshd, copy => .fiqshdFn (some copy)
  | .shadowExit, copy => .shadowexitFn copy
  | .setAffinity, copy => .setAffinity copy

/-- The switch of `tc_notify_fn`; a copy of an invalid type is logged. -/
def dispatch (affinity : Bool) (copy : NotifyDataEntry) : List Call :=
  match copy.dataType affinity with
  | none => []
  | some type => [type.handler copy]

def spiBroadcastNotifications (data : NotifyDataStruct) : List Call × NotifyDataStruct :=
  let missed := data.stats.missed
  ((if missed &&& (1 <<< notifyDataEntryWakeup) ≠ 0 then [.wakeupBroadcast] else []) ++
      (if missed &&& (1 <<< notifyDataEntryFiqshd) ≠ 0 then [.fiqshdFn none] else []),
    { data with stats := { data.stats with missed := 0 } })

/-- The loop of `tc_notify_fn`, for at most `fuel` rounds. -/
def drain (affinity : Bool) : Nat → NotifyDataStruct → Option (List Call × NotifyDataStruct)
  | 0, _ => none
  | fuel + 1, data =>
      match getNotifyDataEntry affinity data with
      | none => some ([], data)
      | some (copy, after) =>
          (drain affinity fuel after).map fun rest => (dispatch affinity copy ++ rest.1, rest.2)

/-- `tc_notify_fn`: the calls it makes and the table it leaves. -/
def tcNotifyFn (affinity : Bool) (fuel : Nat) (data : NotifyDataStruct) :
    Option (List Call × NotifyDataStruct) :=
  (drain affinity fuel data).map fun drained =>
    (drained.1 ++ (spiBroadcastNotifications drained.2).1,
      (spiBroadcastNotifications drained.2).2)

/-! ### What the loop does -/

/-- What a drain that has emptied the entries before these still does: the calls, and
the entries it leaves. -/
def delivery (affinity : Bool) : List NotifyDataEntry → List Call × List NotifyDataEntry
  | [] => ([], [])
  | entry :: rest =>
      if entry.filled = false then
        ((delivery affinity rest).1, entry :: (delivery affinity rest).2)
      else
        match entry.dataType affinity with
        | none => ([], entry :: rest)
        | some type =>
            (type.handler entry :: (delivery affinity rest).1,
              entry.taken :: (delivery affinity rest).2)

section Drain

variable {affinity : Bool} {entry : NotifyDataEntry} {done rest : List NotifyDataEntry}

theorem scanEntries_append (empty : ∀ other ∈ done, other.filled = false) :
    scanEntries affinity (done ++ rest) =
      (scanEntries affinity rest).map fun found => (found.1, found.2.1, done ++ found.2.2) := by
  induction done with
  | nil =>
      rw [List.nil_append]
      exact Option.map_id'.symm
  | cons first done ih =>
      have emptyFirst : first.filled = false := empty first List.mem_cons_self
      have emptyDone : ∀ other ∈ done, other.filled = false :=
        fun other member => empty other (List.mem_cons_of_mem _ member)
      rw [List.cons_append, scanEntries, if_pos emptyFirst, ih emptyDone, Option.map_map]
      rfl

/-- The loop on a table whose first entries are empty does what is left to do. -/
theorem drain_append (empty : ∀ other ∈ done, other.filled = false) (stats : NotifyContextStats)
    {fuel : Nat} (enough : rest.length < fuel) :
    ∃ received, drain affinity fuel ⟨done ++ rest, stats⟩ =
      some ((delivery affinity rest).1, ⟨done ++ (delivery affinity rest).2, received⟩) := by
  induction rest generalizing done stats fuel with
  | nil =>
      obtain ⟨fuel, rfl⟩ := Nat.exists_eq_add_of_lt enough
      have nothing : getNotifyDataEntry affinity ⟨done ++ [], stats⟩ = none := by
        rw [getNotifyDataEntry, scanEntries_append empty]
        rfl
      refine ⟨stats, ?_⟩
      simp only [drain, nothing, delivery]
  | cons entry rest ih =>
      have scanned : scanEntries affinity (done ++ entry :: rest) = _ := scanEntries_append empty
      by_cases skipped : entry.filled = false
      · have emptied : ∀ other ∈ done ++ [entry], other.filled = false := by
          intro other member
          rcases List.mem_append.mp member with before | here
          · exact empty other before
          · rw [List.mem_singleton.mp here]
            exact skipped
        obtain ⟨received, drained⟩ := ih emptied stats (Nat.lt_of_succ_lt enough)
        refine ⟨received, ?_⟩
        rw [List.append_cons, drained, delivery, if_pos skipped]
        simp only [List.append_assoc, List.singleton_append]
      · obtain ⟨fuel, rfl⟩ := Nat.exists_eq_add_of_lt enough
        rw [scanEntries, if_neg skipped] at scanned
        cases typed : entry.dataType affinity with
        | none =>
            have nothing : getNotifyDataEntry affinity ⟨done ++ entry :: rest, stats⟩ = none := by
              rw [getNotifyDataEntry, scanned, typed]
              rfl
            refine ⟨stats, ?_⟩
            simp only [drain, nothing, delivery, if_neg skipped, typed]
        | some type =>
            have found : getNotifyDataEntry affinity ⟨done ++ entry :: rest, stats⟩ =
                some (entry, ⟨done ++ entry.taken :: rest, stats.received type⟩) := by
              rw [getNotifyDataEntry, scanned, typed]
              rfl
            have emptied : ∀ other ∈ done ++ [entry.taken], other.filled = false := by
              intro other member
              rcases List.mem_append.mp member with before | here
              · exact empty other before
              · rw [List.mem_singleton.mp here]
                rfl
            have room : rest.length < (entry :: rest).length + fuel := by
              rw [List.length_cons]
              omega
            obtain ⟨received, drained⟩ := ih emptied (stats.received type) room
            rw [← List.append_cons] at drained
            refine ⟨received, ?_⟩
            simp only [drain, found, drained, delivery, if_neg skipped, typed, dispatch,
              Option.map_some, List.singleton_append]
            rw [← List.append_cons]

theorem drain_mono {fuel more : Nat} {data : NotifyDataStruct}
    {result : List Call × NotifyDataStruct} (drained : drain affinity fuel data = some result)
    (le : fuel ≤ more) : drain affinity more data = some result := by
  induction fuel generalizing more data result with
  | zero => cases drained
  | succ fuel ih =>
      obtain ⟨more, rfl⟩ := Nat.exists_eq_succ_of_ne_zero (by omega : more ≠ 0)
      rw [drain] at drained ⊢
      split at drained
      · exact drained
      · obtain ⟨rest, drainedRest, rfl⟩ := Option.map_eq_some_iff.mp drained
        rw [ih drainedRest (Nat.le_of_succ_le_succ le)]
        rfl

end Drain

/-! ### Delivery -/

/-- The call that an entry is due. -/
def NotifyDataEntry.delivered (affinity : Bool) (entry : NotifyDataEntry) : Option Call :=
  if entry.filled = true then (entry.dataType affinity).map (·.handler entry) else none

/-- Every filled entry of a valid type goes to the handler of its type, once, and none
stays filled. -/
def AllDelivered (affinity : Bool) (data : NotifyDataStruct) : Prop :=
  ∃ fuel calls after, tcNotifyFn affinity fuel data = some (calls, after) ∧
    (calls.filter Call.delivers).Perm (data.entry.filterMap (·.delivered affinity)) ∧
    ∀ entry ∈ after.entry, ¬entry.Deliverable affinity

section Delivery

variable {affinity : Bool} {entries : List NotifyDataEntry}

theorem handler_delivers (type : NotifyDataType) (entry : NotifyDataEntry) :
    (type.handler entry).delivers = true := by
  cases type <;> rfl

theorem broadcast_delivers (data : NotifyDataStruct) :
    (spiBroadcastNotifications data).1.filter Call.delivers = [] := by
  rw [spiBroadcastNotifications, List.filter_append]
  split <;> split <;> rfl

theorem delivery_delivers : (delivery affinity entries).1.filter Call.delivers =
    (delivery affinity entries).1 := by
  induction entries with
  | nil => rfl
  | cons entry rest ih =>
      rw [delivery]
      split
      · exact ih
      · split
        · rfl
        · rw [List.filter_cons_of_pos (handler_delivers _ _), ih]

/-- A run of `tc_notify_fn` ends, and the calls that deliver entries and the entries it
leaves are those of `delivery`. -/
theorem tcNotifyFn_spec (affinity : Bool) (data : NotifyDataStruct) {fuel : Nat}
    (enough : data.entry.length < fuel) :
    ∃ calls after, tcNotifyFn affinity fuel data = some (calls, after) ∧
      calls.filter Call.delivers = (delivery affinity data.entry).1 ∧
      after.entry = (delivery affinity data.entry).2 := by
  have none : ∀ other ∈ ([] : List NotifyDataEntry), other.filled = false :=
    fun other member => by cases member
  obtain ⟨received, drained⟩ : ∃ received, drain affinity fuel data = some _ :=
    drain_append none data.stats enough
  refine ⟨_, _, congrArg _ drained, ?_, rfl⟩
  rw [List.filter_append, delivery_delivers, broadcast_delivers, List.append_nil]

theorem NotifyDataEntry.delivered_of_empty {entry : NotifyDataEntry}
    (empty : entry.filled = false) : entry.delivered affinity = none := by
  rw [delivered, empty]
  exact if_neg Bool.false_ne_true

theorem NotifyDataEntry.delivered_of_full {entry : NotifyDataEntry} (full : ¬entry.filled = false) :
    entry.delivered affinity = (entry.dataType affinity).map (·.handler entry) :=
  if_pos (Bool.eq_true_of_not_eq_false full)

theorem NotifyDataEntry.delivered_eq_none {entry : NotifyDataEntry}
    (none : ¬entry.Deliverable affinity) : entry.delivered affinity = .none := by
  rw [delivered]
  split
  · next full =>
      rw [Option.map_eq_none_iff]
      by_contra valid
      exact none ⟨full, valid⟩
  · rfl

/-- No filled entry of an invalid type stands before a filled one of a valid type. -/
def MalformedLast (affinity : Bool) (entries : List NotifyDataEntry) : Prop :=
  entries.Pairwise fun first second => ¬(first.Malformed affinity ∧ second.Deliverable affinity)

theorem MalformedLast.delivery_calls (last : MalformedLast affinity entries) :
    (delivery affinity entries).1 = entries.filterMap (·.delivered affinity) := by
  induction entries with
  | nil => rfl
  | cons entry rest ih =>
      obtain ⟨here, later⟩ := List.pairwise_cons.mp last
      rw [delivery]
      by_cases empty : entry.filled = false
      · rw [if_pos empty, List.filterMap_cons, NotifyDataEntry.delivered_of_empty empty, ih later]
      · rw [if_neg empty, List.filterMap_cons, NotifyDataEntry.delivered_of_full empty]
        cases typed : entry.dataType affinity with
        | none =>
            -- behind a malformed entry nothing is left to deliver
            have malformed : entry.Malformed affinity :=
              ⟨Bool.eq_true_of_not_eq_false empty, typed⟩
            have nothing : ∀ other ∈ rest, other.delivered affinity = none := by
              intro other member
              apply NotifyDataEntry.delivered_eq_none
              intro deliverable
              exact here other member ⟨malformed, deliverable⟩
            exact (List.filterMap_eq_nil_iff.mpr nothing).symm
        | some type => exact congrArg _ (ih later)

theorem MalformedLast.delivery_left (last : MalformedLast affinity entries) :
    ∀ entry ∈ (delivery affinity entries).2, ¬entry.Deliverable affinity := by
  induction entries with
  | nil => intro entry member; cases member
  | cons entry rest ih =>
      obtain ⟨here, later⟩ := List.pairwise_cons.mp last
      rw [delivery]
      split
      · next empty =>
          exact List.forall_mem_cons.mpr
            ⟨NotifyDataEntry.not_deliverable_of_empty empty, ih later⟩
      · next full =>
          split
          · next typed =>
              have malformed : entry.Malformed affinity :=
                ⟨Bool.eq_true_of_not_eq_false full, typed⟩
              exact List.forall_mem_cons.mpr ⟨fun deliverable => deliverable.2 typed,
                fun other member deliverable => here other member ⟨malformed, deliverable⟩⟩
          · exact List.forall_mem_cons.mpr
              ⟨NotifyDataEntry.not_deliverable_of_empty rfl, ih later⟩

theorem malformedLast_of_delivery
    (left : ∀ entry ∈ (delivery affinity entries).2, ¬entry.Deliverable affinity) :
    MalformedLast affinity entries := by
  induction entries with
  | nil => exact List.Pairwise.nil
  | cons entry rest ih =>
      rw [delivery] at left
      split at left
      · next empty =>
          have later := ih (List.forall_mem_cons.mp left).2
          apply List.pairwise_cons.mpr
          refine ⟨?_, later⟩
          intro other _ both
          exact Bool.false_ne_true (empty.symm.trans both.1.1)
      · split at left
        · next typed =>
            have undelivered := (List.forall_mem_cons.mp left).2
            apply List.pairwise_cons.mpr
            constructor
            · intro other member both
              exact undelivered other member both.2
            · apply List.pairwise_of_forall_mem_list
              intro first _ second member both
              exact undelivered second member both.2
        · next type typed =>
            have later := ih (List.forall_mem_cons.mp left).2
            apply List.pairwise_cons.mpr
            refine ⟨?_, later⟩
            intro other _ both
            cases typed.symm.trans both.1.2

/-- Every valid notification is delivered exactly when none stands behind a malformed
one. -/
theorem notifications_delivered_iff (affinity : Bool) (data : NotifyDataStruct) :
    AllDelivered affinity data ↔ MalformedLast affinity data.entry := by
  constructor
  · intro delivered
    obtain ⟨fuel, calls, after, ran, _, left⟩ := delivered
    have enough : data.entry.length < max fuel (data.entry.length + 1) := by omega
    obtain ⟨calls', after', ran', _, entries⟩ := tcNotifyFn_spec affinity data enough
    obtain ⟨drained, drainedEq, result⟩ := Option.map_eq_some_iff.mp ran
    rw [tcNotifyFn, drain_mono drainedEq (Nat.le_max_left _ _)] at ran'
    have same : (calls, after) = (calls', after') := result.symm.trans (Option.some.inj ran')
    apply malformedLast_of_delivery
    rw [← entries, ← (Prod.mk.inj same).2]
    exact left
  · intro last
    obtain ⟨calls, after, ran, delivers, entries⟩ :=
      tcNotifyFn_spec affinity data (Nat.lt_succ_self _)
    refine ⟨_, calls, after, ran, ?_, ?_⟩
    · rw [delivers, last.delivery_calls]
    · rw [entries]
      exact last.delivery_left

def pageOf (front : List NotifyDataEntry) : NotifyDataStruct :=
  { entry := front ++ List.replicate (72 - front.length) ⟨0, false, ⟨fun _ => 0⟩⟩
    stats := ⟨0, 0, 0, 0⟩ }

/-- An entry of type 0 in front of a wakeup. -/
theorem notification_not_delivered :
    ¬AllDelivered false (pageOf [⟨0, true, ⟨fun _ => 0⟩⟩, ⟨3, true, ⟨fun _ => 7⟩⟩]) := by
  intro delivered
  obtain ⟨fuel, calls, after, ran, _, left⟩ := delivered
  have stuck : ∀ fuel calls after, tcNotifyFn false fuel
      (pageOf [⟨0, true, ⟨fun _ => 0⟩⟩, ⟨3, true, ⟨fun _ => 7⟩⟩]) = some (calls, after) →
        (⟨3, true, ⟨fun _ => 7⟩⟩ : NotifyDataEntry) ∈ after.entry := by
    intro fuel calls after ran
    cases fuel with
    | zero => cases ran
    | succ fuel =>
        cases ran
        decide
  exact left _ (stuck fuel calls after ran) (by decide)

end Delivery

end TzDriver.Spi
