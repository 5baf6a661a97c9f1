/-
The command slots that the driver shares with the TEE (`struct tc_ns_smc_queue`)
and the pending entries of sleeping senders (`linux/core/smc_smp.c`).

Every function on a slot is one section under `smc_lock`.  The fields after the
copies of `in[]` and `out[]` are no part of the queue: they record whose command a
slot carries, whether it is completely written, and what the TEE has taken and not
answered.
-/

import TzDriver.Types

namespace TzDriver.Smc

/-- The build options that the sender depends on; `maxSmcCmd` is 18 unless
`CONFIG_BIG_SESSION` is set. -/
structure Config where
  maxSmcCmd : Nat
  fits : maxSmcCmd < 2 ^ 32
  teeReboot : Bool

def defaultConfig : Config := { maxSmcCmd := 18, fits := by decide, teeReboot := false }

def findSmcEntryRetryMaxCount : Nat := 10 * 1000 / 1

/-- A request that the TEE took from a slot and has not answered. -/
structure Debt where
  client : Option Nat
  eventNr : UInt32
deriving DecidableEq

structure Slot where
  inBit : Bool
  doingBit : Bool
  outBit : Bool
  entry : SmcCmd
  out : SmcCmd
  owner : Option Nat
  written : Bool
  killed : Bool
  outFor : Option Nat
  owed : List Debt
  owedKills : List Debt

def Slot.empty : Slot :=
  { inBit := false, doingBit := false, outBit := false, entry := .zeroed, out := .zeroed
    owner := none, written := false, killed := false, outFor := none, owed := [], owedKills := [] }

inductive CmdReuse where
  | clear
  | resend
deriving DecidableEq

/-! ### Sections of the driver -/

namespace Slot

variable (slot : Slot)

/-- The copy of the command and `occupy_setbit_smc_in_doing_entry`.  The doing bit
keeps the TEE away from an entry that is not ready. -/
def occupySetbit (client index : Nat) (cmd : SmcCmd) : Slot :=
  { slot with
    inBit := true
    doingBit := true
    entry := { cmd with eventNr := UInt32.ofNat index }
    owner := some client
    written := false
    killed := false }

/-- The last section of `occupy_free_smc_in_entry`. -/
def finishEntry : Slot :=
  { slot with doingBit := false, written := true }

def reuseSmcInEntry : Option Slot :=
  if slot.inBit && slot.doingBit then
    some { slot with entry := slot.out, doingBit := false, killed := false }
  else none

def releaseSmcEntry : Slot :=
  { slot with inBit := false, doingBit := false, outBit := false, owner := none }

def copySmcOutEntry : Option (CmdReuse × Slot) :=
  if slot.outBit then
    if slot.out.retVal = teecPending2 ∨ slot.out.retVal = teecPending then
      some (.resend, { slot with outBit := false })
    else some (.clear, slot.releaseSmcEntry)
  else none

def setAbortCmd : Option Slot :=
  if slot.doingBit then
    some { slot with
      doingBit := false
      killed := true
      entry :=
        { slot.entry with
          cmdId := globalCmdIdKillTask
          cmdType := .global
          operationPhys := 0
          operationHPhys := 0
          loginDataPhy := 0
          loginDataHAddr := 0 } }
  else none

/-! ### Sections of the TEE -/

def debt : Debt := { client := slot.owner, eventNr := slot.entry.eventNr }

def take : Slot :=
  if slot.killed then
    { slot with doingBit := true, owedKills := slot.debt :: slot.owedKills }
  else { slot with doingBit := true, owed := slot.debt :: slot.owed }

/-- The TEE answers a request with any content; the event number is kept. -/
def answer (request : Debt) (content : SmcCmd) : Slot :=
  { slot with
    outBit := true
    out := { content with eventNr := request.eventNr }
    outFor := request.client }

def post (request : Debt) (content : SmcCmd) : Slot :=
  { slot.answer request content with owed := slot.owed.erase request }

def postKill (request : Debt) (content : SmcCmd) : Slot :=
  { slot.answer request content with owedKills := slot.owedKills.erase request }

end Slot

/-! ### Pending entries -/

/-- `g_pending_head` and the `users` of every entry; `visitors` counts those that
`find_pending_entry` took. -/
structure PendingHead where
  list : List Nat
  users : Nat → Nat
  visitors : Nat → Nat
  count : Nat

namespace PendingHead

variable (head : PendingHead)

/-- `init_pending_entry`, after its allocation. -/
def initPendingEntry : PendingHead :=
  { head with
    list := head.list ++ [head.count]
    users := Function.update head.users head.count 1
    count := head.count + 1 }

def releasePendingEntry (entry : Nat) : PendingHead :=
  { head with
    list := head.list.erase entry
    users := Function.update head.users entry (head.users entry - 1) }

/-- `find_pending_entry`, when the entry is on the list. -/
def findPendingEntry (entry : Nat) : PendingHead :=
  { head with
    users := Function.update head.users entry (head.users entry + 1)
    visitors := Function.update head.visitors entry (head.visitors entry + 1) }

/-- `put_pending_entry` after `find_pending_entry`. -/
def putPendingEntry (entry : Nat) : PendingHead :=
  { head with
    users := Function.update head.users entry (head.users entry - 1)
    visitors := Function.update head.visitors entry (head.visitors entry - 1) }

end PendingHead

end TzDriver.Smc
