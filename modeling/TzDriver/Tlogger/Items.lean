/-
Log items and the scan for them (`linux/tlogger/tlogger.c`).

A position is an offset from `buffer_start`.  The code takes no log memory of more than
`LOG_BUFFER_MAX_LEN` bytes, so none of its 32-bit sums of positions and lengths wraps.
-/

import Mathlib.Algebra.Ring.Nat
import TzDriver.Lib.Walks

namespace TzDriver.Tlogger

open TzDriver.Lib

/-- The bytes from `buffer_start` on. -/
abbrev Memory := Nat → UInt8

def logItemMagic : Nat := 0x5A5A

def logItemLenAlign : Nat := 64

def logItemMaxLen : Nat := 1024

/-- `sizeof(struct log_item)`: the head, without `log_buffer`. -/
def sizeofLogItem : Nat := 64

def store (mem : Memory) (pos size : Nat) (bytes : Memory) : Memory := fun place =>
  if pos ≤ place ∧ place < pos + size then bytes (place - pos) else mem place

def u16At (mem : Memory) (pos : Nat) : Nat :=
  (mem pos).toNat + 256 * (mem (pos + 1)).toNat

def u32At (mem : Memory) (pos : Nat) : Nat :=
  u16At mem pos + 65536 * u16At mem (pos + 2)

/-- The fields of `struct log_item` that the driver reads. -/
structure LogItem where
  magic : Nat
  serialNo : Nat
  realLen : Nat
  bufferLen : Nat
deriving DecidableEq, Repr

def itemAt (mem : Memory) (pos : Nat) : LogItem :=
  { magic := u16At mem (pos + 32)
    serialNo := u32At mem (pos + 36)
    realLen := u16At mem (pos + 40)
    bufferLen := u16At mem (pos + 42) }

def checkLogItemValidite (item : LogItem) (itemMaxSize : Nat) : Bool :=
  item.magic == logItemMagic &&
    decide (item.bufferLen > 0) &&
    decide (item.realLen > 0) &&
    item.bufferLen % logItemLenAlign == 0 &&
    decide (item.realLen ≤ item.bufferLen) &&
    decide (item.bufferLen - item.realLen < logItemLenAlign) &&
    decide (item.bufferLen + sizeofLogItem ≤ itemMaxSize)

/-- The size limit of an item when `left` bytes are left. -/
def maxSize (left : Nat) : Nat :=
  if left > logItemMaxLen then logItemMaxLen else left

/-- The loop of `get_next_log_item`: the item it stops at and `*pos`. -/
def nextLoop (mem : Memory) (readPos scopeLen : Nat) : Nat → Nat → Nat → Option Nat × Nat
  | 0, _, pos => (none, pos)
  | fuel + 1, i, pos =>
      if i + sizeofLogItem + logItemLenAlign ≤ scopeLen then
        if checkLogItemValidite (itemAt mem (readPos + i)) (maxSize (scopeLen - i)) then
          (some (readPos + i), readPos + i)
        else nextLoop mem readPos scopeLen fuel (i + logItemLenAlign) (readPos + i)
      else (none, pos)

def getNextLogItem (mem : Memory) (maxLen readPos scopeLen pos : Nat) : Option Nat × Nat :=
  if readPos + scopeLen > maxLen then (none, pos)
  else nextLoop mem readPos scopeLen scopeLen 0 pos

def itemLen (mem : Memory) (pos : Nat) : Nat :=
  (itemAt mem pos).bufferLen + sizeofLogItem

def itemBytes (mem : Memory) (pos : Nat) : List UInt8 :=
  (List.range (itemLen mem pos)).map fun index => mem (pos + index)

/-- What `parse_log_item` leaves: the items it copied to the user, `*read_off` and
`*user_buffer_left`. -/
structure Parsed where
  items : List Nat
  readOff : Nat
  userBufferLeft : Bool
deriving DecidableEq, Repr

def parseLoop (mem : Memory) (maxLen endPos : Nat) : Nat → Nat → Nat → Parsed
  | 0, startPos, _ => ⟨[], startPos, true⟩
  | fuel + 1, startPos, bufLeft =>
      if startPos < endPos then
        match getNextLogItem mem maxLen startPos (endPos - startPos) startPos with
        | (none, pos) => ⟨[], pos, true⟩
        | (some item, pos) =>
            if bufLeft < itemLen mem item then ⟨[], pos, false⟩
            else
              let rest := parseLoop mem maxLen endPos fuel (pos + itemLen mem item)
                (bufLeft - itemLen mem item)
              { rest with items := item :: rest.items }
      else ⟨[], startPos, true⟩

def parseLogItem (mem : Memory) (count maxLen startPos endPos : Nat) : Parsed :=
  parseLoop mem maxLen endPos endPos startPos count

def bytesOf (mem : Memory) (items : List Nat) : Nat :=
  (items.map (itemLen mem)).sum

/-! ### What the check accepts -/

/-- The conditions of `check_log_item_validite` that are about the item alone. -/
structure LogItem.Sound (item : LogItem) : Prop where
  magic : item.magic = logItemMagic
  real : 0 < item.realLen
  aligned : item.bufferLen % 64 = 0
  fits : item.realLen ≤ item.bufferLen
  close : item.bufferLen - item.realLen < 64

theorem check_iff (item : LogItem) (size : Nat) :
    checkLogItemValidite item size = true ↔ item.Sound ∧ item.bufferLen + 64 ≤ size := by
  simp only [checkLogItemValidite, Bool.and_eq_true, beq_iff_eq, decide_eq_true_eq]
  constructor
  · intro given
    obtain ⟨⟨⟨⟨⟨⟨magic, -⟩, real⟩, aligned⟩, fits⟩, close⟩, size⟩ := given
    exact ⟨⟨magic, real, aligned, fits, close⟩, size⟩
  · intro given
    obtain ⟨⟨magic, real, aligned, fits, close⟩, size⟩ := given
    exact ⟨⟨⟨⟨⟨⟨magic, Nat.lt_of_lt_of_le real fits⟩, real⟩, aligned⟩, fits⟩, close⟩, size⟩

theorem LogItem.Sound.long {item : LogItem} (sound : item.Sound) : 64 ≤ item.bufferLen := by
  have real := sound.real
  have aligned := sound.aligned
  have fits := sound.fits
  omega

/-- An item at `pos` that ends at or before `endPos`. -/
structure IsItem (mem : Memory) (endPos pos : Nat) : Prop where
  sound : (itemAt mem pos).Sound
  short : itemLen mem pos ≤ 1024
  inside : pos + itemLen mem pos ≤ endPos

theorem IsItem.long {mem : Memory} {endPos pos : Nat} (item : IsItem mem endPos pos) :
    128 ≤ itemLen mem pos := by
  have long := item.sound.long
  unfold itemLen sizeofLogItem
  omega

theorem IsItem.aligned {mem : Memory} {endPos pos : Nat} (item : IsItem mem endPos pos) :
    itemLen mem pos % 64 = 0 := by
  have aligned := item.sound.aligned
  unfold itemLen sizeofLogItem
  omega

theorem maxSize_eq (left : Nat) : maxSize left = min 1024 left := by
  change (if left > 1024 then 1024 else left) = _
  split
  · omega
  · omega

theorem check_isItem (mem : Memory) (endPos pos : Nat) :
    checkLogItemValidite (itemAt mem pos) (maxSize (endPos - pos)) = true ↔
      IsItem mem endPos pos := by
  rw [check_iff, maxSize_eq]
  constructor
  · intro given
    obtain ⟨sound, size⟩ := given
    have long := sound.long
    refine ⟨sound, ?_, ?_⟩
    · unfold itemLen sizeofLogItem
      omega
    · unfold itemLen sizeofLogItem
      omega
  · intro given
    obtain ⟨sound, short, inside⟩ := given
    refine ⟨sound, ?_⟩
    unfold itemLen sizeofLogItem at short inside
    omega

/-! ### What the scan finds -/

section Scan

variable {maxLen start stop : Nat}

/-- The grid that a scan from `start` looks at. -/
def ItemOnGrid (mem : Memory) (stop start step : Nat) : Prop :=
  IsItem mem stop (start + 64 * step)

theorem nextLoop_succ (mem : Memory) (start scope fuel i pos : Nat) :
    nextLoop mem start scope (fuel + 1) i pos =
      if i + 64 + 64 ≤ scope then
        if checkLogItemValidite (itemAt mem (start + i)) (maxSize (scope - i)) then
          (some (start + i), start + i)
        else nextLoop mem start scope fuel (i + 64) (start + i)
      else (none, pos) := rfl

theorem nextLoop_spec (mem : Memory) (start scope : Nat) (fuel : Nat) :
    ∀ step pos, scope ≤ 64 * step + 64 * fuel →
      (∀ earlier < step, ¬ItemOnGrid mem (start + scope) start earlier) →
      (∃ found, FirstHit (ItemOnGrid mem (start + scope) start) found ∧
        nextLoop mem start scope fuel (64 * step) pos =
          (some (start + 64 * found), start + 64 * found)) ∨
      ((∀ found, ¬ItemOnGrid mem (start + scope) start found) ∧
        ∃ last, nextLoop mem start scope fuel (64 * step) pos = (none, last) ∧
          (last = pos ∨ ∃ found, last = start + 64 * found ∧ last ≤ start + scope)) := by
  have beyond (step : Nat) (guard : ¬64 * step + 64 + 64 ≤ scope)
      (before : ∀ earlier < step, ¬ItemOnGrid mem (start + scope) start earlier) (found : Nat) :
      ¬ItemOnGrid mem (start + scope) start found := by
    intro item
    rcases Nat.lt_or_ge found step with earlier | later
    · exact before found earlier item
    · have long := item.long
      have inside := item.inside
      omega
  induction fuel with
  | zero =>
      intro step pos enough before
      exact Or.inr ⟨beyond step (by omega) before, pos, rfl, Or.inl rfl⟩
  | succ fuel ih =>
      intro step pos enough before
      rw [nextLoop_succ]
      by_cases guard : 64 * step + 64 + 64 ≤ scope
      · rw [if_pos guard]
        have left : scope - 64 * step = start + scope - (start + 64 * step) := by omega
        by_cases item : ItemOnGrid mem (start + scope) start step
        · rw [left, if_pos ((check_isItem mem _ _).mpr item)]
          exact Or.inl ⟨step, ⟨item, before⟩, rfl⟩
        · rw [left, if_neg fun passes => item ((check_isItem mem _ _).mp passes)]
          have next : 64 * step + 64 = 64 * (step + 1) := by omega
          have beforeNext : ∀ earlier < step + 1, ¬ItemOnGrid mem (start + scope) start earlier := by
            intro earlier below
            rcases Nat.lt_succ_iff_lt_or_eq.mp below with less | rfl
            · exact before earlier less
            · exact item
          rw [next]
          rcases ih (step + 1) (start + 64 * step) (by omega) beforeNext with
            hit | ⟨none, last, result, place⟩
          · exact Or.inl hit
          · refine Or.inr ⟨none, last, result, Or.inr ?_⟩
            rcases place with rfl | inside
            · exact ⟨step, rfl, by omega⟩
            · exact inside
      · rw [if_neg guard]
        exact Or.inr ⟨beyond step guard before, pos, rfl, Or.inl rfl⟩

/-- A scan finds the first item on its grid, or there is none. -/
theorem getNextLogItem_spec (mem : Memory) (ordered : start ≤ stop) (within : stop ≤ maxLen) (pos : Nat) :
    (∃ found, FirstHit (ItemOnGrid mem stop start) found ∧
      getNextLogItem mem maxLen start (stop - start) pos =
        (some (start + 64 * found), start + 64 * found)) ∨
    ((∀ found, ¬ItemOnGrid mem stop start found) ∧
      ∃ last, getNextLogItem mem maxLen start (stop - start) pos = (none, last) ∧
        (last = pos ∨ ∃ found, last = start + 64 * found ∧ last ≤ stop)) := by
  have reaches : start + (stop - start) = stop := by omega
  have spec := nextLoop_spec mem start (stop - start) (stop - start) 0 pos (by omega)
    fun earlier below => absurd below (Nat.not_lt_zero earlier)
  rw [reaches] at spec
  unfold getNextLogItem
  rw [if_neg (by omega)]
  exact spec

end Scan

end TzDriver.Tlogger
