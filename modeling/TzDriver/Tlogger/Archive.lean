/-
The archive of the log memory against what a reader finds there.

`tlogger_store_msg` looks for the next item with `msg_get_next`, whose window of
`LOG_ITEM_MAX_LEN` bytes has to hold the gap and the item after it; a reader scans on.
-/

import TzDriver.Tlogger.Items

namespace TzDriver.Tlogger

open TzDriver.Lib

def msgLoop (mem : Memory) (readPos scopeLen maxLen : Nat) : Nat → Nat → Option Nat
  | 0, _ => none
  | fuel + 1, i =>
      if i ≤ scopeLen ∧ readPos + i + sizeofLogItem < maxLen then
        if checkLogItemValidite (itemAt mem (readPos + i)) (maxSize (scopeLen - i)) then
          if readPos + i + sizeofLogItem + (itemAt mem (readPos + i)).bufferLen > maxLen then none
          else some (readPos + i)
        else msgLoop mem readPos scopeLen maxLen fuel (i + logItemLenAlign)
      else none

def msgGetNext (mem : Memory) (readPos scopeLen maxLen : Nat) : Option Nat :=
  msgLoop mem readPos scopeLen maxLen (scopeLen + 1) 0

section Write

variable (mem : Memory) (maxLen : Nat) (kernelWrite : Nat → Bool)

/-- The loop of `write_part_log_to_msg`: the items written and whether it returns 0. -/
def writeLoop (readOffEnd : Nat) : Nat → Nat → Nat → List Nat × Bool
  | 0, _, _ => ([], true)
  | fuel + 1, readOff, totalLen =>
      match msgGetNext mem readOff logItemMaxLen maxLen with
      | none => ([], true)
      | some item =>
          if readOff ≤ readOffEnd then
            if kernelWrite item then
              if totalLen + itemLen mem item ≥ maxLen then ([item], true)
              else
                let rest := writeLoop readOffEnd fuel (item + itemLen mem item)
                  (totalLen + itemLen mem item)
                (item :: rest.1, rest.2)
            else ([], false)
          else ([], true)

def writePartLogToMsg (readOff readOffEnd : Nat) : List Nat × Bool :=
  writeLoop mem maxLen kernelWrite readOffEnd (maxLen + 1) readOff 0

def writeLogToMsg (readOff readOffEnd : Nat) : List Nat × Bool :=
  if readOff < readOffEnd then writePartLogToMsg mem maxLen kernelWrite readOff readOffEnd
  else
    let upper := writePartLogToMsg mem maxLen kernelWrite readOff maxLen
    if upper.2 then
      let lower := writePartLogToMsg mem maxLen kernelWrite 0 readOffEnd
      (upper.1 ++ lower.1, lower.2)
    else upper

end Write

/-! ### What the archive finds next -/

section Next

variable {mem : Memory} {len start : Nat}

/-- The window of `msg_get_next` accepts the item at this step. -/
def Passes (mem : Memory) (start step : Nat) : Prop :=
  checkLogItemValidite (itemAt mem (start + 64 * step)) (1024 - 64 * step) = true

theorem passes_iff (mem : Memory) (start step : Nat) :
    Passes mem start step ↔
      (itemAt mem (start + 64 * step)).Sound ∧
        64 * step + itemLen mem (start + 64 * step) ≤ 1024 := by
  unfold Passes itemLen sizeofLogItem
  rw [check_iff]
  refine and_congr_right fun sound => ?_
  have long := sound.long
  omega

theorem msgLoop_succ (mem : Memory) (start scope len fuel i : Nat) :
    msgLoop mem start scope len (fuel + 1) i =
      if i ≤ scope ∧ start + i + 64 < len then
        if checkLogItemValidite (itemAt mem (start + i)) (maxSize (scope - i)) then
          if start + i + 64 + (itemAt mem (start + i)).bufferLen > len then none
          else some (start + i)
        else msgLoop mem start scope len fuel (i + 64)
      else none := rfl

theorem msgLoop_spec (mem : Memory) (start len fuel : Nat) :
    ∀ step, 1024 < 64 * step + 64 * fuel → (∀ earlier < step, ¬Passes mem start earlier) →
      ∀ item, msgLoop mem start 1024 len fuel (64 * step) = some item ↔
        ∃ found, item = start + 64 * found ∧ FirstHit (Passes mem start) found ∧
          item + itemLen mem item ≤ len := by
  have nothing (step : Nat) (before : ∀ earlier < step, ¬Passes mem start earlier)
      (guard : ¬(64 * step ≤ 1024 ∧ start + 64 * step + 64 < len)) (item : Nat) :
      ¬∃ found, item = start + 64 * found ∧ FirstHit (Passes mem start) found ∧
        item + itemLen mem item ≤ len := by
    intro given
    obtain ⟨found, rfl, first, inside⟩ := given
    have passes := (passes_iff mem start found).mp first.here
    have long := passes.1.long
    have later : step ≤ found := Nat.le_of_not_lt fun earlier => before found earlier first.here
    unfold itemLen sizeofLogItem at inside passes
    omega
  induction fuel with
  | zero =>
      intro step enough before item
      exact iff_of_false (by simp [msgLoop]) (nothing step before (by omega) item)
  | succ fuel ih =>
      intro step enough before item
      rw [msgLoop_succ]
      by_cases guard : 64 * step ≤ 1024 ∧ start + 64 * step + 64 < len
      · rw [if_pos guard]
        have size : maxSize (1024 - 64 * step) = 1024 - 64 * step := by
          rw [maxSize_eq]
          omega
        rw [size]
        by_cases passes : Passes mem start step
        · have first : FirstHit (Passes mem start) step := ⟨passes, before⟩
          rw [if_pos (show checkLogItemValidite _ _ = true from passes)]
          have length : start + 64 * step + 64 + (itemAt mem (start + 64 * step)).bufferLen =
              start + 64 * step + itemLen mem (start + 64 * step) := by
            unfold itemLen sizeofLogItem
            omega
          rw [length]
          by_cases beyond : start + 64 * step + itemLen mem (start + 64 * step) > len
          · rw [if_pos beyond]
            apply iff_of_false (by simp)
            intro given
            obtain ⟨found, rfl, hit, inside⟩ := given
            rw [hit.unique first] at inside
            omega
          · rw [if_neg beyond]
            constructor
            · intro same
              obtain rfl := Option.some.inj same
              exact ⟨step, rfl, first, by omega⟩
            · intro given
              obtain ⟨found, rfl, hit, -⟩ := given
              rw [hit.unique first]
        · rw [if_neg (show ¬checkLogItemValidite _ _ = true from passes)]
          have next : 64 * step + 64 = 64 * (step + 1) := by omega
          rw [next]
          refine ih (step + 1) (by omega) (fun earlier below => ?_) item
          rcases Nat.lt_succ_iff_lt_or_eq.mp below with less | rfl
          · exact before earlier less
          · exact passes
      · rw [if_neg guard]
        exact iff_of_false (by simp) (nothing step before guard item)

def archiveNext (mem : Memory) (len start : Nat) : Option Nat :=
  msgGetNext mem start logItemMaxLen len

theorem archiveNext_eq_some (mem : Memory) (len start item : Nat) :
    archiveNext mem len start = some item ↔
      ∃ found, item = start + 64 * found ∧ FirstHit (Passes mem start) found ∧
        item + itemLen mem item ≤ len :=
  msgLoop_spec mem start len 1025 0 (by omega)
    (fun earlier below => absurd below (Nat.not_lt_zero earlier)) item

/-- What a reader that scans to the end finds next. -/
def readerNext (mem : Memory) (len start : Nat) : Option Nat :=
  (getNextLogItem mem len start (len - start) start).1

theorem readerNext_cases (mem : Memory) (ordered : start ≤ len) :
    (∃ found, FirstHit (ItemOnGrid mem len start) found ∧
      readerNext mem len start = some (start + 64 * found)) ∨
    ((∀ found, ¬ItemOnGrid mem len start found) ∧ readerNext mem len start = none) := by
  unfold readerNext
  rcases getNextLogItem_spec mem ordered (Nat.le_refl len) start with
    ⟨found, first, result⟩ | ⟨none, last, result, -⟩
  · exact Or.inl ⟨found, first, by rw [result]⟩
  · exact Or.inr ⟨none, by rw [result]⟩

/-- The gap before an item as the archive needs it: gap and item fit the window, and no
head in the gap looks to the archive like an item. -/
structure GapFits (mem : Memory) (start step : Nat) : Prop where
  window : 64 * step + itemLen mem (start + 64 * step) ≤ logItemMaxLen
  clean : ∀ earlier < step,
    checkLogItemValidite (itemAt mem (start + 64 * earlier)) (logItemMaxLen - 64 * earlier) = false

theorem next_eq_iff (ordered : start ≤ len) :
    readerNext mem len start = archiveNext mem len start ↔
      ∀ step, FirstHit (ItemOnGrid mem len start) step → GapFits mem start step := by
  rcases readerNext_cases mem ordered with ⟨found, first, result⟩ | ⟨none, result⟩
  · rw [result, eq_comm, archiveNext_eq_some]
    constructor
    · intro given
      obtain ⟨step, place, hit, -⟩ := given
      intro other firstOther
      obtain rfl : found = step := by omega
      obtain rfl := firstOther.unique first
      exact ⟨((passes_iff mem start other).mp hit.here).2, fun earlier below =>
        Bool.eq_false_iff.mpr (hit.before earlier below)⟩
    · intro fits
      have gap := fits found first
      refine ⟨found, rfl, ⟨?_, fun earlier below => ?_⟩, first.here.inside⟩
      · exact (passes_iff mem start found).mpr ⟨first.here.sound, gap.window⟩
      · exact Bool.eq_false_iff.mp (gap.clean earlier below)
  · rw [result]
    refine iff_of_true ?_ fun step hit => absurd hit.here (none step)
    cases archive : archiveNext mem len start with
    | none => rfl
    | some item =>
        obtain ⟨found, rfl, hit, inside⟩ := (archiveNext_eq_some mem len start item).mp archive
        have passes := (passes_iff mem start found).mp hit.here
        exact absurd ⟨passes.1, by omega, inside⟩ (none found)

end Next

/-! ### Both scans as walks -/

def itemEnd (mem : Memory) (pos : Nat) : Nat :=
  pos + itemLen mem pos

theorem readerNext_end (mem : Memory) (len : Nat) : readerNext mem len len = none := by
  rcases readerNext_cases mem (Nat.le_refl len) with ⟨found, first, -⟩ | ⟨-, result⟩
  · have inside := first.here.inside
    have long := first.here.long
    omega
  · exact result

theorem parseLoop_walk (mem : Memory) (len fuel : Nat) :
    ∀ start bufLeft, start ≤ len → len ≤ start + bufLeft → len ≤ start + fuel →
      Walk (readerNext mem len) (itemEnd mem) start (parseLoop mem len len fuel start bufLeft).items := by
  induction fuel with
  | zero =>
      intro start bufLeft ordered _ enough
      obtain rfl : start = len := by omega
      exact .done (readerNext_end mem start)
  | succ fuel ih =>
      intro start bufLeft ordered room enough
      unfold parseLoop
      by_cases before : start < len
      · rw [if_pos before]
        rcases getNextLogItem_spec mem ordered (Nat.le_refl len) start with
          ⟨found, first, result⟩ | ⟨none, last, result, -⟩
        · have inside := first.here.inside
          have long := first.here.long
          rw [result]
          simp only
          rw [if_neg (by omega)]
          refine .found ?_ (ih _ _ ?_ ?_ ?_)
          · rw [readerNext, result]
          · exact inside
          · unfold itemEnd
            omega
          · unfold itemEnd
            omega
        · rw [result]
          refine .done ?_
          rw [readerNext, result]
      · obtain rfl : start = len := by omega
        rw [if_neg before]
        exact .done (readerNext_end mem start)

theorem archiveNext_inside {mem : Memory} {len start item : Nat}
    (finds : archiveNext mem len start = some item) :
    IsItem mem len item ∧ start ≤ item := by
  obtain ⟨found, rfl, hit, inside⟩ := (archiveNext_eq_some mem len start item).mp finds
  have passes := (passes_iff mem start found).mp hit.here
  exact ⟨⟨passes.1, by omega, inside⟩, Nat.le_add_right _ _⟩

theorem archiveNext_end {mem : Memory} {len start : Nat} (atEnd : len ≤ start) :
    archiveNext mem len start = none := by
  cases finds : archiveNext mem len start with
  | none => rfl
  | some item =>
      obtain ⟨isItem, after⟩ := archiveNext_inside finds
      have inside := isItem.inside
      have long := isItem.long
      omega

theorem writeLoop_walk (mem : Memory) (len fuel : Nat) :
    ∀ start total, start ≤ len → total ≤ start → len < start + fuel →
      Walk (archiveNext mem len) (itemEnd mem) start
        (writeLoop mem len (fun _ => true) len fuel start total).1 := by
  induction fuel with
  | zero =>
      intro start total ordered _ enough
      omega
  | succ fuel ih =>
      intro start total ordered less enough
      unfold writeLoop
      cases finds : msgGetNext mem start logItemMaxLen len with
      | none => exact .done finds
      | some item =>
          obtain ⟨isItem, after⟩ := archiveNext_inside finds
          have inside := isItem.inside
          have long := isItem.long
          simp only [ordered, if_true]
          by_cases full : total + itemLen mem item ≥ len
          · rw [if_pos full]
            refine .found finds (.done (archiveNext_end ?_))
            unfold itemEnd
            omega
          · rw [if_neg full]
            refine .found finds (ih _ _ inside ?_ ?_)
            · unfold itemEnd
              omega
            · unfold itemEnd
              omega

/-! ### Agreement -/

/-- The places a scan of `[0, len)` looks from: 0 and the end of every item it finds. -/
inductive ScanStart (mem : Memory) (len : Nat) : Nat → Prop where
  | zero : ScanStart mem len 0
  | after {start step : Nat} :
      ScanStart mem len start → FirstHit (ItemOnGrid mem len start) step →
        ScanStart mem len (itemEnd mem (start + 64 * step))

theorem ScanStart.inside {mem : Memory} {len place : Nat} (starts : ScanStart mem len place) :
    place ≤ len := by
  cases starts with
  | zero => exact Nat.zero_le len
  | after _ first => exact first.here.inside

theorem scanStart_iff (mem : Memory) (len place : Nat) :
    ScanStart mem len place ↔ Starts (readerNext mem len) (itemEnd mem) 0 place := by
  constructor
  · intro starts
    induction starts with
    | zero => exact .here
    | @after start step before first ih =>
        refine .after ih ?_
        rcases readerNext_cases mem before.inside with ⟨found, hit, result⟩ | ⟨none, -⟩
        · rw [first.unique hit]
          exact result
        · exact absurd first.here (none step)
  · intro starts
    induction starts with
    | here => exact .zero
    | @after place item _ finds ih =>
        rcases readerNext_cases mem ih.inside with ⟨found, hit, result⟩ | ⟨-, result⟩
        · obtain rfl := Option.some.inj (finds.symm.trans result)
          exact .after ih hit
        · cases finds.symm.trans result

/-- Every gap before an item is one the archive gets over. -/
def GapsFit (mem : Memory) (len : Nat) : Prop :=
  ∀ start step, ScanStart mem len start → FirstHit (ItemOnGrid mem len start) step →
    GapFits mem start step

theorem writeLogToMsg_walk (mem : Memory) (len : Nat) :
    Walk (archiveNext mem len) (itemEnd mem) 0 (writeLogToMsg mem len (fun _ => true) 0 len).1 := by
  unfold writeLogToMsg
  by_cases some : 0 < len
  · rw [if_pos some]
    exact writeLoop_walk mem len (len + 1) 0 0 (Nat.zero_le _) (Nat.le_refl _) (by omega)
  · obtain rfl : len = 0 := by omega
    exact .done (archiveNext_end (Nat.le_refl 0))

/-- The archive writes the items that a reader with room for all of them finds, if and
only if every gap before an item is one it gets over. -/
theorem archive_agrees_iff (mem : Memory) (len count : Nat) (unlimited : len ≤ count) :
    (writeLogToMsg mem len (fun _ => true) 0 len).1 = (parseLogItem mem count len 0 len).items ↔
      GapsFit mem len := by
  have reader : Walk (readerNext mem len) (itemEnd mem) 0
      (parseLogItem mem count len 0 len).items :=
    parseLoop_walk mem len len 0 count (Nat.zero_le _) (by omega) (by omega)
  rw [eq_comm, reader.eq_iff (writeLogToMsg_walk mem len)]
  constructor
  · intro alike start step starts
    exact (next_eq_iff starts.inside).mp (alike start ((scanStart_iff mem len start).mp starts)) step
  · intro fits place starts
    have scanStart := (scanStart_iff mem len place).mpr starts
    exact (next_eq_iff scanStart.inside).mpr fun step => fits place step scanStart

def withItem (pos bufferLen : Nat) (mem : Memory) : Memory := fun place =>
  if place = pos + 32 ∨ place = pos + 33 then 0x5A
  else if place = pos + 40 ∨ place = pos + 42 then UInt8.ofNat bufferLen
  else if place = pos + 41 ∨ place = pos + 43 then UInt8.ofNat (bufferLen / 256)
  else mem place

/-- A new item on the first bytes of an old one of `LOG_ITEM_MAX_LEN` bytes, and an older
intact item after its remains. -/
def overwrittenLog : Memory :=
  withItem 0 64 (withItem 1024 128 fun _ => 0)

/-- Two items with 128 bytes between them that hold none. -/
def gappedLog : Memory :=
  withItem 0 64 (withItem 256 128 fun _ => 0)

/-- The smallest log memory that is registered: both items are found, and archived. -/
theorem archive_agrees_iff_gapped :
    (writeLogToMsg gappedLog 10020 (fun _ => true) 0 10020).1 = [0, 256] ∧
      GapsFit gappedLog 10020 := by
  have archived : (writeLogToMsg gappedLog 10020 (fun _ => true) 0 10020).1 = [0, 256] := by
    decide +kernel
  have found : (parseLogItem gappedLog 10020 10020 0 10020).items = [0, 256] := by
    decide +kernel
  refine ⟨archived, (archive_agrees_iff gappedLog 10020 10020 (Nat.le_refl _)).mp ?_⟩
  rw [archived, found]

/-- The reader finds the older item, the archive gives up before it. -/
theorem archive_loses_older_item :
    (parseLogItem overwrittenLog 10020 10020 0 10020).items = [0, 1024] ∧
      (writeLogToMsg overwrittenLog 10020 (fun _ => true) 0 10020).1 = [0] := by
  decide +kernel

end TzDriver.Tlogger
