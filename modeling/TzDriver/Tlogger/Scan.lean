/-
`parse_log_item` on arbitrary memory.

The loops are written once more as the code runs them on a 64-bit kernel: the 32-bit
variables wrap, every read names the bytes it needs, and a read outside of the window
that the caller passed, or a loop that has not ended yet, gives `none`.
-/

import TzDriver.Lib.Words
import TzDriver.Tlogger.Items

namespace TzDriver.Tlogger

open TzDriver.Lib

/-- The bytes from `lower` up to `upper`. -/
structure Window where
  lower : Nat
  upper : Nat

section Checked

variable (window : Window) (mem : Memory)

def bytesIn (pos size : Nat) : Option (List UInt8) :=
  if window.lower ≤ pos ∧ pos + size ≤ window.upper then
    some ((List.range size).map fun index => mem (pos + index))
  else none

def itemIn (pos : Nat) : Option LogItem :=
  (bytesIn window mem pos sizeofLogItem).map fun _ => itemAt mem pos

/-- `get_next_log_item` from the loop on. -/
def nextLoopIn (readPos scopeLen : Nat) : Nat → Nat → Nat → Option (Option Nat × Nat)
  | 0, _, _ => none
  | fuel + 1, i, pos =>
      if i + sizeofLogItem + logItemLenAlign ≤ scopeLen then
        (itemIn window mem (readPos + i)).bind fun item =>
          if checkLogItemValidite item (maxSize (scopeLen - i)) then
            some (some (readPos + i), u32 (readPos + i))
          else nextLoopIn readPos scopeLen fuel (u32 (i + logItemLenAlign)) (u32 (readPos + i))
      else some (none, pos)

def getNextLogItemIn (fuel maxLen readPos scopeLen pos : Nat) : Option (Option Nat × Nat) :=
  if u32 (readPos + scopeLen) > maxLen then some (none, pos)
  else nextLoopIn window mem readPos scopeLen fuel 0 pos

/-- What a whole scan did: `Parsed`, with the bytes behind `buf` and the value returned. -/
structure Scanned where
  parsed : Parsed
  copied : List UInt8
  bufWritten : Nat

/-- The loop of `parse_log_item` after `done` was copied. -/
def parseLoopIn (maxLen endPos : Nat) : Nat → Nat → Nat → Scanned → Option Scanned
  | 0, _, _, _ => none
  | fuel + 1, startPos, bufLeft, done =>
      if startPos < endPos then
        (getNextLogItemIn window mem (fuel + 1) maxLen startPos (endPos - startPos) startPos).bind
          fun next =>
            match next with
            | (none, pos) => some { done with parsed := ⟨done.parsed.items, pos, true⟩ }
            | (some item, pos) =>
                let size := u32 (itemLen mem item)
                if bufLeft < size then
                  some { done with parsed := ⟨done.parsed.items, pos, false⟩ }
                else
                  (bytesIn window mem item size).bind fun bytes =>
                    parseLoopIn maxLen endPos fuel (u32 (pos + size)) (bufLeft - size)
                      ⟨⟨done.parsed.items ++ [item], pos, true⟩, done.copied ++ bytes,
                        u32 (done.bufWritten + size)⟩
      else some { done with parsed := ⟨done.parsed.items, startPos, true⟩ }

/-- `parse_log_item` with at most `fuel` rounds of each of its loops. -/
def parseLogItemIn (fuel count maxLen startPos endPos : Nat) : Option Scanned :=
  parseLoopIn window mem maxLen endPos fuel startPos count ⟨⟨[], startPos, true⟩, [], 0⟩

end Checked

/-! ### Reads inside the window -/

theorem bytesIn_eq {window : Window} (mem : Memory) {pos size : Nat}
    (after : window.lower ≤ pos) (before : pos + size ≤ window.upper) :
    bytesIn window mem pos size = some ((List.range size).map fun index => mem (pos + index)) :=
  if_pos ⟨after, before⟩

theorem itemIn_eq {window : Window} (mem : Memory) {pos : Nat} (after : window.lower ≤ pos)
    (before : pos + 64 ≤ window.upper) : itemIn window mem pos = some (itemAt mem pos) := by
  have head : bytesIn window mem pos sizeofLogItem = some _ := bytesIn_eq mem after before
  unfold itemIn
  rw [head, Option.map_some]

section Loops

variable {window : Window} {mem : Memory} {maxLen start stop : Nat}

theorem nextLoopIn_succ (scope fuel i pos : Nat) :
    nextLoopIn window mem start scope (fuel + 1) i pos =
      if i + 64 + 64 ≤ scope then
        (itemIn window mem (start + i)).bind fun item =>
          if checkLogItemValidite item (maxSize (scope - i)) then
            some (some (start + i), u32 (start + i))
          else nextLoopIn window mem start scope fuel (u32 (i + 64)) (u32 (start + i))
      else some (none, pos) := rfl

/-- The loop of the scan ends, reads only inside and finds what `nextLoop` finds. -/
theorem nextLoopIn_eq {scope : Nat} (after : window.lower ≤ start)
    (before : start + scope ≤ window.upper) (small : start + scope < 4294967296) (fuel : Nat) :
    ∀ i pos more, scope < i + 128 + 64 * fuel → fuel ≤ more →
      nextLoopIn window mem start scope (more + 1) i pos =
        some (nextLoop mem start scope fuel i pos) := by
  induction fuel with
  | zero =>
      intro i pos more enough _
      rw [nextLoopIn_succ, if_neg (by omega)]
      rfl
  | succ fuel ih =>
      intro i pos more enough atMost
      obtain ⟨less, rfl⟩ : ∃ less, more = less + 1 := ⟨more - 1, by omega⟩
      rw [nextLoopIn_succ, nextLoop_succ]
      by_cases guard : i + 64 + 64 ≤ scope
      · rw [if_pos guard, if_pos guard, itemIn_eq mem (by omega) (by omega), Option.bind_some,
          u32_of_lt (by omega), u32_of_lt (by omega), ih _ _ less (by omega) (by omega)]
        split
        · rfl
        · rfl
      · rw [if_neg guard, if_neg guard]

theorem getNextLogItemIn_eq (after : window.lower ≤ start) (ordered : start ≤ stop)
    (before : stop ≤ window.upper) (within : stop ≤ maxLen) (small : maxLen < 4294967296)
    {fuel : Nat} (enough : stop - start < fuel) (pos : Nat) :
    getNextLogItemIn window mem fuel maxLen start (stop - start) pos =
      some (getNextLogItem mem maxLen start (stop - start) pos) := by
  obtain ⟨less, rfl⟩ : ∃ less, fuel = less + 1 := ⟨fuel - 1, by omega⟩
  unfold getNextLogItemIn getNextLogItem
  rw [u32_of_lt (by omega), if_neg (by omega), if_neg (by omega)]
  exact nextLoopIn_eq after (by omega) (by omega) _ 0 pos less (by omega) (by omega)

end Loops

/-! ### A scan, item by item -/

section Scans

variable {window : Window} {mem : Memory} {maxLen start stop bufLeft : Nat} {parsed : Parsed}

/-- A scan up to `stop` from `start` with `bufLeft` bytes left for the user. -/
inductive Scans (mem : Memory) (stop : Nat) : Nat → Nat → Parsed → Prop where
  | finished {start bufLeft : Nat} (step : Nat) (inside : start + 64 * step ≤ stop)
      (nothing : ∀ found, ¬ItemOnGrid mem stop start found) :
      Scans mem stop start bufLeft ⟨[], start + 64 * step, true⟩
  | full {start bufLeft : Nat} (found : Nat) (first : FirstHit (ItemOnGrid mem stop start) found)
      (long : bufLeft < itemLen mem (start + 64 * found)) :
      Scans mem stop start bufLeft ⟨[], start + 64 * found, false⟩
  | copied {start bufLeft : Nat} {rest : Parsed} (found : Nat)
      (first : FirstHit (ItemOnGrid mem stop start) found)
      (fits : itemLen mem (start + 64 * found) ≤ bufLeft)
      (later : Scans mem stop (start + 64 * found + itemLen mem (start + 64 * found))
        (bufLeft - itemLen mem (start + 64 * found)) rest) :
      Scans mem stop start bufLeft { rest with items := (start + 64 * found) :: rest.items }

theorem parseLoop_scans (within : stop ≤ maxLen) (fuel : Nat) :
    ∀ start bufLeft, start ≤ stop → stop ≤ start + fuel →
      Scans mem stop start bufLeft (parseLoop mem maxLen stop fuel start bufLeft) := by
  have atEnd (start bufLeft : Nat) (same : start = stop) :
      Scans mem stop start bufLeft ⟨[], start, true⟩ := by
    refine .finished 0 (by omega) fun found item => ?_
    have long := item.long
    have inside := item.inside
    omega
  induction fuel with
  | zero =>
      intro start bufLeft ordered enough
      exact atEnd start bufLeft (by omega)
  | succ fuel ih =>
      intro start bufLeft ordered enough
      unfold parseLoop
      by_cases before : start < stop
      · rw [if_pos before]
        rcases getNextLogItem_spec mem ordered within start with
          ⟨found, first, result⟩ | ⟨nothing, last, result, place⟩
        · rw [result]
          have long := first.here.long
          have inside := first.here.inside
          by_cases short : bufLeft < itemLen mem (start + 64 * found)
          · simp only [if_pos short]
            exact .full found first short
          · simp only [if_neg short]
            exact .copied found first (by omega) (ih _ _ inside (by omega))
        · rw [result]
          rcases place with rfl | ⟨step, rfl, inside⟩
          · exact .finished 0 (by omega) nothing
          · exact .finished step inside nothing
      · rw [if_neg before]
        exact atEnd start bufLeft (by omega)

theorem parseLogItem_scans (ordered : start ≤ stop) (within : stop ≤ maxLen) (count : Nat) :
    Scans mem stop start count (parseLogItem mem count maxLen start stop) :=
  parseLoop_scans within stop start count ordered (by omega)

/-- Where the scan looks for its next item after `items`. -/
def scanStart (mem : Memory) (start : Nat) : List Nat → Nat
  | [] => start
  | item :: rest => scanStart mem (item + itemLen mem item) rest

theorem bytesOf_cons (mem : Memory) (item : Nat) (rest : List Nat) :
    bytesOf mem (item :: rest) = itemLen mem item + bytesOf mem rest := rfl

theorem Scans.items_valid (scan : Scans mem stop start bufLeft parsed) :
    ∀ item ∈ parsed.items, start ≤ item ∧ IsItem mem stop item := by
  induction scan with
  | finished step inside nothing =>
      intro item impossible
      cases impossible
  | full found first long =>
      intro item impossible
      cases impossible
  | copied found first fits later ih =>
      intro item member
      rcases List.mem_cons.mp member with rfl | further
      · exact ⟨by omega, first.here⟩
      · obtain ⟨after, valid⟩ := ih item further
        exact ⟨by omega, valid⟩

theorem Scans.items_apart (scan : Scans mem stop start bufLeft parsed) :
    parsed.items.Pairwise fun first second => first + itemLen mem first ≤ second := by
  induction scan with
  | finished step inside nothing => exact .nil
  | full found first long => exact .nil
  | copied found first fits later ih =>
      refine .cons ?_ ih
      intro item member
      exact (later.items_valid item member).1

theorem Scans.bytes_le (scan : Scans mem stop start bufLeft parsed) :
    bytesOf mem parsed.items ≤ bufLeft := by
  induction scan with
  | finished step inside nothing => exact Nat.zero_le _
  | full found first long => exact Nat.zero_le _
  | copied found first fits later ih =>
      rw [bytesOf_cons]
      omega

/-- The scan stops early exactly at the first further item that is too long. -/
theorem Scans.full_iff (scan : Scans mem stop start bufLeft parsed) :
    parsed.userBufferLeft = false ↔
      ∃ found, FirstHit (ItemOnGrid mem stop (scanStart mem start parsed.items)) found ∧
        bufLeft - bytesOf mem parsed.items <
          itemLen mem (scanStart mem start parsed.items + 64 * found) := by
  induction scan with
  | finished step inside nothing =>
      refine iff_of_false (by intro impossible; cases impossible) ?_
      rintro ⟨found, first, _⟩
      exact nothing found first.here
  | full found first long => exact iff_of_true rfl ⟨found, first, long⟩
  | @copied start bufLeft rest found first fits later ih =>
      rw [bytesOf_cons, Nat.sub_add_eq]
      exact ih

theorem Scans.full_readOff (scan : Scans mem stop start bufLeft parsed)
    (full : parsed.userBufferLeft = false) {found : Nat}
    (first : FirstHit (ItemOnGrid mem stop (scanStart mem start parsed.items)) found) :
    parsed.readOff = scanStart mem start parsed.items + 64 * found := by
  induction scan with
  | finished step inside nothing => cases full
  | full other firstOther long => rw [first.unique firstOther]; rfl
  | copied _ _ _ later ih => exact ih full first

theorem Scans.finished_readOff (scan : Scans mem stop start bufLeft parsed)
    (finished : parsed.userBufferLeft = true) :
    start ≤ parsed.readOff ∧ parsed.readOff ≤ stop ∧
      ∃ step, parsed.readOff = scanStart mem start parsed.items + 64 * step ∧
        ∀ found, ¬ItemOnGrid mem stop (scanStart mem start parsed.items) found := by
  induction scan with
  | finished step inside nothing => exact ⟨Nat.le_add_right _ _, inside, step, rfl, nothing⟩
  | full found first long => cases finished
  | copied found first fits later ih =>
      obtain ⟨after, inside, rest⟩ := ih finished
      have forward := Nat.le_trans (Nat.le_add_right _ _) after
      exact ⟨Nat.le_trans (Nat.le_add_right _ _) forward, inside, rest⟩

end Scans

/-! ### The code's loop against the scan -/

section Whole

variable {window : Window} {mem : Memory} {maxLen start stop : Nat}

def Scanned.append (mem : Memory) (done : Scanned) (rest : Parsed) : Scanned :=
  { parsed := { rest with items := done.parsed.items ++ rest.items }
    copied := done.copied ++ rest.items.flatMap (itemBytes mem)
    bufWritten := done.bufWritten + bytesOf mem rest.items }

theorem Scanned.append_nil (mem : Memory) (done : Scanned) (readOff : Nat) (left : Bool) :
    done.append mem ⟨[], readOff, left⟩ =
      { done with parsed := ⟨done.parsed.items, readOff, left⟩ } := by
  unfold Scanned.append
  rw [List.append_nil, List.flatMap_nil, List.append_nil]
  rfl

theorem Scanned.append_cons (mem : Memory) (done : Scanned) (item : Nat) (rest : Parsed)
    (pos : Nat) :
    done.append mem { rest with items := item :: rest.items } =
      Scanned.append mem
        ⟨⟨done.parsed.items ++ [item], pos, true⟩, done.copied ++ itemBytes mem item,
          done.bufWritten + itemLen mem item⟩ rest := by
  unfold Scanned.append
  rw [bytesOf_cons, List.flatMap_cons, List.append_assoc, List.append_assoc, Nat.add_assoc]
  rfl

theorem parseLoopIn_eq (upper : window.upper = stop) (within : stop ≤ maxLen)
    (small : maxLen < 4294967296) (fuel : Nat) :
    ∀ start bufLeft done more, window.lower ≤ start → start ≤ stop → stop ≤ start + fuel →
      fuel ≤ more → done.bufWritten ≤ start →
      parseLoopIn window mem maxLen stop (more + 1) start bufLeft done =
        some (done.append mem (parseLoop mem maxLen stop fuel start bufLeft)) := by
  induction fuel with
  | zero =>
      intro start bufLeft done more _ ordered enough _ _
      unfold parseLoopIn parseLoop
      rw [if_neg (by omega), done.append_nil]
  | succ fuel ih =>
      intro start bufLeft done more after ordered enough atMost written
      obtain ⟨less, rfl⟩ : ∃ less, more = less + 1 := ⟨more - 1, by omega⟩
      unfold parseLoopIn parseLoop
      by_cases before : start < stop
      · rw [if_pos before, if_pos before, getNextLogItemIn_eq after ordered (by omega) within small
          (by omega), Option.bind_some]
        rcases getNextLogItem_spec mem ordered within start with
          ⟨found, first, result⟩ | ⟨nothing, last, result, place⟩
        · rw [result]
          have long := first.here.long
          have short := first.here.short
          have inside := first.here.inside
          have size : u32 (itemLen mem (start + 64 * found)) = itemLen mem (start + 64 * found) :=
            u32_of_lt (by omega)
          simp only [size]
          by_cases full : bufLeft < itemLen mem (start + 64 * found)
          · rw [if_pos full, if_pos full, done.append_nil]
          · rw [if_neg full, if_neg full, bytesIn_eq mem (by omega) (by omega), Option.bind_some,
              u32_of_lt (by omega), u32_of_lt (by omega),
              ih _ _ _ less (by omega) inside (by omega) (by omega) (by simp only; omega)]
            exact congrArg some (done.append_cons mem _ _ _).symm
        · rw [result, done.append_nil]
      · rw [if_neg before, if_neg before, done.append_nil]

end Whole

/-! ### A safe scan -/

/-- `check_log_item_validite` accepts what stands at `pos`, before `stop`. -/
def Accepted (mem : Memory) (stop pos : Nat) : Prop :=
  checkLogItemValidite (itemAt mem pos) (maxSize (stop - pos)) = true

/-- What a scan of `[start, stop)` copies and where it stops.  Behind the copied items it
looks at the places `scanStart mem start parsed.items + 64 * step`. -/
structure ScanSafe (mem : Memory) (count start stop : Nat) (parsed : Parsed) : Prop where
  bounded : bytesOf mem parsed.items ≤ count
  valid : ∀ item ∈ parsed.items,
    start ≤ item ∧ item + itemLen mem item ≤ stop ∧ Accepted mem stop item
  apart : parsed.items.Pairwise fun first second => first + itemLen mem first ≤ second
  full : parsed.userBufferLeft = false ↔
    ∃ found,
      FirstHit (fun step =>
        Accepted mem stop (scanStart mem start parsed.items + 64 * step)) found ∧
      count - bytesOf mem parsed.items <
        itemLen mem (scanStart mem start parsed.items + 64 * found)
  fullAt : parsed.userBufferLeft = false → ∀ found,
    FirstHit (fun step => Accepted mem stop (scanStart mem start parsed.items + 64 * step)) found →
      parsed.readOff = scanStart mem start parsed.items + 64 * found
  finished : parsed.userBufferLeft = true →
    start ≤ parsed.readOff ∧ parsed.readOff ≤ stop ∧
      (∃ step, parsed.readOff = scanStart mem start parsed.items + 64 * step) ∧
      ∀ step, ¬Accepted mem stop (parsed.readOff + 64 * step)

section Safe

variable {mem : Memory} {start stop count : Nat} {parsed : Parsed}

theorem accepted_onGrid (mem : Memory) (stop start : Nat) :
    (fun step => Accepted mem stop (start + 64 * step)) = ItemOnGrid mem stop start := by
  funext step
  exact propext (check_isItem mem stop (start + 64 * step))

theorem Scans.safe (scan : Scans mem stop start count parsed) :
    ScanSafe mem count start stop parsed := by
  refine
    { bounded := scan.bytes_le
      valid := ?_
      apart := scan.items_apart
      full := ?_
      fullAt := ?_
      finished := ?_ }
  · intro item member
    obtain ⟨after, valid⟩ := scan.items_valid item member
    exact ⟨after, valid.inside, (check_isItem mem stop item).mpr valid⟩
  · rw [accepted_onGrid]
    exact scan.full_iff
  · intro full found first
    rw [accepted_onGrid] at first
    exact scan.full_readOff full first
  · intro finished
    obtain ⟨after, inside, step, place, nothing⟩ := scan.finished_readOff finished
    refine ⟨after, inside, ⟨step, place⟩, ?_⟩
    intro further accepted
    apply nothing (step + further)
    have valid := (check_isItem mem stop _).mp accepted
    rw [place, Nat.add_assoc, ← Nat.mul_add] at valid
    exact valid

/-- On any memory `parse_log_item` ends, reads only inside the window it was given, and
scans it safely. -/
theorem parseLogItem_safe (mem : Memory) (count maxLen start stop : Nat) (ordered : start ≤ stop)
    (within : stop ≤ maxLen) (small : maxLen < 4294967296) :
    ∃ parsed,
      (∀ fuel, stop < fuel →
        parseLogItemIn ⟨start, stop⟩ mem fuel count maxLen start stop =
          some ⟨parsed, parsed.items.flatMap (itemBytes mem), bytesOf mem parsed.items⟩) ∧
      ScanSafe mem count start stop parsed := by
  refine ⟨parseLogItem mem count maxLen start stop, ?_,
    (parseLogItem_scans ordered within count).safe⟩
  intro fuel enough
  obtain ⟨less, rfl⟩ : ∃ less, fuel = less + 1 := ⟨fuel - 1, by omega⟩
  unfold parseLogItemIn
  rw [parseLoopIn_eq rfl within small stop start count _ less (Nat.le_refl _) ordered
    (Nat.le_add_left stop start) (by omega) (Nat.zero_le _)]
  unfold Scanned.append
  rw [List.nil_append, List.nil_append, Nat.zero_add]
  rfl

end Safe

def oneItemMemory : Memory := fun place =>
  if place = 32 ∨ place = 33 then 0x5A
  else if place = 40 ∨ place = 42 then 64
  else 0

theorem parseLogItem_safe_one :
    (0 ≤ 200 ∧ 200 ≤ 256 ∧ 256 < 4294967296) ∧
      ∃ parsed,
        (∀ fuel, 200 < fuel →
          parseLogItemIn ⟨0, 200⟩ oneItemMemory fuel 100 256 0 200 =
            some ⟨parsed, parsed.items.flatMap (itemBytes oneItemMemory),
              bytesOf oneItemMemory parsed.items⟩) ∧
        ScanSafe oneItemMemory 100 0 200 parsed :=
  ⟨by decide, parseLogItem_safe oneItemMemory 100 256 0 200 (by decide) (by decide) (by decide)⟩

end TzDriver.Tlogger
