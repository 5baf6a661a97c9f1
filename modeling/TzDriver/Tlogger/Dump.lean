/-
The dump of the TEE in the log memory (`update_dumpmsg_offset`, `get_dumpmsg_offset` and
`get_msg_buffer` of `linux/tlogger/tlogger.c`, with `CONFIG_TEE_LOG_DUMP_PATH`).

One scan looks for the places where a dump starts and ends, and a second one writes what lies
between them.  Both look for items in the same way, but the second one begins and ends at
places that the first one has found.
-/

import TzDriver.Lib.Walks
import TzDriver.Tlogger.Archive

namespace TzDriver.Tlogger

open TzDriver.Lib

structure DumpOffset where
  readStart : Nat
  readEnd : Nat
  dumpStartFlag : Bool
  dumpEndFlag : Bool
deriving DecidableEq, Repr

section Offset

/- Whether `strstr` finds `DUMP_START_MAGIC` and `DUMP_END_MAGIC` from the text of an item on. -/
variable (mem : Memory) (bufferMaxLen : Nat) (starts ends : Nat → Bool)

/-- One item, that was looked for from `readOff`. -/
def markDump (offset : DumpOffset) (visit : Nat × Nat) : DumpOffset :=
  if starts visit.2 then { offset with readStart := visit.1, dumpStartFlag := true }
  else if ends visit.2 then { offset with readEnd := visit.1, dumpEndFlag := true }
  else offset

/-- The loop of `update_dumpmsg_offset`. -/
def updateLoop (readOffEnd : Nat) : Nat → Nat → Nat → DumpOffset → DumpOffset
  | 0, _, _, offset => offset
  | fuel + 1, readOff, totalLen, offset =>
      match msgGetNext mem readOff logItemMaxLen bufferMaxLen with
      | none => offset
      | some item =>
          if readOff ≤ readOffEnd then
            let marked := markDump starts ends offset (readOff, item)
            if totalLen + itemLen mem item ≥ bufferMaxLen then marked
            else updateLoop readOffEnd fuel (item + itemLen mem item)
              (totalLen + itemLen mem item) marked
          else offset

def updateDumpmsgOffset (readOff readOffEnd : Nat) (offset : DumpOffset) : DumpOffset :=
  updateLoop mem bufferMaxLen starts ends readOffEnd (bufferMaxLen + 1) readOff 0 offset

/-- The result and the range that is to be written. -/
def getDumpmsgOffset (readStart readEnd : Nat) : Int × DumpOffset :=
  let offset : DumpOffset := ⟨readStart, readEnd, false, false⟩
  let updated :=
    if readStart < readEnd then
      updateDumpmsgOffset mem bufferMaxLen starts ends readStart readEnd offset
    else
      updateDumpmsgOffset mem bufferMaxLen starts ends 0 readEnd
        (updateDumpmsgOffset mem bufferMaxLen starts ends readStart bufferMaxLen offset)
  if updated.dumpStartFlag = false ∨ updated.dumpEndFlag = false then (-1, updated)
  else (0, updated)

/-- `tlogger_store_msg` for the dump path: the range found in `[g_last_read_offset, last_pos]`,
then what is written of it.  The copy of the log memory is taken to have what the scan saw. -/
def storeDump (gLastReadOffset lastPos : Nat) : Int × List Nat :=
  let found := getDumpmsgOffset mem bufferMaxLen starts ends gLastReadOffset lastPos
  if found.1 ≠ 0 then (-1, [])
  else
    (0, (writeLogToMsg mem bufferMaxLen (fun _ => true) found.2.readStart found.2.readEnd).1)

end Offset

/-! ### Both loops as walks -/

section Walks

variable {mem : Memory} {len : Nat} {starts ends : Nat → Bool}

/-- The walk of both loops. -/
abbrev LogVisits (mem : Memory) (len last start : Nat) (visits : List (Nat × Nat)) : Prop :=
  Visits (archiveNext mem len) (itemEnd mem) last start visits

theorem archiveNext_onward : ∀ start item, archiveNext mem len start = some item →
    start < itemEnd mem item := by
  intro start item finds
  obtain ⟨isItem, after⟩ := archiveNext_inside finds
  have long := isItem.long
  unfold itemEnd
  omega

theorem archiveNext_full {start item total : Nat} (less : total ≤ start)
    (finds : archiveNext mem len start = some item) (full : total + itemLen mem item ≥ len) :
    archiveNext mem len (itemEnd mem item) = none := by
  apply archiveNext_end
  have after := (archiveNext_inside finds).2
  unfold itemEnd
  omega

theorem writeLoop_visits (last fuel : Nat) :
    ∀ start total, total ≤ start → len < start + fuel →
      ∃ visits, LogVisits mem len last start visits ∧
        writeLoop mem len (fun _ => true) last fuel start total = (visits.map Prod.snd, true) := by
  induction fuel with
  | zero =>
      intro start total _ enough
      exact ⟨[], .done (archiveNext_end (Nat.le_of_lt enough)), rfl⟩
  | succ fuel ih =>
      intro start total less enough
      unfold writeLoop
      cases finds : msgGetNext mem start logItemMaxLen len with
      | none => exact ⟨[], .done finds, rfl⟩
      | some item =>
          have after := archiveNext_onward start item finds
          by_cases before : start ≤ last
          · simp only [before, if_true]
            by_cases full : total + itemLen mem item ≥ len
            · rw [if_pos full]
              exact ⟨[(start, item)], .found finds before (.done (archiveNext_full less finds full)),
                rfl⟩
            · rw [if_neg full]
              have inside := (archiveNext_inside finds).2
              obtain ⟨visits, walk, written⟩ := ih (itemEnd mem item) (total + itemLen mem item)
                (by unfold itemEnd; omega) (by omega)
              exact ⟨(start, item) :: visits, .found finds before walk, by
                rw [itemEnd] at written
                rw [written]
                rfl⟩
          · simp only [before, if_false]
            exact ⟨[], .past (Nat.lt_of_not_le before), rfl⟩

theorem updateLoop_visits (last fuel : Nat) :
    ∀ start total offset, total ≤ start → len < start + fuel →
      ∃ visits, LogVisits mem len last start visits ∧
        updateLoop mem len starts ends last fuel start total offset =
          visits.foldl (markDump starts ends) offset := by
  induction fuel with
  | zero =>
      intro start total offset _ enough
      exact ⟨[], .done (archiveNext_end (Nat.le_of_lt enough)), rfl⟩
  | succ fuel ih =>
      intro start total offset less enough
      unfold updateLoop
      cases finds : msgGetNext mem start logItemMaxLen len with
      | none => exact ⟨[], .done finds, rfl⟩
      | some item =>
          have after := archiveNext_onward start item finds
          by_cases before : start ≤ last
          · simp only [before, if_true]
            by_cases full : total + itemLen mem item ≥ len
            · rw [if_pos full]
              exact ⟨[(start, item)], .found finds before (.done (archiveNext_full less finds full)),
                rfl⟩
            · rw [if_neg full]
              have inside := (archiveNext_inside finds).2
              obtain ⟨visits, walk, marked⟩ := ih (itemEnd mem item) (total + itemLen mem item)
                (markDump starts ends offset (start, item)) (by unfold itemEnd; omega) (by omega)
              exact ⟨(start, item) :: visits, .found finds before walk, marked⟩
          · simp only [before, if_false]
            exact ⟨[], .past (Nat.lt_of_not_le before), rfl⟩

/-- Any walk over the range tells what the archive writes of it. -/
theorem writePartLogToMsg_of_visits {start last : Nat} {visits : List (Nat × Nat)}
    (walk : LogVisits mem len last start visits) :
    writePartLogToMsg mem len (fun _ => true) start last = (visits.map Prod.snd, true) := by
  obtain ⟨others, second, written⟩ := @writeLoop_visits mem len last (len + 1)
    start 0 (Nat.zero_le _) (by omega)
  rw [walk.unique second]
  exact written

theorem updateDumpmsgOffset_of_visits {start last : Nat} {visits : List (Nat × Nat)}
    (walk : LogVisits mem len last start visits) (offset : DumpOffset) :
    updateDumpmsgOffset mem len starts ends start last offset =
      visits.foldl (markDump starts ends) offset := by
  obtain ⟨others, second, marked⟩ := @updateLoop_visits mem len starts ends last
    (len + 1) start 0 offset (Nat.zero_le _) (by omega)
  rw [walk.unique second]
  exact marked

theorem exists_visits (mem : Memory) (len last start : Nat) :
    ∃ visits, LogVisits mem len last start visits := by
  obtain ⟨visits, walk, _⟩ := @writeLoop_visits mem len last (len + 1)
    start 0 (Nat.zero_le _) (by omega)
  exact ⟨visits, walk⟩

/-- What lies in the range from `first` to `last`, as both scans see it. -/
abbrev LogRange (mem : Memory) (len first last : Nat) (visits : List (Nat × Nat)) : Prop :=
  RoundVisits (archiveNext mem len) (itemEnd mem) len first last visits

theorem exists_range (mem : Memory) (len first last : Nat) :
    ∃ visits, LogRange mem len first last visits := by
  by_cases straight : first < last
  · obtain ⟨visits, walk⟩ := exists_visits mem len last first
    exact ⟨visits, .straight straight walk⟩
  · obtain ⟨upper, walk⟩ := exists_visits mem len len first
    obtain ⟨lower, second⟩ := exists_visits mem len last 0
    exact ⟨upper ++ lower, .round (Nat.le_of_not_lt straight) walk second⟩

theorem writeLogToMsg_of_range {first last : Nat} {visits : List (Nat × Nat)}
    (range : LogRange mem len first last visits) :
    writeLogToMsg mem len (fun _ => true) first last = (visits.map Prod.snd, true) := by
  unfold writeLogToMsg
  cases range with
  | straight before walk => rw [if_pos before, writePartLogToMsg_of_visits walk]
  | round crossed walk second =>
      rw [if_neg (Nat.not_lt_of_le crossed), writePartLogToMsg_of_visits walk,
        writePartLogToMsg_of_visits second, List.map_append]
      rfl

theorem getDumpmsgOffset_of_range {first last : Nat} {visits : List (Nat × Nat)}
    (range : LogRange mem len first last visits) :
    getDumpmsgOffset mem len starts ends first last =
      let updated := visits.foldl (markDump starts ends) ⟨first, last, false, false⟩
      if updated.dumpStartFlag = false ∨ updated.dumpEndFlag = false then (-1, updated)
      else (0, updated) := by
  unfold getDumpmsgOffset
  cases range with
  | straight before walk =>
      dsimp only
      rw [if_pos before, updateDumpmsgOffset_of_visits walk]
  | round crossed walk second =>
      dsimp only
      rw [if_neg (Nat.not_lt_of_le crossed), updateDumpmsgOffset_of_visits walk,
        updateDumpmsgOffset_of_visits second, List.foldl_append]

end Walks

/-! ### The marks -/

section Marks

variable {starts ends : Nat → Bool} {visits : List (Nat × Nat)} {offset : DumpOffset}

theorem markDump_start {visit : Nat × Nat} (starting : starts visit.2 = true) :
    markDump starts ends offset visit =
      { offset with readStart := visit.1, dumpStartFlag := true } :=
  if_pos starting

theorem markDump_end {visit : Nat × Nat} (starting : starts visit.2 = false)
    (ending : ends visit.2 = true) :
    markDump starts ends offset visit =
      { offset with readEnd := visit.1, dumpEndFlag := true } := by
  rw [markDump, starting, ending, if_neg Bool.false_ne_true, if_pos rfl]

theorem markDump_other {visit : Nat × Nat} (starting : starts visit.2 = false)
    (ending : ends visit.2 = false) : markDump starts ends offset visit = offset := by
  rw [markDump, starting, ending, if_neg Bool.false_ne_true, if_neg Bool.false_ne_true]

theorem foldl_keeps_start (starting : ∀ visit ∈ visits, starts visit.2 = false) :
    (visits.foldl (markDump starts ends) offset).readStart = offset.readStart ∧
      (visits.foldl (markDump starts ends) offset).dumpStartFlag = offset.dumpStartFlag := by
  induction visits generalizing offset with
  | nil => exact ⟨rfl, rfl⟩
  | cons visit rest ih =>
      rw [List.forall_mem_cons] at starting
      rw [List.foldl_cons]
      have later := @ih (markDump starts ends offset visit) starting.2
      cases ending : ends visit.2 with
      | false =>
          rw [markDump_other starting.1 ending] at later ⊢
          exact later
      | true =>
          rw [markDump_end starting.1 ending] at later ⊢
          exact later

theorem foldl_keeps (starting : ∀ visit ∈ visits, starts visit.2 = false)
    (ending : ∀ visit ∈ visits, ends visit.2 = false) :
    visits.foldl (markDump starts ends) offset = offset := by
  induction visits with
  | nil => rfl
  | cons visit rest ih =>
      rw [List.forall_mem_cons] at starting ending
      rw [List.foldl_cons, markDump_other starting.1 ending.1]
      exact ih starting.2 ending.2

theorem foldl_flags :
    (visits.foldl (markDump starts ends) offset).dumpStartFlag =
        (offset.dumpStartFlag || visits.any fun visit => starts visit.2) ∧
      (visits.foldl (markDump starts ends) offset).dumpEndFlag =
        (offset.dumpEndFlag || visits.any fun visit => !starts visit.2 && ends visit.2) := by
  induction visits generalizing offset with
  | nil => exact ⟨(Bool.or_false _).symm, (Bool.or_false _).symm⟩
  | cons visit rest ih =>
      rw [List.foldl_cons, List.any_cons, List.any_cons]
      have later := @ih (markDump starts ends offset visit)
      cases starting : starts visit.2 with
      | true =>
          rw [markDump_start starting] at later ⊢
          rw [later.1, later.2]
          constructor
          · rw [Bool.true_or, Bool.or_true]
          · rw [Bool.not_true, Bool.false_and, Bool.false_or]
      | false =>
          cases ending : ends visit.2 with
          | true =>
              rw [markDump_end starting ending] at later ⊢
              rw [later.1, later.2]
              constructor
              · rw [Bool.false_or]
              · rw [Bool.not_false, Bool.and_true, Bool.true_or, Bool.or_true]
          | false =>
              rw [markDump_other starting ending] at later ⊢
              rw [later.1, later.2]
              constructor
              · rw [Bool.false_or]
              · rw [Bool.and_false, Bool.false_or]

theorem foldl_section {before middle after : List (Nat × Nat)} {first last : Nat × Nat}
    (starting : starts first.2 = true) (ending : ends last.2 = true)
    (onlyStart : ∀ visit ∈ middle ++ last :: after, starts visit.2 = false)
    (onlyEnd : ∀ visit ∈ after, ends visit.2 = false) :
    (before ++ first :: (middle ++ last :: after)).foldl (markDump starts ends) offset =
      ⟨first.1, last.1, true, true⟩ := by
  rw [List.forall_mem_append, List.forall_mem_cons] at onlyStart
  obtain ⟨inMiddle, atLast, behind⟩ := onlyStart
  rw [List.foldl_append, List.foldl_cons, markDump_start starting, List.foldl_append,
    List.foldl_cons, foldl_keeps behind onlyEnd, markDump_end atLast ending]
  generalize before.foldl (markDump starts ends) offset = marked
  have kept := @foldl_keeps_start starts ends middle
    { marked with readStart := first.1, dumpStartFlag := true } inMiddle
  rw [kept.1, kept.2]

end Marks

/-- A dump is found where both marks were seen. -/
theorem stored_iff {mem : Memory} {len gLastReadOffset lastPos : Nat} {starts ends : Nat → Bool}
    {visits : List (Nat × Nat)} {offset : DumpOffset}
    (found : getDumpmsgOffset mem len starts ends gLastReadOffset lastPos =
      if (visits.foldl (markDump starts ends) offset).dumpStartFlag = false ∨
          (visits.foldl (markDump starts ends) offset).dumpEndFlag = false then
        (-1, visits.foldl (markDump starts ends) offset)
      else (0, visits.foldl (markDump starts ends) offset))
    (unmarked : offset.dumpStartFlag = false ∧ offset.dumpEndFlag = false) :
    (storeDump mem len starts ends gLastReadOffset lastPos).1 = 0 ↔
      (∃ item ∈ visits.map Prod.snd, starts item = true) ∧
        ∃ item ∈ visits.map Prod.snd, starts item = false ∧ ends item = true := by
  have flags := @foldl_flags starts ends visits offset
  rw [unmarked.1, unmarked.2, Bool.false_or, Bool.false_or] at flags
  have result : (storeDump mem len starts ends gLastReadOffset lastPos).1 = 0 ↔
      (visits.foldl (markDump starts ends) offset).dumpStartFlag = true ∧
        (visits.foldl (markDump starts ends) offset).dumpEndFlag = true := by
    generalize visits.foldl (markDump starts ends) offset = marked at found
    rw [storeDump, found]
    by_cases refused : marked.dumpStartFlag = false ∨ marked.dumpEndFlag = false
    · rw [if_pos refused]
      apply iff_of_false
      · show (-1 : Int) ≠ 0
        decide
      · rintro ⟨started, ended⟩
        rw [started, ended] at refused
        rcases refused with impossible | impossible
        · cases impossible
        · cases impossible
    · rw [if_neg refused]
      rw [not_or, Bool.not_eq_false, Bool.not_eq_false] at refused
      exact iff_of_true rfl refused
  rw [result, flags.1, flags.2, List.any_eq_true, List.any_eq_true]
  simp only [List.mem_map, Bool.and_eq_true, Bool.not_eq_true', exists_exists_and_eq_and]

/-- The dump that is stored is a section of what the archive would write of the whole range: it
is found if an item starts a dump and another one ends it, and then, where the last start comes
before the last end, it has just the items from the one to the other. -/
theorem dump_stored (mem : Memory) (len : Nat) (starts ends : Nat → Bool)
    (gLastReadOffset lastPos : Nat) :
    let items := (writeLogToMsg mem len (fun _ => true) gLastReadOffset lastPos).1
    ((storeDump mem len starts ends gLastReadOffset lastPos).1 = 0 ↔
      (∃ item ∈ items, starts item = true) ∧
        ∃ item ∈ items, starts item = false ∧ ends item = true) ∧
    ∀ before first middle last after, items = before ++ first :: (middle ++ last :: after) →
      starts first = true → ends last = true →
      (∀ item ∈ middle ++ last :: after, starts item = false) →
      (∀ item ∈ after, ends item = false) →
        storeDump mem len starts ends gLastReadOffset lastPos =
          (0, first :: (middle ++ [last])) := by
  obtain ⟨visits, range⟩ := exists_range mem len gLastReadOffset lastPos
  have found := @getDumpmsgOffset_of_range mem len starts ends _ _ visits range
  dsimp only at found ⊢
  rw [writeLogToMsg_of_range range]
  constructor
  · exact stored_iff found ⟨rfl, rfl⟩
  · intro before first middle last after items starting ending onlyStart onlyEnd
    obtain ⟨earlier, from_, rfl, rfl, section_⟩ := List.map_eq_append_iff.mp items
    obtain ⟨start, rest, rfl, rfl, behind⟩ := List.map_eq_cons_iff.mp section_
    obtain ⟨inner, tail, rfl, rfl, close⟩ := List.map_eq_append_iff.mp behind
    obtain ⟨stop, later, rfl, rfl, rfl⟩ := List.map_eq_cons_iff.mp close
    have marked : (earlier ++ start :: (inner ++ stop :: later)).foldl (markDump starts ends)
        ⟨gLastReadOffset, lastPos, false, false⟩ = ⟨start.1, stop.1, true, true⟩ := by
      apply foldl_section starting ending
      · intro visit member
        rw [← List.map_cons, ← List.map_append] at onlyStart
        exact onlyStart visit.2 (List.mem_map_of_mem member)
      · intro visit member
        exact onlyEnd visit.2 (List.mem_map_of_mem member)
    rw [marked] at found
    have written := writeLogToMsg_of_range (range.section_ archiveNext_onward)
    rw [storeDump, found]
    show (0, (writeLogToMsg mem len (fun _ => true) start.1 stop.1).1) = _
    rw [written, List.map_cons, List.map_append]
    rfl

def dumpLog : Memory :=
  withItem 0 64 (withItem 128 64 (withItem 256 64 (withItem 384 64 fun _ => 0)))

/-- The dump begins with the last item of the memory and ends with the first one. -/
theorem dump_stored_round :
    storeDump dumpLog 512 (fun item => item == 384) (fun item => item == 0) 256 128 =
      (0, [384, 0]) := by
  have scanned : (writeLogToMsg dumpLog 512 (fun _ => true) 256 128).1 =
      [256] ++ 384 :: ([] ++ 0 :: [128]) := by decide +kernel
  exact (dump_stored dumpLog 512 _ _ 256 128).2 [256] 384 [] 0 [128] scanned rfl rfl
    (by decide) (by decide)

end TzDriver.Tlogger
