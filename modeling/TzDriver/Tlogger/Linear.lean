/-
A read with an append between its copy of the flag and its parse of the buffer.

The parse takes the end position from the copy and the lap counter from the flag as it
is by then.  The outcome is that of an atomic read when this mixture does no harm.
-/

import TzDriver.Tlogger.Stream

namespace TzDriver.Tlogger

/-- What the caller and the next read can tell of a read. -/
structure Outcome where
  ret : Int
  data : List (List UInt8)
  reader : Reader
deriving DecidableEq

def ReadResult.outcome (result : ReadResult) (mem : Memory) : Outcome :=
  ⟨result.ret, result.items.map (itemBytes mem), result.reader⟩

namespace Stream

variable (stream : Stream) (bytes : List UInt8) (tail : Memory) (count : Nat)

/-- The read that copies the flag before the append and parses after it. -/
def splitRead : Outcome :=
  (processTloggerRead stream.bufferMaxLen stream.flag (stream.append bytes tail).flag
    (stream.append bytes tail).mem stream.reader count).outcome (stream.append bytes tail).mem

def readBefore : Outcome :=
  (stream.result count).outcome stream.mem

def readAfter : Outcome :=
  ((stream.append bytes tail).result count).outcome (stream.append bytes tail).mem

/-- The cases in which copy and flag may be mixed. -/
inductive MixHarmless : Prop where
  /-- the copied flag already ends the read -/
  | noParse : count < logItemMaxLen ∨
      (getLastReadPos stream.bufferMaxLen stream.flag stream.reader).2 = false → MixHarmless
  /-- reader and append stay in one lap -/
  | sameLap : stream.flag.lastPos + bytes.length ≤ stream.flag.maxLen →
      stream.flag.writeLoops = stream.reader.rLoops → MixHarmless
  /-- the reader's position is above the writer's, and none of the bytes that the append
  writes was or is an item there -/
  | above : stream.flag.lastPos + bytes.length ≤ stream.flag.maxLen →
      stream.flag.writeLoops ≤ nextLap stream.reader.rLoops →
      stream.flag.lastPos ≤ stream.reader.rOff →
      (∀ step, stream.reader.rOff + 64 * step < stream.flag.lastPos + bytes.length →
        ¬ItemOnGrid stream.mem stream.flag.maxLen stream.reader.rOff step ∧
          ¬ItemOnGrid (stream.append bytes tail).mem stream.flag.maxLen stream.reader.rOff step) →
      MixHarmless
  /-- the new lap ends where the old one did -/
  | sameEnd : stream.flag.maxLen < stream.flag.lastPos + bytes.length →
      bytes.length = stream.flag.lastPos → MixHarmless

end Stream

/-! ### What a parse depends on -/

section Congr

variable {mem after : Memory}

theorem nextLoop_congr {readPos scope : Nat}
    (same : ∀ step, IsItem after (readPos + scope) (readPos + 64 * step) ↔
      IsItem mem (readPos + scope) (readPos + 64 * step)) (fuel : Nat) :
    ∀ step pos, nextLoop after readPos scope fuel (64 * step) pos =
      nextLoop mem readPos scope fuel (64 * step) pos := by
  induction fuel with
  | zero =>
      intro step pos
      rfl
  | succ fuel ih =>
      intro step pos
      have next : 64 * step + 64 = 64 * (step + 1) := by omega
      rw [nextLoop_succ, nextLoop_succ, next, ih]
      by_cases guard : 64 * (step + 1) + 64 ≤ scope
      · have left : scope - 64 * step = readPos + scope - (readPos + 64 * step) := by omega
        have check : checkLogItemValidite (itemAt after (readPos + 64 * step))
            (maxSize (scope - 64 * step)) = checkLogItemValidite (itemAt mem (readPos + 64 * step))
              (maxSize (scope - 64 * step)) := by
          rw [left, Bool.eq_iff_iff, check_isItem, check_isItem]
          exact same step
        rw [check]
      · rw [if_neg guard, if_neg guard]

theorem getNextLogItem_congr {maxLen start stop : Nat} (ordered : start ≤ stop)
    (same : ∀ step, ItemOnGrid after stop start step ↔ ItemOnGrid mem stop start step) (pos : Nat) :
    getNextLogItem after maxLen start (stop - start) pos =
      getNextLogItem mem maxLen start (stop - start) pos := by
  have reaches : start + (stop - start) = stop := by omega
  unfold getNextLogItem
  split
  · rfl
  · refine nextLoop_congr (fun step => ?_) _ 0 pos
    rw [reaches]
    exact same step

/-- Equal bytes hold equal items. -/
theorem IsItem.congr_below {pos stop : Nat}
    (same : ∀ place, pos ≤ place → place < stop → after place = mem place) :
    IsItem after stop pos ↔ IsItem mem stop pos := by
  by_cases inside : pos + 64 ≤ stop
  · exact IsItem.congr fun offset below => same _ (by omega) (by omega)
  · constructor
    · intro item
      have reach := item.inside
      have long := item.long
      omega
    · intro item
      have reach := item.inside
      have long := item.long
      omega

/-- Two parses that copy the same items with the same bytes. -/
structure ParsesAlike (after mem : Memory) (parsed other : Parsed) : Prop where
  same : parsed = other
  bytes : parsed.items.map (itemBytes after) = parsed.items.map (itemBytes mem)
  lens : parsed.items.map (itemLen after) = parsed.items.map (itemLen mem)

/-- The bytes below `agree` may differ where neither memory has an item on the grid. -/
theorem parseLoop_congr {maxLen stop : Nat} (within : stop ≤ maxLen) (fuel : Nat) :
    ∀ start agree bufLeft,
      (∀ place, agree ≤ place → place < stop → after place = mem place) →
      (∀ step, start + 64 * step < agree →
        ¬ItemOnGrid mem stop start step ∧ ¬ItemOnGrid after stop start step) →
      ParsesAlike after mem (parseLoop after maxLen stop fuel start bufLeft)
        (parseLoop mem maxLen stop fuel start bufLeft) := by
  induction fuel with
  | zero =>
      intro start agree bufLeft same clean
      exact ⟨rfl, rfl, rfl⟩
  | succ fuel ih =>
      intro start agree bufLeft same clean
      by_cases before : start < stop
      · have ordered := Nat.le_of_lt before
        have alike (step : Nat) :
            ItemOnGrid after stop start step ↔ ItemOnGrid mem stop start step := by
          rcases Nat.lt_or_ge (start + 64 * step) agree with below | above
          · exact iff_of_false (clean step below).2 (clean step below).1
          · exact IsItem.congr_below fun place later => same place (by omega)
        rw [parseLoop_succ _ _ _ _ _ _ before, parseLoop_succ _ _ _ _ _ _ before,
          getNextLogItem_congr ordered alike]
        rcases getNextLogItem_spec mem ordered within start with
          ⟨found, first, result⟩ | ⟨-, last, result, -⟩
        · have inside := first.here.inside
          have above : agree ≤ start + 64 * found :=
            Nat.le_of_not_lt fun below => (clean found below).1 first.here
          have content : itemBytes after (start + 64 * found) = itemBytes mem (start + 64 * found) :=
            itemBytes_congr fun offset below => same _ (by omega) (by omega)
          have length : itemLen after (start + 64 * found) = itemLen mem (start + 64 * found) := by
            rw [← length_itemBytes, content, length_itemBytes]
          rw [result]
          simp only [length]
          by_cases room : bufLeft < itemLen mem (start + 64 * found)
          · rw [if_pos room, if_pos room]
            exact ⟨rfl, rfl, rfl⟩
          · rw [if_neg room, if_neg room]
            obtain ⟨rest, bytes, lens⟩ := ih (start + 64 * found + itemLen mem (start + 64 * found))
              (start + 64 * found + itemLen mem (start + 64 * found))
              (bufLeft - itemLen mem (start + 64 * found))
              (fun place later below => same place (by omega) below)
              (fun step below => absurd below (by omega))
            refine ⟨?_, ?_, ?_⟩
            · rw [rest]
            · simp only [List.map_cons, content, bytes]
            · simp only [List.map_cons, length, lens]
        · rw [result]
          exact ⟨rfl, rfl, rfl⟩
      · unfold parseLoop
        rw [if_neg before, if_neg before]
        exact ⟨rfl, rfl, rfl⟩

theorem parseLogItem_congr {maxLen stop : Nat} (within : stop ≤ maxLen) (count start : Nat)
    (same : ∀ place, start ≤ place → place < stop → after place = mem place) :
    ParsesAlike after mem (parseLogItem after count maxLen start stop)
      (parseLogItem mem count maxLen start stop) :=
  parseLoop_congr within stop start start count same fun step below => absurd below (by omega)

theorem ParsesAlike.bytesOf_eq {parsed other : Parsed} (alike : ParsesAlike after mem parsed other) :
    bytesOf after parsed.items = bytesOf mem other.items := by
  rw [bytesOf, alike.lens, alike.same, bytesOf]

end Congr

/-! ### Reads that agree -/

section Agree

variable {mem after : Memory} {flag other : LogBufferFlag} {reader : Reader} {count : Nat}

theorem trigger_sameLap {lastPos : Nat} (loops : flag.writeLoops = reader.rLoops)
    (otherLoops : other.writeLoops = reader.rLoops) (maxLen : other.maxLen = flag.maxLen)
    (within : lastPos ≤ flag.maxLen) (same : ∀ place < lastPos, after place = mem place) :
    (triggerParseLog after other count lastPos reader).outcome after =
      (triggerParseLog mem flag count lastPos reader).outcome mem := by
  unfold triggerParseLog
  rw [if_pos loops, if_pos otherLoops, maxLen]
  have alike := parseLogItem_congr within count reader.rOff
    fun place _ below => same place below
  simp only [ReadResult.outcome, alike.bytesOf_eq, alike.bytes]
  rw [alike.same]

theorem trigger_above {lastPos agree : Nat} (loops : flag.writeLoops ≠ reader.rLoops)
    (notLapped : resetLapped flag lastPos reader = reader)
    (sameLoops : other.writeLoops = flag.writeLoops) (maxLen : other.maxLen = flag.maxLen)
    (within : lastPos ≤ flag.maxLen) (same : ∀ place < lastPos, after place = mem place)
    (sameAbove : ∀ place, agree ≤ place → after place = mem place)
    (clean : ∀ step, reader.rOff + 64 * step < agree →
      ¬ItemOnGrid mem flag.maxLen reader.rOff step ∧ ¬ItemOnGrid after flag.maxLen reader.rOff step) :
    (triggerParseLog after other count lastPos reader).outcome after =
      (triggerParseLog mem flag count lastPos reader).outcome mem := by
  have notLappedThen : resetLapped other lastPos reader = reader := by
    unfold resetLapped at notLapped ⊢
    rw [sameLoops]
    exact notLapped
  have upper : ParsesAlike after mem (parseLogItem after count flag.maxLen reader.rOff flag.maxLen)
      (parseLogItem mem count flag.maxLen reader.rOff flag.maxLen) :=
    parseLoop_congr (Nat.le_refl _) flag.maxLen reader.rOff agree count
      (fun place later _ => sameAbove place later) clean
  unfold triggerParseLog
  rw [if_neg loops, if_neg (by rw [sameLoops]; exact loops), notLapped, notLappedThen, maxLen,
    sameLoops]
  simp only [upper.bytesOf_eq]
  have lower := parseLogItem_congr within
    (count - bytesOf mem (parseLogItem mem count flag.maxLen reader.rOff flag.maxLen).items) 0
    fun place _ below => same place below
  rw [upper.same]
  split
  · simp only [ReadResult.outcome, List.map_append, lower.bytesOf_eq, lower.bytes]
    rw [← upper.same, upper.bytes, upper.same, lower.same]
  · simp only [ReadResult.outcome]
    rw [← upper.same, upper.bytes, upper.same]

end Agree

theorem getLastReadPos_true {bufferMaxLen : Nat} {flag : LogBufferFlag} {reader : Reader}
    (reads : (getLastReadPos bufferMaxLen flag reader).2 = true) :
    bufferMaxLen ≤ logBufferMaxLen ∧
      ¬(flag.lastPos = reader.rOff ∧ flag.writeLoops = reader.rLoops) ∧
      flag.lastPos ≤ flag.maxLen ∧ flag.maxLen ≤ bufferMaxLen ∧ reader.rOff ≤ flag.maxLen := by
  unfold getLastReadPos at reads
  split_ifs at reads with tooLong caughtUp badFlag badReader
  exact ⟨by omega, caughtUp, by omega, by omega, by omega⟩

theorem processTloggerRead_parses {bufferMaxLen count : Nat} {copied flag : LogBufferFlag}
    {mem : Memory} {reader : Reader} (room : logItemMaxLen ≤ count)
    (reads : (getLastReadPos bufferMaxLen copied reader).2 = true) :
    processTloggerRead bufferMaxLen copied flag mem reader count =
      triggerParseLog mem flag count copied.lastPos reader := by
  unfold processTloggerRead
  rw [if_neg (Nat.not_lt_of_le room)]
  split
  · next result =>
      rw [result] at reads
      cases reads
  · rfl

theorem processTloggerRead_refused {bufferMaxLen count : Nat} {copied : LogBufferFlag}
    {reader : Reader}
    (refused : count < logItemMaxLen ∨ (getLastReadPos bufferMaxLen copied reader).2 = false) :
    ∃ ret, ∀ flag mem, processTloggerRead bufferMaxLen copied flag mem reader count =
      ⟨ret, [], reader⟩ := by
  unfold processTloggerRead
  by_cases small : count < logItemMaxLen
  · exact ⟨-einval, fun flag mem => if_pos small⟩
  · have notRead := refused.resolve_left small
    refine ⟨(getLastReadPos bufferMaxLen copied reader).1, fun flag mem => ?_⟩
    rw [if_neg small]
    split
    · next result => rw [result]
    · next result =>
        rw [result] at notRead
        cases notRead

namespace Stream

variable {stream : Stream} {bytes : List UInt8} {tail : Memory} {count : Nat}

theorem append_fits (fits : stream.flag.lastPos + bytes.length ≤ stream.flag.maxLen) :
    (stream.append bytes tail).flag =
        { stream.flag with lastPos := stream.flag.lastPos + bytes.length } ∧
      (stream.append bytes tail).mem =
        store stream.mem stream.flag.lastPos bytes.length (bytesMemory bytes) := by
  unfold append
  rw [if_pos fits]
  exact ⟨rfl, rfl⟩

theorem append_wraps (tail : Memory) (wraps : stream.flag.maxLen < stream.flag.lastPos + bytes.length) :
    (stream.append bytes tail).flag =
      ⟨0 + bytes.length, nextLap stream.flag.writeLoops, stream.flag.maxLen⟩ := by
  unfold append
  rw [if_neg (Nat.not_le_of_lt wraps)]
  rfl

theorem append_frame (stream : Stream) (bytes : List UInt8) (tail : Memory) :
    (stream.append bytes tail).bufferMaxLen = stream.bufferMaxLen ∧
      (stream.append bytes tail).reader = stream.reader := by
  unfold append
  split
  · exact ⟨rfl, rfl⟩
  · exact ⟨rfl, rfl⟩

/-- A new lap that ends where the old one did: the read is one after the append. -/
theorem splitRead_sameEnd (room : logItemMaxLen ≤ count)
    (reads : (getLastReadPos stream.bufferMaxLen stream.flag stream.reader).2 = true)
    (wraps : stream.flag.maxLen < stream.flag.lastPos + bytes.length)
    (sameEnd : bytes.length = stream.flag.lastPos) :
    stream.splitRead bytes tail count = stream.readAfter bytes tail count := by
  obtain ⟨registered, -, lastPos, maxLen, rOff⟩ := getLastReadPos_true reads
  obtain ⟨bufferMaxLen, reader⟩ := append_frame stream bytes tail
  have flag := append_wraps tail wraps
  rw [Nat.zero_add, sameEnd] at flag
  unfold splitRead readAfter result
  rw [processTloggerRead_parses room reads, bufferMaxLen, reader]
  by_cases caughtUp : stream.flag.lastPos = stream.reader.rOff ∧
      nextLap stream.flag.writeLoops = stream.reader.rLoops
  · -- the read after the append finds nothing new, and so does the parse
    have refused : (getLastReadPos stream.bufferMaxLen (stream.append bytes tail).flag
        stream.reader) = (0, false) := by
      unfold getLastReadPos
      rw [if_neg (Nat.not_lt_of_le registered), flag, if_pos caughtUp]
    unfold processTloggerRead
    rw [if_neg (Nat.not_lt_of_le room), refused]
    unfold triggerParseLog
    rw [flag, if_pos caughtUp.2, caughtUp.1]
    have nothing : parseLogItem (stream.append bytes tail).mem count stream.flag.maxLen
        stream.reader.rOff stream.reader.rOff = ⟨[], stream.reader.rOff, true⟩ := by
      unfold parseLogItem
      cases stream.reader.rOff with
      | zero => rfl
      | succ place =>
          unfold parseLoop
          rw [if_neg (Nat.lt_irrefl _)]
    rw [nothing]
    rfl
  · have readsAfter : (getLastReadPos stream.bufferMaxLen (stream.append bytes tail).flag
        stream.reader).2 = true := by
      unfold getLastReadPos
      rw [if_neg (Nat.not_lt_of_le registered), flag]
      dsimp only
      rw [if_neg caughtUp, if_neg (by omega), if_neg (by omega)]
    rw [processTloggerRead_parses room readsAfter, flag]

/-- A read with an append between its copy of the flag and its parse has the outcome of
a read before or of a read after the append, when mixing the two does no harm. -/
theorem split_read_atomic (stream : Stream) (bytes : List UInt8) (tail : Memory) (count : Nat)
    (harmless : stream.MixHarmless bytes tail count) :
    stream.splitRead bytes tail count = stream.readBefore count ∨
      stream.splitRead bytes tail count = stream.readAfter bytes tail count := by
  by_cases refused : count < logItemMaxLen ∨
      (getLastReadPos stream.bufferMaxLen stream.flag stream.reader).2 = false
  · left
    obtain ⟨ret, result⟩ := processTloggerRead_refused refused
    unfold splitRead readBefore Stream.result
    rw [result, result]
    rfl
  · have room : logItemMaxLen ≤ count := Nat.le_of_not_lt fun small => refused (Or.inl small)
    have reads : (getLastReadPos stream.bufferMaxLen stream.flag stream.reader).2 = true :=
      Bool.eq_true_of_not_eq_false fun no => refused (Or.inr no)
    obtain ⟨-, -, lastPos, -, -⟩ := getLastReadPos_true reads
    have below (fits : stream.flag.lastPos + bytes.length ≤ stream.flag.maxLen) :
        ∀ place < stream.flag.lastPos, (stream.append bytes tail).mem place = stream.mem place := by
      intro place under
      rw [(append_fits fits).2]
      exact store_outside (Or.inl under)
    cases harmless with
    | noParse no => exact absurd no refused
    | sameLap fits loops =>
        left
        unfold splitRead readBefore Stream.result
        rw [processTloggerRead_parses room reads, processTloggerRead_parses room reads]
        refine trigger_sameLap loops ?_ ?_ lastPos (below fits)
        · rw [(append_fits fits).1]
          exact loops
        · rw [(append_fits fits).1]
    | above fits loops above clean =>
        left
        unfold splitRead readBefore Stream.result
        rw [processTloggerRead_parses room reads, processTloggerRead_parses room reads]
        by_cases same : stream.flag.writeLoops = stream.reader.rLoops
        · refine trigger_sameLap same ?_ ?_ lastPos (below fits)
          · rw [(append_fits fits).1]
            exact same
          · rw [(append_fits fits).1]
        · have notLapped : resetLapped stream.flag stream.flag.lastPos stream.reader =
              stream.reader := if_neg (by omega)
          refine trigger_above same notLapped ?_ ?_ lastPos (below fits) ?_ clean
          · rw [(append_fits fits).1]
          · rw [(append_fits fits).1]
          · intro place later
            rw [(append_fits fits).2]
            exact store_outside (Or.inr later)
    | sameEnd wraps same =>
        right
        exact splitRead_sameEnd room reads wraps same

/-- An append in the reader's own lap. -/
theorem split_read_atomic_same_lap :
    newStream.MixHarmless shortItem (fun _ => 0) 1024 ∧
      (newStream.splitRead shortItem (fun _ => 0) 1024 = newStream.readBefore 1024 ∨
        newStream.splitRead shortItem (fun _ => 0) 1024 =
          newStream.readAfter shortItem (fun _ => 0) 1024) := by
  have harmless : newStream.MixHarmless shortItem (fun _ => 0) 1024 :=
    .sameLap (by decide +kernel) rfl
  exact ⟨harmless, split_read_atomic _ _ _ _ harmless⟩

def nearLapEnd : Stream :=
  { newStream with
    flag := ⟨9984, 0, 10020⟩
    mem := store (fun _ => 0) 9856 128 (bytesMemory shortItem)
    reader := ⟨9856, 0⟩
    appended := [⟨9856, shortItem⟩] }

def nextItem : List UInt8 :=
  shortItem.set 36 1

/-- The writer starts its next lap between the copy and the parse: the new item comes
before the unread one, and the position belongs to neither lap's end. -/
theorem wrap_inside_read_reorders :
    nearLapEnd.splitRead nextItem (fun _ => 0) 1024 = ⟨256, [nextItem, shortItem], ⟨9984, 1⟩⟩ ∧
      nearLapEnd.readBefore 1024 = ⟨128, [shortItem], ⟨9984, 0⟩⟩ ∧
      nearLapEnd.readAfter nextItem (fun _ => 0) 1024 = ⟨256, [shortItem, nextItem], ⟨128, 1⟩⟩ ∧
      shortItem ≠ nextItem := by
  decide +kernel

end Stream

end TzDriver.Tlogger
