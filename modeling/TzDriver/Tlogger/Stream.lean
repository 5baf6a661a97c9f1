/-
The log as a stream from the TEE's writer to a reader.

The writer appends items in laps and overwrites nothing that is unread; reads come
between the appends.  What the reads returned is always a prefix of what was written.
-/

import TzDriver.Lib.Runs
import TzDriver.Tlogger.Layout
import TzDriver.Tlogger.Read

namespace TzDriver.Tlogger

open TzDriver.Lib

/-- The log memory, one reader of it, the items written with their places, and the
items returned. -/
structure Stream where
  bufferMaxLen : Nat
  flag : LogBufferFlag
  mem : Memory
  reader : Reader
  appended : List Placed
  returned : List (List UInt8)

namespace Stream

variable (stream : Stream)

def unread : List Placed :=
  stream.appended.drop stream.returned.length

end Stream

def bytesMemory (bytes : List UInt8) : Memory := fun index => bytes.getD index 0

structure ValidItem (bytes : List UInt8) : Prop where
  sound : (itemAt (bytesMemory bytes) 0).Sound
  whole : itemLen (bytesMemory bytes) 0 = bytes.length
  short : bytes.length ≤ logItemMaxLen

namespace Stream

variable (stream : Stream)

/-- The bytes from `pos` on hold no item that is still to be read. -/
def Spares (pos len : Nat) : Prop :=
  ∀ item ∈ stream.unread, item.pos + item.bytes.length ≤ pos ∨ pos + len ≤ item.pos

def placeItem (pos : Nat) (bytes : List UInt8) : Stream :=
  { stream with
    mem := store stream.mem pos bytes.length (bytesMemory bytes)
    flag := { stream.flag with lastPos := pos + bytes.length }
    appended := stream.appended ++ [⟨pos, bytes⟩] }

/-- The end of a lap: the writer leaves `tail` above its last item. -/
def endLap (tail : Memory) : Stream :=
  { stream with
    mem := fun place =>
      if stream.flag.lastPos ≤ place ∧ place < stream.flag.maxLen then tail place
      else stream.mem place
    flag := { stream.flag with writeLoops := nextLap stream.flag.writeLoops } }

/-- One append of the writer, in its lap or at the start of the next. -/
def append (bytes : List UInt8) (tail : Memory) : Stream :=
  if stream.flag.lastPos + bytes.length ≤ stream.flag.maxLen then
    stream.placeItem stream.flag.lastPos bytes
  else (stream.endLap tail).placeItem 0 bytes

def result (count : Nat) : ReadResult :=
  processTloggerRead stream.bufferMaxLen stream.flag stream.flag stream.mem stream.reader count

def read (count : Nat) : Stream :=
  { stream with
    reader := (stream.result count).reader
    returned := stream.returned ++ (stream.result count).items.map (itemBytes stream.mem) }

end Stream

inductive StreamLabel where
  | append (bytes : List UInt8)
  | wrap (bytes : List UInt8) (tail : Memory)
  | read (count : Nat)

inductive StreamStep (stream : Stream) : StreamLabel → Stream → Prop where
  | append {bytes : List UInt8} :
      ValidItem bytes → stream.flag.lastPos + bytes.length ≤ stream.flag.maxLen →
      stream.Spares stream.flag.lastPos bytes.length →
        StreamStep stream (.append bytes) (stream.placeItem stream.flag.lastPos bytes)
  | wrap {bytes : List UInt8} {tail : Memory} :
      ValidItem bytes → stream.flag.maxLen < stream.flag.lastPos + bytes.length →
      bytes.length ≤ stream.flag.maxLen → stream.Spares 0 bytes.length →
      -- no valid head between the last item of the lap and `max_len`
      (∀ step, ¬ItemOnGrid (stream.endLap tail).mem stream.flag.maxLen stream.flag.lastPos step) →
        StreamStep stream (.wrap bytes tail) ((stream.endLap tail).placeItem 0 bytes)
  | read {count : Nat} :
      logItemMaxLen ≤ count → StreamStep stream (.read count) (stream.read count)

/-- A new reader of an empty log, whatever the memory held before. -/
def streamMachine : Machine Stream StreamLabel :=
  { init := fun stream => stream.flag.lastPos = 0 ∧ stream.flag.writeLoops = 0 ∧
      stream.flag.maxLen ≤ stream.bufferMaxLen ∧ stream.bufferMaxLen ≤ logBufferMaxLen ∧
      stream.reader = ⟨0, 0⟩ ∧ stream.appended = [] ∧ stream.returned = []
    step := StreamStep }

/-! ### The rest of a lap -/

/-- The items from `start` to the end of the lap, and no item after them. -/
def RestOfLap (mem : Memory) (maxLen start : Nat) (items : List Placed) : Prop :=
  ∃ stop, Layout mem maxLen start items stop ∧ stop ≤ maxLen ∧
    ∀ step, ¬ItemOnGrid mem maxLen stop step

section RestOfLap

variable {mem after : Memory} {maxLen start : Nat} {items : List Placed}

theorem RestOfLap.nothing (clean : ∀ step, ¬ItemOnGrid mem maxLen start step)
    (inside : start ≤ maxLen) : RestOfLap mem maxLen start [] :=
  ⟨start, Layout.empty mem maxLen start, inside, clean⟩

theorem no_item_later {place : Nat} (clean : ∀ step, ¬ItemOnGrid mem maxLen start step)
    (later : start ≤ place) (grid : (place - start) % 64 = 0) :
    ∀ step, ¬ItemOnGrid mem maxLen place step := by
  intro step item
  apply clean ((place - start) / 64 + step)
  unfold ItemOnGrid at item ⊢
  have same : start + 64 * ((place - start) / 64 + step) = place + 64 * step := by omega
  rw [same]
  exact item

theorem no_item_at_end (mem : Memory) (place : Nat) :
    ∀ step, ¬ItemOnGrid mem place place step := by
  intro step item
  have long := item.long
  have inside := item.inside
  omega

theorem RestOfLap.advance (rest : RestOfLap mem maxLen start items) {place : Nat}
    (later : start ≤ place) (grid : (place - start) % 64 = 0) (inside : place ≤ maxLen)
    (behind : ∀ item ∈ items, place ≤ item.pos) : RestOfLap mem maxLen place items := by
  obtain ⟨stop, layout, within, clean⟩ := rest
  have bounds := layout.bounds
  have stopGrid := layout.grid
  have ordered := layout.ordered
  rcases Nat.le_total place stop with before | beyond
  · have place_eq : place = start + 64 * ((place - start) / 64) := by omega
    refine ⟨stop, ?_, within, clean⟩
    rw [place_eq] at before behind ⊢
    exact layout.advance _ before behind
  · have none : items = [] := by
      cases items with
      | nil => rfl
      | cons item more =>
          have first := bounds item List.mem_cons_self
          have after := behind item List.mem_cons_self
          omega
    rw [none]
    exact .nothing (no_item_later clean beyond (by omega)) inside

theorem RestOfLap.congr (rest : RestOfLap mem maxLen start items)
    (same : ∀ place, start ≤ place → after place = mem place) :
    RestOfLap after maxLen start items := by
  obtain ⟨stop, layout, within, clean⟩ := rest
  have ordered := layout.ordered
  refine ⟨stop, layout.congr fun place above _ => same place above, within, fun step item => ?_⟩
  apply clean step
  exact (IsItem.congr fun offset _ => same _ (by omega)).mp item

end RestOfLap

/-! ### Where a reader stands -/

/-- The unread items: in the writer's lap, or at the end of the lap before it and from
the start of the writer's lap. -/
inductive ReaderAt (flag : LogBufferFlag) (mem : Memory) (reader : Reader) : List Placed → Prop where
  | sameLap {unread : List Placed} :
      flag.writeLoops = reader.rLoops →
      Layout mem flag.maxLen reader.rOff unread flag.lastPos →
        ReaderAt flag mem reader unread
  | lapBehind {older newer : List Placed} :
      flag.writeLoops = nextLap reader.rLoops →
      RestOfLap mem flag.maxLen (max reader.rOff flag.lastPos) older →
      Layout mem flag.maxLen 0 newer flag.lastPos →
      (∃ item ∈ newer, item.pos = 0) →
        ReaderAt flag mem reader (older ++ newer)

structure InBounds (flag : LogBufferFlag) (reader : Reader) : Prop where
  lastPos : flag.lastPos ≤ flag.maxLen
  rOff : reader.rOff ≤ flag.maxLen
  lastGrid : flag.lastPos % 64 = 0
  readGrid : reader.rOff % 64 = 0
  writeLoops : flag.writeLoops < 2 ^ 32
  rLoops : reader.rLoops < 2 ^ 32

theorem nextLap_ne (loops : Nat) : nextLap loops ≠ loops := by
  unfold nextLap
  omega

theorem nextLap_lt (loops : Nat) : nextLap loops < 2 ^ 32 :=
  Nat.mod_lt _ (Nat.two_pow_pos 32)

section Read

variable {flag : LogBufferFlag} {mem : Memory} {reader : Reader} {unread : List Placed}
  {count : Nat}

/-- The outcome of a read when `unread` is unread. -/
structure ReadAs (flag : LogBufferFlag) (mem : Memory) (unread : List Placed)
    (result : ReadResult) : Prop where
  split : ∃ taken rest, unread = taken ++ rest ∧ result.items.map (placedAt mem) = taken ∧
    ReaderAt flag mem result.reader rest ∧ (unread ≠ [] → taken ≠ [])
  bounds : InBounds flag result.reader

/-- An item that does not fit is the first one left, so that a buffer for the longest
item is never left empty. -/
theorem taken_ne_nil {limit start stop endPos bufLeft : Nat} {parsed : Parsed}
    {items taken rest : List Placed} (layout : Layout mem limit start items stop)
    (split : items = taken ++ rest)
    (parsedAs : ParsedAs mem limit start stop endPos bufLeft parsed taken rest)
    (room : 1024 ≤ bufLeft) (nonempty : items ≠ []) : taken ≠ [] := by
  intro same
  subst same
  rw [List.nil_append] at split
  subst split
  cases items with
  | nil => exact nonempty rfl
  | cons item more =>
      have full := parsedAs.full item more rfl
      have bounds := layout.bounds item List.mem_cons_self
      have empty : totalLen [] = 0 := rfl
      omega

theorem read_sameLap (bounds : InBounds flag reader) (sameLoops : flag.writeLoops = reader.rLoops)
    (layout : Layout mem flag.maxLen reader.rOff unread flag.lastPos) (room : 1024 ≤ count) :
    ReadAs flag mem unread (triggerParseLog mem flag count flag.lastPos reader) := by
  have lastPos := bounds.lastPos
  obtain ⟨taken, rest, split, parsed⟩ := parseLoop_layout layout (Nat.le_refl _) lastPos lastPos
    (no_item_at_end mem flag.lastPos) flag.lastPos count (Nat.le_add_left _ _)
  have inside := parsed.inside
  have notBack := parsed.notBack
  have grid := parsed.grid
  have readGrid := bounds.readGrid
  unfold triggerParseLog
  rw [if_pos sameLoops]
  refine ⟨⟨taken, rest, split, parsed.copied, ?_, taken_ne_nil layout split parsed room⟩, ?_⟩
  · exact .sameLap sameLoops (parsed.onward (Or.inr inside))
  · refine ⟨lastPos, Nat.le_trans inside lastPos, bounds.lastGrid, ?_, bounds.writeLoops,
      bounds.rLoops⟩
    change (parseLoop _ _ _ _ _ _).readOff % 64 = 0
    omega

theorem resetLapped_behind (bounds : InBounds flag reader)
    (behind : flag.writeLoops = nextLap reader.rLoops) :
    resetLapped flag flag.lastPos reader = ⟨max reader.rOff flag.lastPos, reader.rLoops⟩ := by
  have small := bounds.rLoops
  have back : (nextLap reader.rLoops + (2 ^ 32 - 1)) % 2 ^ 32 = reader.rLoops := by
    unfold nextLap
    omega
  unfold resetLapped
  by_cases lapped : reader.rOff < flag.lastPos
  · rw [if_pos (Or.inr ⟨behind, lapped⟩), Nat.max_eq_right (Nat.le_of_lt lapped), behind, back]
  · have notAhead : ¬(flag.writeLoops > nextLap reader.rLoops ∨
        flag.writeLoops = nextLap reader.rLoops ∧ reader.rOff < flag.lastPos) := by
      omega
    rw [if_neg notAhead, Nat.max_eq_left (Nat.le_of_not_lt lapped)]

theorem ReadAs.stays {taken rest newer : List Placed} {result : ReadResult}
    (bounds : InBounds flag reader) (behind : flag.writeLoops = nextLap reader.rLoops)
    (layout : Layout mem flag.maxLen 0 newer flag.lastPos) (first : ∃ item ∈ newer, item.pos = 0)
    (items : result.items.map (placedAt mem) = taken) (some : taken ≠ [])
    (rLoops : result.reader.rLoops = reader.rLoops)
    (after : flag.lastPos ≤ result.reader.rOff) (inside : result.reader.rOff ≤ flag.maxLen)
    (grid : result.reader.rOff % 64 = 0)
    (left : RestOfLap mem flag.maxLen result.reader.rOff rest) :
    ReadAs flag mem (taken ++ rest ++ newer) result := by
  constructor
  · refine ⟨taken, rest ++ newer, List.append_assoc _ _ _, items, ?_, fun _ => some⟩
    apply ReaderAt.lapBehind
    · rw [rLoops]
      exact behind
    · rw [Nat.max_eq_left after]
      exact left
    · exact layout
    · exact first
  · refine ⟨bounds.lastPos, inside, bounds.lastGrid, grid, bounds.writeLoops, ?_⟩
    rw [rLoops]
    exact bounds.rLoops

/-- A read one lap behind the writer: the rest of the old lap, then the new one. -/
theorem read_lapBehind {older newer : List Placed} (bounds : InBounds flag reader)
    (behind : flag.writeLoops = nextLap reader.rLoops)
    (rest : RestOfLap mem flag.maxLen (max reader.rOff flag.lastPos) older)
    (layout : Layout mem flag.maxLen 0 newer flag.lastPos) (first : ∃ item ∈ newer, item.pos = 0)
    (room : 1024 ≤ count) :
    ReadAs flag mem (older ++ newer) (triggerParseLog mem flag count flag.lastPos reader) := by
  obtain ⟨stop, upperLayout, stopInside, clean⟩ := rest
  have lastPos := bounds.lastPos
  have rOff := bounds.rOff
  have readGrid := bounds.readGrid
  have lastGrid := bounds.lastGrid
  obtain ⟨upperTaken, upperRest, upperSplit, upper⟩ := parseLoop_layout upperLayout stopInside
    (Nat.le_refl _) (Nat.le_refl _) clean flag.maxLen count (Nat.le_add_left _ _)
  have written : bytesOf mem (parseLogItem mem count flag.maxLen (max reader.rOff flag.lastPos)
      flag.maxLen).items = totalLen upperTaken := by
    rw [bytesOf_eq]
    exact congrArg totalLen upper.copied
  have upperRoom := upper.room
  have upperBack := upper.notBack
  have upperGrid := upper.grid
  have upperInside := upper.inside
  have newerNonempty : newer ≠ [] := by
    obtain ⟨item, member, -⟩ := first
    exact List.ne_nil_of_mem member
  unfold triggerParseLog
  rw [if_neg fun same => nextLap_ne _ (behind.symm.trans same),
    resetLapped_behind bounds behind]
  simp only [written]
  have place : (parseLogItem mem count flag.maxLen (max reader.rOff flag.lastPos)
      flag.maxLen).readOff = (parseLoop mem flag.maxLen flag.maxLen flag.maxLen
        (max reader.rOff flag.lastPos) count).readOff := rfl
  by_cases more : upperRest = []
  · have left : (parseLogItem mem count flag.maxLen (max reader.rOff flag.lastPos)
        flag.maxLen).userBufferLeft = true := upper.left.mpr more
    rw [left]
    by_cases space : count > totalLen upperTaken
    · rw [if_pos ⟨space, rfl⟩]
      obtain ⟨lowerTaken, lowerRest, lowerSplit, lower⟩ := parseLoop_layout layout (Nat.le_refl _)
        lastPos lastPos (no_item_at_end mem flag.lastPos) flag.lastPos
        (count - totalLen upperTaken) (Nat.le_add_left _ _)
      have lowerInside := lower.inside
      have lowerGrid := lower.grid
      refine ⟨⟨upperTaken ++ lowerTaken, lowerRest, ?_, ?_, ?_, fun _ nothing => ?_⟩, ?_⟩
      · rw [upperSplit, more, List.append_nil, lowerSplit, List.append_assoc]
      · rw [List.map_append]
        exact congrArg₂ (· ++ ·) upper.copied lower.copied
      · exact .sameLap rfl (lower.onward (Or.inr lowerInside))
      · obtain ⟨noUpper, noLower⟩ := List.append_eq_nil_iff.mp nothing
        rw [noUpper] at lower
        exact taken_ne_nil layout lowerSplit lower room newerNonempty noLower
      · refine ⟨lastPos, Nat.le_trans lowerInside lastPos, lastGrid, ?_, bounds.writeLoops,
          bounds.writeLoops⟩
        change (parseLoop _ _ _ _ _ _).readOff % 64 = 0
        omega
    · -- the buffer is exactly full: the new lap waits for the next read
      rw [if_neg fun both => space both.1]
      rw [upperSplit]
      apply ReadAs.stays bounds behind layout first upper.copied
      · intro nothing
        rw [nothing] at space
        have empty : totalLen [] = 0 := rfl
        omega
      · rfl
      · change flag.lastPos ≤ (parseLogItem _ _ _ _ _).readOff
        omega
      · exact upperInside
      · change (parseLogItem _ _ _ _ _).readOff % 64 = 0
        omega
      · rw [more]
        exact .nothing (upper.beyond more) upperInside
  · have full : (parseLogItem mem count flag.maxLen (max reader.rOff flag.lastPos)
        flag.maxLen).userBufferLeft = false :=
      Bool.eq_false_iff.mpr fun left => more (upper.left.mp left)
    rw [full]
    rw [if_neg (by simp)]
    have nonempty : older ≠ [] := by
      rw [upperSplit]
      exact List.append_ne_nil_of_right_ne_nil _ more
    have some := taken_ne_nil upperLayout upperSplit upper room nonempty
    rw [upperSplit]
    apply ReadAs.stays bounds behind layout first upper.copied some
    · rfl
    · change flag.lastPos ≤ (parseLogItem _ _ _ _ _).readOff
      omega
    · exact upperInside
    · change (parseLogItem _ _ _ _ _).readOff % 64 = 0
      omega
    · exact ⟨stop, upper.onward (Or.inl more), stopInside, clean⟩

end Read

/-! ### Whole histories -/

structure Stream.Good (stream : Stream) : Prop where
  maxLen : stream.flag.maxLen ≤ stream.bufferMaxLen
  registered : stream.bufferMaxLen ≤ logBufferMaxLen
  bounds : InBounds stream.flag stream.reader
  split : ∃ past unread, stream.appended = past ++ unread ∧
    stream.returned = past.map Placed.bytes ∧ ReaderAt stream.flag stream.mem stream.reader unread

theorem drop_past {past unread appended : List Placed} {returned : List (List UInt8)}
    (split : appended = past ++ unread) (returnedPast : returned = past.map Placed.bytes) :
    appended.drop returned.length = unread := by
  rw [split, returnedPast, List.length_map]
  exact List.drop_left

section Written

variable {mem : Memory} {pos : Nat} {bytes : List UInt8}

theorem itemBytes_bytesMemory (valid : ValidItem bytes) : itemBytes (bytesMemory bytes) 0 = bytes := by
  unfold itemBytes
  rw [valid.whole]
  refine List.ext_getElem (by simp) fun index below _ => ?_
  rw [List.length_map, List.length_range] at below
  simp [bytesMemory, below]

theorem ValidItem.long (valid : ValidItem bytes) : 128 ≤ bytes.length := by
  have long := valid.sound.long
  have whole := valid.whole
  unfold itemLen sizeofLogItem at whole
  omega

theorem ValidItem.aligned (valid : ValidItem bytes) : bytes.length % 64 = 0 := by
  have aligned := valid.sound.aligned
  have whole := valid.whole
  unfold itemLen sizeofLogItem at whole
  omega

theorem store_placed (valid : ValidItem bytes) :
    placedAt (store mem pos bytes.length (bytesMemory bytes)) pos = ⟨pos, bytes⟩ := by
  rw [placedAt]
  congr 1
  refine Eq.trans (itemBytes_congr fun offset below => ?_) (itemBytes_bytesMemory valid)
  rw [valid.whole] at below
  rw [store_inside (Nat.le_add_right _ _) (by omega), Nat.add_sub_cancel_left, Nat.zero_add]

theorem store_isItem (mem : Memory) (valid : ValidItem bytes) {limit : Nat}
    (inside : pos + bytes.length ≤ limit) :
    IsItem (store mem pos bytes.length (bytesMemory bytes)) limit pos ∧
      itemLen (store mem pos bytes.length (bytesMemory bytes)) pos = bytes.length := by
  have long := valid.long
  have head : itemAt (store mem pos bytes.length (bytesMemory bytes)) pos =
      itemAt (bytesMemory bytes) 0 := itemAt_store (by omega)
  have length : itemLen (store mem pos bytes.length (bytesMemory bytes)) pos = bytes.length := by
    rw [itemLen, head]
    exact valid.whole
  refine ⟨⟨?_, ?_, ?_⟩, length⟩
  · rw [head]
    exact valid.sound
  · rw [length]
    exact valid.short
  · rw [length]
    exact inside

theorem Layout.written {limit start : Nat} {items : List Placed}
    (layout : Layout mem limit start items pos) (valid : ValidItem bytes)
    (inside : pos + bytes.length ≤ limit) :
    Layout (store mem pos bytes.length (bytesMemory bytes)) limit start (items ++ [⟨pos, bytes⟩])
      (pos + bytes.length) := by
  obtain ⟨item, length⟩ := store_isItem mem valid inside
  have kept : Layout (store mem pos bytes.length (bytesMemory bytes)) limit start items pos :=
    layout.congr fun place _ below => store_outside (Or.inl below)
  have added := kept.snoc item
  rw [store_placed valid, length] at added
  exact added

end Written

theorem Stream.Good.append {stream : Stream} (good : stream.Good) {bytes : List UInt8}
    (valid : ValidItem bytes) (fits : stream.flag.lastPos + bytes.length ≤ stream.flag.maxLen)
    (spares : stream.Spares stream.flag.lastPos bytes.length) :
    (stream.placeItem stream.flag.lastPos bytes).Good := by
  obtain ⟨past, unread, split, returned, readerAt⟩ := good.split
  have bounds := good.bounds
  have aligned := valid.aligned
  have lastGrid := bounds.lastGrid
  have readGrid := bounds.readGrid
  have rOff := bounds.rOff
  have unreadEq : stream.unread = unread := drop_past split returned
  refine ⟨good.maxLen, good.registered, ?_, past, unread ++ [⟨stream.flag.lastPos, bytes⟩], ?_,
    returned, ?_⟩
  · refine ⟨fits, rOff, ?_, readGrid, bounds.writeLoops, bounds.rLoops⟩
    change (stream.flag.lastPos + bytes.length) % 64 = 0
    omega
  · change stream.appended ++ _ = _
    rw [split, List.append_assoc]
  · cases readerAt with
    | sameLap loops layout => exact .sameLap loops (layout.written valid fits)
    | @lapBehind older newer loops rest layout first =>
        have behind : ∀ item ∈ older,
            max stream.reader.rOff (stream.flag.lastPos + bytes.length) ≤ item.pos := by
          intro item member
          obtain ⟨stop, upper, -⟩ := rest
          have place := upper.bounds item member
          have apart := spares item (by rw [unreadEq]; exact List.mem_append_left _ member)
          omega
        have advanced := rest.advance (by omega) (by omega) (by omega) behind
        rw [List.append_assoc]
        refine .lapBehind loops (advanced.congr fun place above => ?_) (layout.written valid fits) ?_
        · exact store_outside (Or.inr (by omega))
        · obtain ⟨item, member, atStart⟩ := first
          exact ⟨item, List.mem_append_left _ member, atStart⟩

theorem Stream.Good.wrap {stream : Stream} (good : stream.Good) {bytes : List UInt8} {tail : Memory}
    (valid : ValidItem bytes) (fits : bytes.length ≤ stream.flag.maxLen)
    (spares : stream.Spares 0 bytes.length)
    (clean : ∀ step, ¬ItemOnGrid (stream.endLap tail).mem stream.flag.maxLen stream.flag.lastPos
      step) :
    ((stream.endLap tail).placeItem 0 bytes).Good := by
  obtain ⟨past, unread, split, returned, readerAt⟩ := good.split
  have bounds := good.bounds
  have aligned := valid.aligned
  have long := valid.long
  have readGrid := bounds.readGrid
  have rOff := bounds.rOff
  have unreadEq : stream.unread = unread := drop_past split returned
  refine ⟨good.maxLen, good.registered, ?_, past, unread ++ [⟨0, bytes⟩], ?_, returned, ?_⟩
  · refine ⟨?_, rOff, ?_, readGrid, nextLap_lt _, bounds.rLoops⟩
    · change 0 + bytes.length ≤ stream.flag.maxLen
      omega
    · change (0 + bytes.length) % 64 = 0
      omega
  · change stream.appended ++ _ = _
    rw [split, List.append_assoc]
  · cases readerAt with
    | sameLap loops layout =>
        have below : ∀ place, place < stream.flag.lastPos →
            (stream.endLap tail).mem place = stream.mem place :=
          fun place below => if_neg fun inside => Nat.not_lt_of_le inside.1 below
        have rest : RestOfLap (stream.endLap tail).mem stream.flag.maxLen stream.reader.rOff unread :=
          ⟨stream.flag.lastPos, layout.congr fun place _ under => below place under, bounds.lastPos,
            clean⟩
        have behind : ∀ item ∈ unread, max stream.reader.rOff (0 + bytes.length) ≤ item.pos := by
          intro item member
          have place := layout.bounds item member
          have apart := spares item (by rw [unreadEq]; exact member)
          omega
        have advanced := rest.advance (by omega) (by omega) (by omega) behind
        refine .lapBehind ?_ (advanced.congr fun place above => ?_) ?_
          ⟨⟨0, bytes⟩, List.mem_singleton_self _, rfl⟩
        · change nextLap stream.flag.writeLoops = nextLap stream.reader.rLoops
          rw [loops]
        · exact store_outside (Or.inr (by omega))
        · exact (Layout.empty _ stream.flag.maxLen 0).written valid (by omega)
    | @lapBehind older newer loops rest layout first =>
        -- the writer would overwrite the first item of its own lap
        obtain ⟨item, member, atStart⟩ := first
        have place := layout.bounds item member
        have apart := spares item (by rw [unreadEq]; exact List.mem_append_right _ member)
        omega

theorem Stream.Good.result {stream : Stream} (good : stream.Good) {unread : List Placed}
    (readerAt : ReaderAt stream.flag stream.mem stream.reader unread) {count : Nat}
    (room : logItemMaxLen ≤ count) :
    ReadAs stream.flag stream.mem unread (stream.result count) := by
  have bounds := good.bounds
  have maxLen := good.maxLen
  have registered := good.registered
  have lastPos := bounds.lastPos
  have rOff := bounds.rOff
  unfold Stream.result processTloggerRead getLastReadPos
  rw [if_neg (Nat.not_lt_of_le room), if_neg (Nat.not_lt_of_le registered)]
  by_cases caughtUp : stream.flag.lastPos = stream.reader.rOff ∧
      stream.flag.writeLoops = stream.reader.rLoops
  · rw [if_pos caughtUp]
    refine ⟨⟨[], unread, rfl, rfl, readerAt, fun some => absurd ?_ some⟩, bounds⟩
    cases readerAt with
    | sameLap loops layout =>
        cases unread with
        | nil => rfl
        | cons item more =>
            have place := layout.bounds item List.mem_cons_self
            omega
    | lapBehind loops rest layout first =>
        exact absurd (loops.symm.trans caughtUp.2) (nextLap_ne _)
  · rw [if_neg caughtUp, if_neg (by omega), if_neg (by omega)]
    cases readerAt with
    | sameLap loops layout => exact read_sameLap bounds loops layout room
    | lapBehind loops rest layout first => exact read_lapBehind bounds loops rest layout first room

theorem Stream.Good.read {stream : Stream} (good : stream.Good) {count : Nat}
    (room : logItemMaxLen ≤ count) : (stream.read count).Good := by
  obtain ⟨past, unread, split, returned, readerAt⟩ := good.split
  obtain ⟨⟨taken, rest, unreadSplit, items, readerAfter, -⟩, bounds⟩ := good.result readerAt room
  refine ⟨good.maxLen, good.registered, bounds, past ++ taken, rest, ?_, ?_, readerAfter⟩
  · change stream.appended = _
    rw [split, unreadSplit, List.append_assoc]
  · change stream.returned ++ _ = _
    rw [returned, List.map_append, ← items, List.map_map]
    rfl

theorem Stream.good_of_reachable {stream : Stream} (reached : streamMachine.Reachable stream) :
    stream.Good := by
  induction reached with
  | @start first initial =>
      obtain ⟨lastPos, writeLoops, maxLen, registered, reader, appended, returned⟩ := initial
      refine ⟨maxLen, registered, ?_, [], [], appended, returned, .sameLap ?_ ?_⟩
      · rw [reader]
        refine ⟨?_, Nat.zero_le _, ?_, rfl, ?_, Nat.two_pow_pos 32⟩
        · rw [lastPos]
          exact Nat.zero_le _
        · rw [lastPos]
        · rw [writeLoops]
          exact Nat.two_pow_pos 32
      · rw [writeLoops, reader]
      · rw [lastPos, reader]
        exact Layout.empty _ _ 0
  | next _ taken ih =>
      cases taken with
      | append valid fits spares => exact ih.append valid fits spares
      | wrap valid _ fits spares clean => exact ih.wrap valid fits spares clean
      | read room => exact ih.read room

/-- What the reads of any history returned is a prefix of the items written, each once
and in order, and a read with items unread returns one. -/
theorem log_stream_prefix {stream : Stream} (reached : streamMachine.Reachable stream) :
    stream.returned <+: stream.appended.map Placed.bytes ∧
      ∀ count, logItemMaxLen ≤ count → stream.returned.length < stream.appended.length →
        (stream.result count).items ≠ [] := by
  have good := Stream.good_of_reachable reached
  obtain ⟨past, unread, split, returned, readerAt⟩ := good.split
  refine ⟨?_, fun count room more => ?_⟩
  · rw [split, returned, List.map_append]
    exact List.prefix_append _ _
  · obtain ⟨⟨taken, rest, -, items, -, some⟩, -⟩ := good.result readerAt room
    have nonempty : unread ≠ [] := by
      intro same
      subst same
      rw [split, returned, List.append_nil, List.length_map] at more
      exact Nat.lt_irrefl _ more
    intro nothing
    rw [nothing] at items
    exact some nonempty items.symm

def newStream : Stream :=
  ⟨10020, ⟨0, 0, 10020⟩, fun _ => 0, ⟨0, 0⟩, [], []⟩

def shortItem : List UInt8 :=
  (List.range 128).map fun index =>
    if index = 32 ∨ index = 33 then 0x5A else if index = 40 ∨ index = 42 then 64 else 0

theorem shortItem_valid : ValidItem shortItem := by
  refine ⟨⟨?_, ?_, ?_, ?_, ?_⟩, ?_, ?_⟩
  all_goals decide +kernel

/-- One item is written and read, and another one is written. -/
def secondUnread : Stream :=
  ((newStream.placeItem 0 shortItem).read 1024).placeItem 128 shortItem

theorem secondUnread_reachable : streamMachine.Reachable secondUnread := by
  have initial : streamMachine.Reachable newStream :=
    .start ⟨rfl, rfl, by decide, by decide, rfl, rfl, rfl⟩
  have first : streamMachine.Reachable (newStream.placeItem 0 shortItem) := by
    apply initial.next (StreamStep.append shortItem_valid (by decide +kernel) _)
    intro item member
    cases member
  have read := first.next (StreamStep.read (by decide : logItemMaxLen ≤ 1024))
  have place : ((newStream.placeItem 0 shortItem).read 1024).flag.lastPos = 128 := by
    decide +kernel
  unfold secondUnread
  rw [← place]
  apply read.next (StreamStep.append shortItem_valid (by decide +kernel) _)
  intro item member
  have written : item ∈ [(⟨0, shortItem⟩ : Placed)] := List.mem_of_mem_drop member
  rw [List.mem_singleton.mp written]
  left
  decide +kernel

/-- The next read gets the second item. -/
theorem log_stream_prefix_second :
    secondUnread.returned = [shortItem] ∧
      secondUnread.returned <+: secondUnread.appended.map Placed.bytes ∧
      (secondUnread.result 1024).items ≠ [] := by
  have returned : secondUnread.returned = [shortItem] := by decide +kernel
  have streamed := log_stream_prefix secondUnread_reachable
  refine ⟨returned, streamed.1, streamed.2 1024 (by decide) ?_⟩
  rw [returned]
  decide +kernel

end TzDriver.Tlogger
