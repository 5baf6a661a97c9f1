/-
`write_log_to_msg` on arbitrary memory.

As in `Scan`, the loops are written the way a 64-bit kernel runs them: the 32-bit
variables wrap, every read names the bytes it needs, and a read outside of the copied
buffer, or a loop that has not ended yet, gives `none`.
-/

import TzDriver.Tlogger.Archive
import TzDriver.Tlogger.Scan

namespace TzDriver.Tlogger

open TzDriver.Lib

section Checked

variable (window : Window) (mem : Memory) (maxLen : Nat)

/-- The loop of `msg_get_next`. -/
def msgLoopIn (readPos scopeLen : Nat) : Nat → Nat → Option (Option Nat)
  | 0, _ => none
  | fuel + 1, i =>
      if i ≤ scopeLen ∧ u32 (readPos + i) + sizeofLogItem < maxLen then
        (itemIn window mem (readPos + i)).bind fun item =>
          if checkLogItemValidite item (maxSize (u32 (scopeLen - i))) then
            if u32 (readPos + i) + sizeofLogItem + item.bufferLen > maxLen then some none
            else some (some (readPos + i))
          else msgLoopIn readPos scopeLen fuel (u32 (i + logItemLenAlign))
      else some none

def msgGetNextIn (fuel readPos scopeLen : Nat) : Option (Option Nat) :=
  msgLoopIn window mem maxLen readPos scopeLen fuel 0

/-- What one call of `write_part_log_to_msg` did: the items and the bytes that it handed to
`kernel_write`, and the value returned. -/
structure Archived where
  items : List Nat
  payload : List UInt8
  ret : Int
deriving DecidableEq, Repr

/-- The loop of `write_part_log_to_msg` after `done`; `kernelWrite` gives the result of each
`kernel_write` by its number. -/
def writeLoopIn (kernelWrite : Nat → Int) (readOffEnd : Nat) :
    Nat → Nat → Nat → Archived → Option Archived
  | 0, _, _, _ => none
  | fuel + 1, readOff, totalLen, done =>
      (msgGetNextIn window mem maxLen (fuel + 1) readOff logItemMaxLen).bind fun next =>
        match next with
        | none => some done
        | some item =>
            if readOff ≤ readOffEnd then
              (itemIn window mem item).bind fun head =>
                (bytesIn window mem (item + sizeofLogItem) head.realLen).bind fun bytes =>
                  let size := u32 (head.bufferLen + sizeofLogItem)
                  let handed : Archived :=
                    ⟨done.items ++ [item], done.payload ++ bytes, done.ret⟩
                  if kernelWrite done.items.length < 0 then some { handed with ret := -1 }
                  else if u32 (totalLen + size) ≥ maxLen then some handed
                  else writeLoopIn kernelWrite readOffEnd fuel (u32 (item + size))
                    (u32 (totalLen + size)) handed
            else some done

def writePartLogToMsgIn (kernelWrite : Nat → Int) (fuel readOff readOffEnd : Nat) :
    Option Archived :=
  writeLoopIn window mem maxLen kernelWrite readOffEnd fuel readOff 0 ⟨[], [], 0⟩

/-- `write_log_to_msg` with at most `fuel` rounds of each of its loops: what its calls of
`write_part_log_to_msg` did. -/
def writeLogToMsgIn (kernelWrite : Nat → Int) (fuel readOff readOffEnd : Nat) :
    Option (List Archived) :=
  if readOff < readOffEnd then
    (writePartLogToMsgIn window mem maxLen kernelWrite fuel readOff readOffEnd).map fun only =>
      [only]
  else
    (writePartLogToMsgIn window mem maxLen kernelWrite fuel readOff maxLen).bind fun upper =>
      if upper.ret ≠ 0 then some [upper]
      else
        (writePartLogToMsgIn window mem maxLen
          (fun number => kernelWrite (upper.items.length + number)) fuel 0 readOffEnd).map
            fun lower => [upper, lower]

end Checked

/-! ### The search for the next item -/

section Next

variable {window : Window} {mem : Memory} {maxLen : Nat}

theorem msgLoopIn_succ (start scope fuel i : Nat) :
    msgLoopIn window mem maxLen start scope (fuel + 1) i =
      if i ≤ scope ∧ u32 (start + i) + 64 < maxLen then
        (itemIn window mem (start + i)).bind fun item =>
          if checkLogItemValidite item (maxSize (u32 (scope - i))) then
            if u32 (start + i) + 64 + item.bufferLen > maxLen then some none
            else some (some (start + i))
          else msgLoopIn window mem maxLen start scope fuel (u32 (i + 64))
      else some none := rfl

/-- The search ends, reads only inside and finds what `msgLoop` finds. -/
theorem msgLoopIn_eq {start scope : Nat} (lower : window.lower = 0) (upper : window.upper = maxLen)
    (small : start + scope + 64 < 4294967296) (fuel : Nat) :
    ∀ i more, i ≤ scope + 64 → scope < i + 64 * fuel → fuel ≤ more →
      msgLoopIn window mem maxLen start scope (more + 1) i =
        some (msgLoop mem start scope maxLen fuel i) := by
  induction fuel with
  | zero =>
      intro i more _ enough _
      rw [msgLoopIn_succ, if_neg (by omega)]
      rfl
  | succ fuel ih =>
      intro i more bounded enough atMost
      obtain ⟨less, rfl⟩ : ∃ less, more = less + 1 := ⟨more - 1, by omega⟩
      rw [msgLoopIn_succ, msgLoop_succ, u32_of_lt (show start + i < 4294967296 by omega)]
      by_cases guard : i ≤ scope ∧ start + i + 64 < maxLen
      · rw [if_pos guard, if_pos guard, itemIn_eq mem (by omega) (by omega), Option.bind_some,
          u32_of_lt (show scope - i < 4294967296 by omega),
          u32_of_lt (show i + 64 < 4294967296 by omega),
          ih (i + 64) less (by omega) (by omega) (by omega)]
        by_cases valid : checkLogItemValidite (itemAt mem (start + i)) (maxSize (scope - i)) = true
        · rw [if_pos valid, if_pos valid]
          split
          · rfl
          · rfl
        · rw [if_neg valid, if_neg valid]
      · rw [if_neg guard, if_neg guard]

theorem msgLoop_enough (start scope fuel : Nat) :
    ∀ i more, scope < i + 64 * fuel → fuel ≤ more →
      msgLoop mem start scope maxLen more i = msgLoop mem start scope maxLen fuel i := by
  induction fuel with
  | zero =>
      intro i more enough _
      cases more with
      | zero => rfl
      | succ more =>
          rw [msgLoop_succ, if_neg (by omega)]
          rfl
  | succ fuel ih =>
      intro i more enough atMost
      obtain ⟨less, rfl⟩ : ∃ less, more = less + 1 := ⟨more - 1, by omega⟩
      rw [msgLoop_succ, msgLoop_succ, ih (i + 64) less (by omega) (by omega)]

theorem msgGetNextIn_eq {start fuel : Nat} (lower : window.lower = 0)
    (upper : window.upper = maxLen) (small : start ≤ 1048576) (enough : 17 < fuel) :
    msgGetNextIn window mem maxLen fuel start logItemMaxLen =
      some (archiveNext mem maxLen start) := by
  obtain ⟨less, rfl⟩ : ∃ less, fuel = less + 1 := ⟨fuel - 1, by omega⟩
  unfold msgGetNextIn archiveNext msgGetNext
  rw [msgLoopIn_eq lower upper (by unfold logItemMaxLen; omega) 17 0 less (by omega)
      (by unfold logItemMaxLen; omega) (by omega),
    msgLoop_enough start logItemMaxLen 17 0 (logItemMaxLen + 1) (by unfold logItemMaxLen; omega)
      (by unfold logItemMaxLen; omega)]

end Next

/-! ### One part -/

def payloadBytes (mem : Memory) (item : Nat) : List UInt8 :=
  (List.range (itemAt mem item).realLen).map fun index => mem (item + sizeofLogItem + index)

/-- Whole items inside of the buffer from `start` on, one behind the other, and their
payload. -/
structure PartSafe (mem : Memory) (len start : Nat) (part : Archived) : Prop where
  inside : ∀ item ∈ part.items, start ≤ item ∧ item + itemLen mem item ≤ len
  payloadInside : ∀ item ∈ part.items, (itemAt mem item).realLen ≤ (itemAt mem item).bufferLen
  apart : part.items.Pairwise fun first second => first + itemLen mem first ≤ second
  payload : part.payload = part.items.flatMap (payloadBytes mem)

theorem PartSafe.none (mem : Memory) (len start : Nat) (ret : Int) :
    PartSafe mem len start ⟨[], [], ret⟩ := by
  constructor
  · intro item impossible
    cases impossible
  · intro item impossible
    cases impossible
  · exact .nil
  · rfl

theorem PartSafe.cons {mem : Memory} {len start item : Nat} {rest : Archived}
    (valid : IsItem mem len item) (after : start ≤ item)
    (safe : PartSafe mem len (item + itemLen mem item) rest) :
    PartSafe mem len start
      ⟨item :: rest.items, payloadBytes mem item ++ rest.payload, rest.ret⟩ := by
  constructor
  · intro other member
    rcases List.mem_cons.mp member with rfl | further
    · exact ⟨after, valid.inside⟩
    · obtain ⟨later, inside⟩ := safe.inside other further
      exact ⟨by omega, inside⟩
  · intro other member
    rcases List.mem_cons.mp member with rfl | further
    · exact valid.sound.fits
    · exact safe.payloadInside other further
  · apply List.Pairwise.cons
    · intro other member
      exact (safe.inside other member).1
    · exact safe.apart
  · rw [List.flatMap_cons, safe.payload]

section Part

variable {window : Window} {mem : Memory} {len readOffEnd : Nat} {kernelWrite : Nat → Int}

def Archived.append (done rest : Archived) : Archived :=
  ⟨done.items ++ rest.items, done.payload ++ rest.payload, rest.ret⟩

theorem Archived.append_nil (done : Archived) (ret : Int) :
    done.append ⟨[], [], ret⟩ = { done with ret := ret } := by
  unfold Archived.append
  rw [List.append_nil, List.append_nil]

theorem Archived.append_cons (done rest : Archived) (item : Nat) (bytes : List UInt8) :
    done.append ⟨item :: rest.items, bytes ++ rest.payload, rest.ret⟩ =
      Archived.append ⟨done.items ++ [item], done.payload ++ bytes, done.ret⟩ rest := by
  unfold Archived.append
  rw [List.append_assoc, List.append_assoc, List.singleton_append]

/-- One round that found `item`. -/
theorem writeLoopIn_found {start total item more : Nat} {done : Archived}
    (lower : window.lower = 0) (upper : window.upper = len) (small : len ≤ 1048576)
    (bounded : start ≤ len) (enough : 17 < more + 1) (counted : total ≤ start)
    (finds : archiveNext mem len start = some item) (ordered : start ≤ readOffEnd) :
    writeLoopIn window mem len kernelWrite readOffEnd (more + 1) start total done =
      if kernelWrite done.items.length < 0 then
        some (done.append ⟨[item], payloadBytes mem item, -1⟩)
      else if total + itemLen mem item ≥ len then
        some (done.append ⟨[item], payloadBytes mem item, done.ret⟩)
      else writeLoopIn window mem len kernelWrite readOffEnd more (item + itemLen mem item)
        (total + itemLen mem item)
        ⟨done.items ++ [item], done.payload ++ payloadBytes mem item, done.ret⟩ := by
  obtain ⟨valid, after⟩ := archiveNext_inside finds
  have inside := valid.inside
  have long := valid.long
  have fits := valid.sound.fits
  have length : (itemAt mem item).bufferLen + sizeofLogItem = itemLen mem item := rfl
  have head : itemIn window mem item = some (itemAt mem item) :=
    itemIn_eq mem (by omega) (by omega)
  have payload : bytesIn window mem (item + sizeofLogItem) (itemAt mem item).realLen =
      some (payloadBytes mem item) :=
    bytesIn_eq mem (by omega) (by omega)
  conv =>
    lhs
    unfold writeLoopIn
  rw [msgGetNextIn_eq lower upper (by omega) enough, finds, Option.bind_some]
  simp only [ordered, if_true]
  rw [head, Option.bind_some, payload, Option.bind_some, length,
    u32_of_lt (show itemLen mem item < 4294967296 by omega),
    u32_of_lt (show total + itemLen mem item < 4294967296 by omega),
    u32_of_lt (show item + itemLen mem item < 4294967296 by omega)]
  rfl

theorem writeLoopIn_ends {start total more : Nat} {done : Archived}
    (lower : window.lower = 0) (upper : window.upper = len) (small : len ≤ 1048576)
    (bounded : start ≤ len) (enough : 17 < more + 1)
    (nothing : archiveNext mem len start = none ∨ ¬start ≤ readOffEnd) (fresh : done.ret = 0) :
    writeLoopIn window mem len kernelWrite readOffEnd (more + 1) start total done =
      some (done.append ⟨[], [], 0⟩) := by
  have stopped : done.append ⟨[], [], 0⟩ = done := by
    rw [done.append_nil, ← fresh]
  conv =>
    lhs
    unfold writeLoopIn
  rw [msgGetNextIn_eq lower upper (by omega) enough, stopped, Option.bind_some]
  cases finds : archiveNext mem len start with
  | none => rfl
  | some item =>
      rw [finds] at nothing
      rcases nothing with impossible | past
      · cases impossible
      · exact if_neg past

/-- What the loop does from `start` on, with `fuel` rounds that find an item. -/
structure LoopSafe (window : Window) (mem : Memory) (len readOffEnd : Nat)
    (kernelWrite : Nat → Int) (fuel start total : Nat) (done rest : Archived) : Prop where
  runs : ∀ more, fuel + 17 ≤ more →
    writeLoopIn window mem len kernelWrite readOffEnd more start total done =
      some (done.append rest)
  safe : PartSafe mem len start rest
  plain : (∀ number, 0 ≤ kernelWrite number) →
    (rest.items, rest.ret) =
      ((writeLoop mem len (fun _ => true) readOffEnd fuel start total).1, 0)

theorem LoopSafe.of_round {fuel start total : Nat} {done rest : Archived}
    (round : ∀ less, fuel + 17 ≤ less →
      writeLoopIn window mem len kernelWrite readOffEnd (less + 1) start total done =
        some (done.append rest))
    (safe : PartSafe mem len start rest)
    (plain : (∀ number, 0 ≤ kernelWrite number) →
      (rest.items, rest.ret) =
        ((writeLoop mem len (fun _ => true) readOffEnd (fuel + 1) start total).1, 0)) :
    LoopSafe window mem len readOffEnd kernelWrite (fuel + 1) start total done rest := by
  constructor
  · intro more atMost
    obtain ⟨less, rfl⟩ : ∃ less, more = less + 1 := ⟨more - 1, by omega⟩
    exact round less (by omega)
  · exact safe
  · exact plain

section Rounds

variable {fuel start total item : Nat} {done : Archived}

theorem loopSafe_ends (lower : window.lower = 0) (upper : window.upper = len)
    (small : len ≤ 1048576) (bounded : start ≤ len) (fresh : done.ret = 0)
    (nothing : archiveNext mem len start = none ∨ ¬start ≤ readOffEnd) :
    LoopSafe window mem len readOffEnd kernelWrite (fuel + 1) start total done ⟨[], [], 0⟩ := by
  apply LoopSafe.of_round
  · intro less enoughLeft
    exact writeLoopIn_ends lower upper small bounded (by omega) nothing fresh
  · exact PartSafe.none mem len start 0
  · intro _
    unfold writeLoop
    cases search : msgGetNext mem start logItemMaxLen len with
    | none => rfl
    | some item =>
        rcases nothing with finds | past
        · cases finds.symm.trans search
        · simp only [past, if_false]

theorem loopSafe_last (lower : window.lower = 0) (upper : window.upper = len)
    (small : len ≤ 1048576) (bounded : start ≤ len) (counted : total ≤ start)
    (fresh : done.ret = 0) (finds : archiveNext mem len start = some item)
    (ordered : start ≤ readOffEnd)
    (last : kernelWrite done.items.length < 0 ∨ total + itemLen mem item ≥ len) :
    ∃ ret, LoopSafe window mem len readOffEnd kernelWrite (fuel + 1) start total done
      ⟨[item], payloadBytes mem item, ret⟩ := by
  obtain ⟨valid, after⟩ := archiveNext_inside finds
  have search : msgGetNext mem start logItemMaxLen len = some item := finds
  have single (ret : Int) : PartSafe mem len start ⟨[item], payloadBytes mem item, ret⟩ := by
    have alone := PartSafe.cons valid after (PartSafe.none mem len _ ret)
    rw [List.append_nil] at alone
    exact alone
  by_cases failed : kernelWrite done.items.length < 0
  · exists -1
    apply LoopSafe.of_round
    · intro less enoughLeft
      rw [writeLoopIn_found lower upper small bounded (by omega) counted finds ordered,
        if_pos failed]
    · exact single (-1)
    · intro works
      have nonnegative := works done.items.length
      omega
  · have full := last.resolve_left failed
    exists done.ret
    apply LoopSafe.of_round
    · intro less enoughLeft
      rw [writeLoopIn_found lower upper small bounded (by omega) counted finds ordered,
        if_neg failed, if_pos full]
    · exact single done.ret
    · intro _
      unfold writeLoop
      rw [search, fresh]
      simp only [ordered, if_true]
      rw [if_pos full]

theorem LoopSafe.cons {rest : Archived} (lower : window.lower = 0) (upper : window.upper = len)
    (small : len ≤ 1048576) (bounded : start ≤ len) (counted : total ≤ start)
    (finds : archiveNext mem len start = some item) (ordered : start ≤ readOffEnd)
    (works : ¬kernelWrite done.items.length < 0) (room : ¬total + itemLen mem item ≥ len)
    (further : LoopSafe window mem len readOffEnd kernelWrite fuel (item + itemLen mem item)
      (total + itemLen mem item)
      ⟨done.items ++ [item], done.payload ++ payloadBytes mem item, done.ret⟩ rest) :
    LoopSafe window mem len readOffEnd kernelWrite (fuel + 1) start total done
      ⟨item :: rest.items, payloadBytes mem item ++ rest.payload, rest.ret⟩ := by
  obtain ⟨valid, after⟩ := archiveNext_inside finds
  have search : msgGetNext mem start logItemMaxLen len = some item := finds
  apply LoopSafe.of_round
  · intro less enoughLeft
    rw [writeLoopIn_found lower upper small bounded (by omega) counted finds ordered,
      if_neg works, if_neg room, further.runs less enoughLeft, done.append_cons]
  · exact further.safe.cons valid after
  · intro always
    obtain ⟨sameItems, sameRet⟩ := Prod.mk.inj (further.plain always)
    unfold writeLoop
    rw [search, sameItems, sameRet]
    simp only [ordered, if_true]
    rw [if_neg room]

end Rounds

/-- The loop ends, reads only inside and hands over whole items in their order. -/
theorem writeLoopIn_safe (lower : window.lower = 0) (upper : window.upper = len)
    (small : len ≤ 1048576) (fuel : Nat) :
    ∀ start total done, start ≤ len → total ≤ start → len < start + fuel → done.ret = 0 →
      ∃ rest, LoopSafe window mem len readOffEnd kernelWrite fuel start total done rest := by
  induction fuel with
  | zero =>
      intro start total done bounded _ enough _
      omega
  | succ fuel ih =>
      intro start total done bounded counted enough fresh
      cases finds : archiveNext mem len start with
      | none => exact ⟨_, loopSafe_ends lower upper small bounded fresh (Or.inl finds)⟩
      | some item =>
          by_cases ordered : start ≤ readOffEnd
          · by_cases last : kernelWrite done.items.length < 0 ∨ total + itemLen mem item ≥ len
            · obtain ⟨ret, safe⟩ :=
                loopSafe_last lower upper small bounded counted fresh finds ordered last
              exact ⟨_, safe⟩
            · obtain ⟨works, room⟩ := not_or.mp last
              obtain ⟨valid, after⟩ := archiveNext_inside finds
              have inside := valid.inside
              have long := valid.long
              obtain ⟨rest, further⟩ := ih (item + itemLen mem item) (total + itemLen mem item)
                ⟨done.items ++ [item], done.payload ++ payloadBytes mem item, done.ret⟩
                inside (by omega) (by omega) fresh
              exact ⟨_, further.cons lower upper small bounded counted finds ordered works room⟩
          · exact ⟨_, loopSafe_ends lower upper small bounded fresh (Or.inr ordered)⟩

theorem writePartLogToMsgIn_safe (small : len ≤ 1048576) {start : Nat} (bounded : start ≤ len) :
    ∃ part,
      (∀ fuel, len + 18 ≤ fuel →
        writePartLogToMsgIn ⟨0, len⟩ mem len kernelWrite fuel start readOffEnd = some part) ∧
      PartSafe mem len start part ∧
      ((∀ number, 0 ≤ kernelWrite number) →
        (part.items, part.ret) =
          ((writePartLogToMsg mem len (fun _ => true) start readOffEnd).1, 0)) := by
  obtain ⟨part, loop⟩ := @writeLoopIn_safe ⟨0, len⟩ mem len readOffEnd kernelWrite
    rfl rfl small (len + 1) start 0 ⟨[], [], 0⟩ bounded (Nat.zero_le _) (by omega) rfl
  refine ⟨part, ?_, loop.safe, loop.plain⟩
  intro fuel enough
  exact loop.runs fuel (by omega)

end Part

/-! ### The whole archive -/

section Archive

variable {mem : Memory} {len : Nat}

theorem PartSafe.weaken {start : Nat} {part : Archived} (safe : PartSafe mem len start part) :
    PartSafe mem len 0 part := by
  constructor
  · intro item member
    exact ⟨Nat.zero_le item, (safe.inside item member).2⟩
  · exact safe.payloadInside
  · exact safe.apart
  · exact safe.payload

theorem writeLoop_succeeds (stop fuel : Nat) :
    ∀ start total, (writeLoop mem len (fun _ => true) stop fuel start total).2 = true := by
  induction fuel with
  | zero =>
      intro start total
      rfl
  | succ fuel ih =>
      intro start total
      unfold writeLoop
      cases msgGetNext mem start logItemMaxLen len with
      | none => rfl
      | some item =>
          by_cases ordered : start ≤ stop
          · simp only [ordered, if_true]
            split
            · rfl
            · exact ih _ _
          · simp only [ordered, if_false]

/-- Every call of `write_log_to_msg` on the copied buffer of `len` bytes ends after a bounded
number of rounds, reads headers and payloads only inside of the buffer, and within each call
of `write_part_log_to_msg` hands over whole items of increasing position.  Where no write
fails the items are those of `writeLogToMsg`. -/
theorem writeLogToMsg_safe (mem : Memory) (kernelWrite : Nat → Int) (len readOff readOffEnd : Nat)
    (small : len ≤ 1048576) (start : readOff ≤ len) :
    ∃ calls,
      (∀ fuel, len + 18 ≤ fuel →
        writeLogToMsgIn ⟨0, len⟩ mem len kernelWrite fuel readOff readOffEnd = some calls) ∧
      (∀ call ∈ calls, PartSafe mem len 0 call) ∧
      ((∀ number, 0 ≤ kernelWrite number) →
        calls.flatMap Archived.items =
          (writeLogToMsg mem len (fun _ => true) readOff readOffEnd).1) := by
  unfold writeLogToMsgIn writeLogToMsg
  by_cases ordered : readOff < readOffEnd
  · obtain ⟨only, runs, safe, plain⟩ := @writePartLogToMsgIn_safe mem len readOffEnd kernelWrite
      small readOff start
    refine ⟨[only], ?_, ?_, ?_⟩
    · intro fuel enough
      rw [if_pos ordered, runs fuel enough, Option.map_some]
    · intro call member
      rw [List.mem_singleton.mp member]
      exact safe.weaken
    · intro works
      rw [if_pos ordered, List.flatMap_singleton]
      exact (Prod.mk.inj (plain works)).1
  · obtain ⟨upper, runs, safe, plain⟩ := @writePartLogToMsgIn_safe mem len len kernelWrite
      small readOff start
    by_cases failed : upper.ret ≠ 0
    · refine ⟨[upper], ?_, ?_, ?_⟩
      · intro fuel enough
        rw [if_neg ordered, runs fuel enough, Option.bind_some, if_pos failed]
      · intro call member
        rw [List.mem_singleton.mp member]
        exact safe.weaken
      · intro works
        exact absurd (Prod.mk.inj (plain works)).2 failed
    · obtain ⟨lower, runsLower, safeLower, plainLower⟩ := @writePartLogToMsgIn_safe mem len
        readOffEnd (fun number => kernelWrite (upper.items.length + number)) small 0
        (Nat.zero_le len)
      refine ⟨[upper, lower], ?_, ?_, ?_⟩
      · intro fuel enough
        rw [if_neg ordered, runs fuel enough, Option.bind_some, if_neg failed,
          runsLower fuel enough, Option.map_some]
      · intro call member
        rcases List.mem_cons.mp member with rfl | further
        · exact safe.weaken
        · rw [List.mem_singleton.mp further]
          exact safeLower
      · intro works
        rw [if_neg ordered, List.flatMap_cons, List.flatMap_singleton,
          (Prod.mk.inj (plain works)).1, (Prod.mk.inj (plainLower fun number => works _)).1]
        unfold writePartLogToMsg
        rw [if_pos (writeLoop_succeeds len (len + 1) readOff 0)]

end Archive

/-- An archive that starts behind the only item and comes round to it. -/
theorem writeLogToMsg_safe_one :
    (256 ≤ 1048576 ∧ 200 ≤ 256) ∧
      ∃ calls,
        (∀ fuel, 256 + 18 ≤ fuel →
          writeLogToMsgIn ⟨0, 256⟩ oneItemMemory 256 (fun _ => 64) fuel 200 128 = some calls) ∧
        (∀ call ∈ calls, PartSafe oneItemMemory 256 0 call) ∧
        ((∀ number, 0 ≤ (fun _ : Nat => (64 : Int)) number) →
          calls.flatMap Archived.items =
            (writeLogToMsg oneItemMemory 256 (fun _ => true) 200 128).1) :=
  ⟨by decide, writeLogToMsg_safe oneItemMemory (fun _ => 64) 256 200 128 (by decide) (by decide)⟩

end TzDriver.Tlogger
