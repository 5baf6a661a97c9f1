/-
The hash over a client's code (`update_task_hash` in `linux/auth/auth_base_impl.c`).

Each round maps the page that holds `start_code` and hashes from the base of that page.
-/

import TzDriver.Lib.Words
import TzDriver.Platform

namespace TzDriver.Auth

open TzDriver.Lib

/-- The fields of `struct mm_struct` that the hash reads, and the process's memory. -/
structure MmStruct where
  startCode : Nat
  endCode : Nat
  memory : Nat → UInt8

/-- What the calls of each round give: the number of pages pinned, whether `kmap_atomic`
returns an address, and the result of `crypto_shash_update`. -/
structure HashRounds where
  pinned : Nat → Int
  mapped : Nat → Bool
  update : Nat → Int

/-- The value returned and the bytes handed to `crypto_shash_update`. -/
structure TaskHash where
  rc : Int
  fed : List UInt8
deriving DecidableEq, Repr

def pinedPageNumber : Int := 1

section Hash

variable (pageShift : Nat) (mm : MmStruct) (rounds : HashRounds)

def pageSize : Nat := 2 ^ pageShift

/-- The first address of the page that holds `addr`, which is what `kmap_atomic` maps. -/
def pageBase (addr : Nat) : Nat := addr / pageSize pageShift * pageSize pageShift

def bytesFrom (memory : Nat → UInt8) (start size : Nat) : List UInt8 :=
  (List.range' start size).map memory

def inSize (codeSize : Nat) : Nat :=
  if codeSize > pageSize pageShift then pageSize pageShift else codeSize

/-- The loop of `update_task_hash` from round `number` on. -/
def hashLoop : Nat → Nat → Nat → Nat → TaskHash → Option TaskHash
  | 0, _, _, _, _ => none
  | fuel + 1, number, startCode, codeSize, done =>
      if startCode < mm.endCode then
        if rounds.pinned number ≠ pinedPageNumber then some { done with rc := -eFault }
        else if rounds.mapped number = false then some { done with rc := -eFault }
        else
          let size := inSize pageShift codeSize
          let fed := done.fed ++ bytesFrom mm.memory (pageBase pageShift startCode) size
          if rounds.update number ≠ 0 then some ⟨rounds.update number, fed⟩
          else
            hashLoop fuel (number + 1) (u64 (startCode + size))
              (sub64 mm.endCode (u64 (startCode + size))) ⟨0, fed⟩
      else some done

/-- `update_task_hash` with at most `fuel` rounds. -/
def updateTaskHash (fuel : Nat) : Option TaskHash :=
  let codeSize := sub64 mm.endCode mm.startCode
  if codeSize = 0 then some ⟨-eInval, []⟩
  else hashLoop pageShift mm rounds fuel 0 mm.startCode codeSize ⟨-1, []⟩

def codeBytes : List UInt8 :=
  bytesFrom mm.memory mm.startCode (mm.endCode - mm.startCode)

/-- The run ends with 0 after it has handed over `fed`.  It has at most one round for each
byte of the code. -/
def Hashes (fed : List UInt8) : Prop :=
  updateTaskHash pageShift mm rounds (mm.endCode - mm.startCode + 1) = some ⟨0, fed⟩

/-- No call of any round fails. -/
structure HashRounds.Calm : Prop where
  pinned : ∀ number, rounds.pinned number = pinedPageNumber
  mapped : ∀ number, rounds.mapped number = true
  update : ∀ number, rounds.update number = 0

end Hash

/-! ### The bytes of a run -/

section Runs

variable {pageShift : Nat} {mm : MmStruct} {rounds : HashRounds}

theorem pageSize_pos (pageShift : Nat) : 0 < pageSize pageShift :=
  Nat.two_pow_pos pageShift

theorem pageBase_next (addr : Nat) :
    pageBase pageShift (addr + pageSize pageShift) = pageBase pageShift addr + pageSize pageShift := by
  unfold pageBase
  rw [Nat.add_div_right addr (pageSize_pos pageShift), Nat.succ_mul]

theorem bytesFrom_append (memory : Nat → UInt8) (start first second : Nat) :
    bytesFrom memory start first ++ bytesFrom memory (start + first) second =
      bytesFrom memory start (first + second) := by
  unfold bytesFrom
  rw [← List.map_append, List.range'_append_1]

theorem inSize_bounds {codeSize : Nat} (some_ : 0 < codeSize) :
    0 < inSize pageShift codeSize ∧ inSize pageShift codeSize ≤ codeSize := by
  have positive := pageSize_pos pageShift
  unfold inSize
  split
  · omega
  · omega

theorem bytesFrom_round (memory : Nat → UInt8) (start stop : Nat) :
    bytesFrom memory (pageBase pageShift start) (inSize pageShift (stop - start)) ++
        bytesFrom memory (pageBase pageShift (start + inSize pageShift (stop - start)))
          (stop - (start + inSize pageShift (stop - start))) =
      bytesFrom memory (pageBase pageShift start) (stop - start) := by
  unfold inSize
  by_cases whole : stop - start > pageSize pageShift
  · have rest : pageSize pageShift + (stop - (start + pageSize pageShift)) = stop - start := by
      omega
    rw [if_pos whole, pageBase_next, bytesFrom_append, rest]
  · have nothing : stop - (start + (stop - start)) = 0 := by omega
    rw [if_neg whole, nothing]
    exact List.append_nil _

theorem hashLoop_round (addressable : mm.endCode < 18446744073709551616) {number start : Nat}
    (inside : start < mm.endCode) (pinned : rounds.pinned number = pinedPageNumber)
    (mapped : rounds.mapped number = true) (fuel : Nat) (done : TaskHash) :
    hashLoop pageShift mm rounds (fuel + 1) number start (mm.endCode - start) done =
      if rounds.update number ≠ 0 then
        some ⟨rounds.update number, done.fed ++ bytesFrom mm.memory (pageBase pageShift start)
          (inSize pageShift (mm.endCode - start))⟩
      else
        hashLoop pageShift mm rounds fuel (number + 1)
          (start + inSize pageShift (mm.endCode - start))
          (mm.endCode - (start + inSize pageShift (mm.endCode - start)))
          ⟨0, done.fed ++ bytesFrom mm.memory (pageBase pageShift start)
            (inSize pageShift (mm.endCode - start))⟩ := by
  have bounds := @inSize_bounds pageShift (mm.endCode - start) (by omega)
  have next : u64 (start + inSize pageShift (mm.endCode - start)) =
      start + inSize pageShift (mm.endCode - start) := Nat.mod_eq_of_lt (by omega)
  conv =>
    lhs
    unfold hashLoop
  rw [if_pos inside, if_neg (not_not_intro pinned), if_neg (by rw [mapped]; decide)]
  simp only
  rw [next, sub64_of_le (by omega) addressable]

/-- A run from `start` ends with `result`, and a successful one hands over as many bytes as are
left, from the base of the page on. -/
structure HashRun (pageShift : Nat) (mm : MmStruct) (rounds : HashRounds)
    (fuel number start : Nat) (done result : TaskHash) : Prop where
  runs : ∀ more, fuel ≤ more →
    hashLoop pageShift mm rounds more number start (mm.endCode - start) done = some result
  fed : start < mm.endCode ∨ done.rc = 0 → result.rc = 0 →
    result.fed = done.fed ++ bytesFrom mm.memory (pageBase pageShift start) (mm.endCode - start)
  works : start < mm.endCode ∨ done.rc = 0 → rounds.Calm → result.rc = 0

section Rounds

variable {fuel number start : Nat} {done result : TaskHash}

theorem HashRun.failed
    (round : ∀ less, hashLoop pageShift mm rounds (less + 1) number start (mm.endCode - start) done =
      some result)
    (error : result.rc ≠ 0) (uncalm : ¬rounds.Calm) :
    HashRun pageShift mm rounds (fuel + 1) number start done result := by
  constructor
  · intro more atMost
    obtain ⟨less, rfl⟩ : ∃ less, more = less + 1 := ⟨more - 1, by omega⟩
    exact round less
  · intro _ succeeded
    exact absurd succeeded error
  · intro _ calm
    exact absurd calm uncalm

theorem HashRun.cons (addressable : mm.endCode < 18446744073709551616)
    (inside : start < mm.endCode) (pinned : rounds.pinned number = pinedPageNumber)
    (mapped : rounds.mapped number = true) (updated : rounds.update number = 0)
    (further : HashRun pageShift mm rounds fuel (number + 1)
      (start + inSize pageShift (mm.endCode - start))
      ⟨0, done.fed ++ bytesFrom mm.memory (pageBase pageShift start)
        (inSize pageShift (mm.endCode - start))⟩ result) :
    HashRun pageShift mm rounds (fuel + 1) number start done result := by
  constructor
  · intro more atMost
    obtain ⟨less, rfl⟩ : ∃ less, more = less + 1 := ⟨more - 1, by omega⟩
    rw [hashLoop_round addressable inside pinned mapped, if_neg (not_not_intro updated)]
    exact further.runs less (by omega)
  · intro _ succeeded
    rw [further.fed (Or.inr rfl) succeeded, List.append_assoc, bytesFrom_round]
  · intro _
    exact further.works (Or.inr rfl)

theorem HashRun.finished (outside : ¬start < mm.endCode) :
    HashRun pageShift mm rounds (fuel + 1) number start done done := by
  constructor
  · intro more atMost
    obtain ⟨less, rfl⟩ : ∃ less, more = less + 1 := ⟨more - 1, by omega⟩
    unfold hashLoop
    rw [if_neg outside]
  · intro _ _
    have nothing : mm.endCode - start = 0 := by omega
    rw [nothing]
    exact (List.append_nil _).symm
  · intro started _
    exact started.resolve_left outside

end Rounds

theorem hashLoop_spec (addressable : mm.endCode < 18446744073709551616) (fuel : Nat) :
    ∀ number start done, start ≤ mm.endCode → mm.endCode - start < fuel →
      ∃ result, HashRun pageShift mm rounds fuel number start done result := by
  have fault : -eFault ≠ 0 := by decide
  induction fuel with
  | zero =>
      intro number start done _ enough
      omega
  | succ fuel ih =>
      intro number start done ordered enough
      by_cases inside : start < mm.endCode
      · by_cases pinned : rounds.pinned number = pinedPageNumber
        · cases mapped : rounds.mapped number with
          | false =>
              exists { done with rc := -eFault }
              apply HashRun.failed
              · intro less
                unfold hashLoop
                rw [if_pos inside, if_neg (not_not_intro pinned), if_pos mapped]
              · exact fault
              · intro calm
                rw [calm.mapped number] at mapped
                cases mapped
          | true =>
              have bounds := @inSize_bounds pageShift (mm.endCode - start) (by omega)
              by_cases updated : rounds.update number = 0
              · obtain ⟨result, further⟩ := ih (number + 1)
                  (start + inSize pageShift (mm.endCode - start))
                  ⟨0, done.fed ++ bytesFrom mm.memory (pageBase pageShift start)
                    (inSize pageShift (mm.endCode - start))⟩ (by omega) (by omega)
                exact ⟨result, further.cons addressable inside pinned mapped updated⟩
              · exists ⟨rounds.update number, done.fed ++ bytesFrom mm.memory
                  (pageBase pageShift start) (inSize pageShift (mm.endCode - start))⟩
                apply HashRun.failed
                · intro less
                  rw [hashLoop_round addressable inside pinned mapped, if_pos updated]
                · exact updated
                · intro calm
                  exact updated (calm.update number)
        · exists { done with rc := -eFault }
          apply HashRun.failed
          · intro less
            unfold hashLoop
            rw [if_pos inside, if_pos pinned]
          · exact fault
          · intro calm
            exact pinned (calm.pinned number)
      · exact ⟨done, HashRun.finished inside⟩

/-- What `update_task_hash` hands over is the code, moved to the start of its page. -/
theorem updateTaskHash_spec (rounds : HashRounds) (nonempty : mm.startCode < mm.endCode)
    (addressable : mm.endCode < 18446744073709551616) :
    ∃ result,
      (∀ fuel, mm.endCode - mm.startCode < fuel →
        updateTaskHash pageShift mm rounds fuel = some result) ∧
      (result.rc = 0 → result.fed = bytesFrom mm.memory (pageBase pageShift mm.startCode)
        (mm.endCode - mm.startCode)) ∧
      (rounds.Calm → result.rc = 0) := by
  obtain ⟨result, run⟩ := @hashLoop_spec pageShift mm rounds
    addressable (mm.endCode - mm.startCode + 1) 0 mm.startCode ⟨-1, []⟩ (Nat.le_of_lt nonempty)
    (Nat.lt_succ_self _)
  refine ⟨result, ?_, run.fed (Or.inl nonempty), run.works (Or.inl nonempty)⟩
  intro fuel enough
  unfold updateTaskHash
  simp only
  rw [sub64_of_le (Nat.le_of_lt nonempty) addressable, if_neg (by omega)]
  exact run.runs fuel enough

end Runs

/-! ### Exactly the code -/

/-- For every memory of a process with this code range the run ends, a run without faults
succeeds, and a successful run hands over the code. -/
structure CoversCode (pageShift startCode endCode : Nat) : Prop where
  ends : ∀ memory rounds, ∃ result, ∀ fuel, endCode - startCode < fuel →
    updateTaskHash pageShift ⟨startCode, endCode, memory⟩ rounds fuel = some result
  succeeds : ∀ memory rounds, rounds.Calm →
    ∃ fed, Hashes pageShift ⟨startCode, endCode, memory⟩ rounds fed
  fedCode : ∀ memory rounds fed, Hashes pageShift ⟨startCode, endCode, memory⟩ rounds fed →
    fed = codeBytes ⟨startCode, endCode, memory⟩
  separates : ∀ memory rounds fed other otherRounds otherFed,
    Hashes pageShift ⟨startCode, endCode, memory⟩ rounds fed →
    Hashes pageShift ⟨startCode, endCode, other⟩ otherRounds otherFed →
    codeBytes ⟨startCode, endCode, memory⟩ ≠ codeBytes ⟨startCode, endCode, other⟩ →
    fed ≠ otherFed

section Exact

variable {pageShift startCode endCode : Nat}

theorem hashes_fed (nonempty : startCode < endCode) (addressable : endCode < 18446744073709551616)
    {memory : Nat → UInt8} {rounds : HashRounds} {fed : List UInt8}
    (hashes : Hashes pageShift ⟨startCode, endCode, memory⟩ rounds fed) :
    fed = bytesFrom memory (pageBase pageShift startCode) (endCode - startCode) := by
  obtain ⟨result, runs, spec, -⟩ := @updateTaskHash_spec pageShift ⟨startCode, endCode, memory⟩
    rounds nonempty addressable
  have same := (runs _ (Nat.lt_succ_self _)).symm.trans hashes
  rw [Option.some.inj same] at spec
  exact spec rfl

theorem pageBase_of_aligned (aligned : startCode % pageSize pageShift = 0) :
    pageBase pageShift startCode = startCode :=
  Nat.div_mul_cancel (Nat.dvd_of_mod_eq_zero aligned)

theorem coversCode_of_aligned (nonempty : startCode < endCode)
    (addressable : endCode < 18446744073709551616)
    (aligned : startCode % pageSize pageShift = 0) : CoversCode pageShift startCode endCode := by
  have fedCode : ∀ memory rounds fed,
      Hashes pageShift ⟨startCode, endCode, memory⟩ rounds fed →
        fed = codeBytes ⟨startCode, endCode, memory⟩ := by
    intro memory rounds fed hashes
    rw [hashes_fed nonempty addressable hashes, pageBase_of_aligned aligned]
    rfl
  refine ⟨?_, ?_, fedCode, ?_⟩
  · intro memory rounds
    obtain ⟨result, runs, -⟩ := @updateTaskHash_spec pageShift ⟨startCode, endCode, memory⟩
      rounds nonempty addressable
    exact ⟨result, runs⟩
  · intro memory rounds calm
    obtain ⟨result, runs, -, works⟩ := @updateTaskHash_spec pageShift ⟨startCode, endCode, memory⟩
      rounds nonempty addressable
    refine ⟨result.fed, ?_⟩
    unfold Hashes
    rw [runs _ (Nat.lt_succ_self _), ← works calm]
  · intro memory rounds fed other otherRounds otherFed hashes otherHashes differ same
    apply differ
    rw [← fedCode memory rounds fed hashes, ← fedCode other otherRounds otherFed otherHashes, same]

/-- A process whose only byte that is not 0 is the last of its code. -/
def lastByte (endCode addr : Nat) : UInt8 :=
  if addr + 1 = endCode then 1 else 0

/-- Behind an unaligned start the last byte of the code is not hashed. -/
theorem last_not_fed (unaligned : startCode % pageSize pageShift ≠ 0) (nonempty : startCode < endCode) :
    (1 : UInt8) ∉ bytesFrom (lastByte endCode) (pageBase pageShift startCode)
      (endCode - startCode) := by
  have split : pageBase pageShift startCode + startCode % pageSize pageShift = startCode :=
    Nat.div_add_mod' startCode (pageSize pageShift)
  intro member
  obtain ⟨addr, inRange, byte⟩ := List.mem_map.mp member
  have below := (List.mem_range'_1.mp inRange).2
  unfold lastByte at byte
  rw [if_neg (by omega)] at byte
  exact absurd byte (by decide)

theorem last_in_code (nonempty : startCode < endCode) :
    (1 : UInt8) ∈ codeBytes ⟨startCode, endCode, lastByte endCode⟩ := by
  apply List.mem_map.mpr
  refine ⟨endCode - 1, List.mem_range'_1.mpr ⟨?_, ?_⟩, ?_⟩
  · change startCode ≤ endCode - 1
    omega
  · change endCode - 1 < startCode + (endCode - startCode)
    omega
  · change (if endCode - 1 + 1 = endCode then (1 : UInt8) else 0) = 1
    rw [if_pos (by omega)]

def calmRounds : HashRounds := ⟨fun _ => pinedPageNumber, fun _ => true, fun _ => 0⟩

theorem calmRounds_calm : calmRounds.Calm :=
  ⟨fun _ => rfl, fun _ => rfl, fun _ => rfl⟩

/-- The hash covers exactly the code of every process with this code range if and only if the
range starts at a page. -/
theorem updateTaskHash_covers_iff (pageShift startCode endCode : Nat)
    (nonempty : startCode < endCode) (addressable : endCode < 18446744073709551616) :
    CoversCode pageShift startCode endCode ↔ startCode % pageSize pageShift = 0 := by
  constructor
  · intro covers
    by_contra unaligned
    obtain ⟨fed, hashes⟩ := covers.succeeds (lastByte endCode) calmRounds calmRounds_calm
    have code := covers.fedCode _ _ _ hashes
    apply last_not_fed unaligned nonempty
    rw [← hashes_fed nonempty addressable hashes, code]
    exact last_in_code nonempty
  · intro aligned
    exact coversCode_of_aligned nonempty addressable aligned

end Exact

/-- A code range of one page. -/
theorem updateTaskHash_covers_page :
    (0x400000 < 0x401000 ∧ 0x401000 < 18446744073709551616) ∧
      (CoversCode 12 0x400000 0x401000 ↔ 0x400000 % pageSize 12 = 0) :=
  ⟨by decide, updateTaskHash_covers_iff 12 0x400000 0x401000 (by decide) (by decide)⟩

/-- Four bytes of code from 0x400002 on, where every byte is the low byte of its address: the
bytes from 0x400000 on are hashed. -/
theorem unaligned_code_not_hashed :
    let mm : MmStruct := ⟨0x400002, 0x400006, fun addr => UInt8.ofNat addr⟩
    Hashes 12 mm calmRounds [0, 1, 2, 3] ∧ codeBytes mm = [2, 3, 4, 5] ∧
      ¬CoversCode 12 0x400002 0x400006 := by
  have hashes : Hashes 12 ⟨0x400002, 0x400006, fun addr => UInt8.ofNat addr⟩ calmRounds
      [0, 1, 2, 3] := by
    unfold Hashes
    decide +kernel
  have code : codeBytes ⟨0x400002, 0x400006, fun addr => UInt8.ofNat addr⟩ = [2, 3, 4, 5] := by
    decide +kernel
  refine ⟨hashes, code, ?_⟩
  intro covers
  have same := covers.fedCode _ _ _ hashes
  rw [code] at same
  exact absurd same (by decide)

end TzDriver.Auth
