/-
The frames of an image and the mailbox blocks behind them (`load_image` in
`linux/core/session_manager.c`).

The load is written once more with the 32-bit and 64-bit variables of the code, the
bytes of each frame and the blocks that are taken and given back.  The file does not
change during the call: `content` gives its bytes.
-/

import TzDriver.Lib.Ledger
import TzDriver.Lib.Words
import TzDriver.Session.LoadImage

namespace TzDriver.Session

open TzDriver.Client TzDriver.Lib

/-- The addresses of the blocks that the mailbox pool gives out; `loadMem n` is that of
the `n`th allocation for the frame buffer. -/
structure LoadBlocks where
  loadMem : Nat → UInt64
  mbPack : UInt64
  uuidReturn : UInt64

structure SentFrame extends LoadFrame where
  payload : List UInt8
deriving DecidableEq, Repr

/-- What one `load_image` returned, sent, took and gave back, with `mb_load_size` as it
stood at the end. -/
structure LoadRun where
  ret : Int
  mbLoadSize : Nat
  frames : List SentFrame
  blocks : List (Entry UInt64)

section Run

variable (env : LoadEnv) (file : DevFile) (at_ : LoadBlocks) (ion : Bool) (content : Nat → UInt8)

/-- The halving loop of `alloc_for_load_image`: `mb_load_size` and `mb_load_mem`. -/
def allocBlock : Nat → Nat → Nat → Option (Nat × UInt64)
  | 0, _, _ => none
  | bits + 1, attempt, size =>
      if size = 0 then none
      else if env.loadMem attempt then some (size, at_.loadMem attempt)
      else allocBlock bits (attempt + 1) (size / 2)

/-- `load_image_by_frame` from `index` on; `ion` tells whether `load_image_for_ion`
came back with 0. -/
def sendFrames (fileBuffer : UInt64) (fileSize mbLoadSize loadTimes : Nat) :
    Nat → Nat → Nat → Int × List SentFrame
  | 0, _, _ => (0, [])
  | fuel + 1, index, loadedSize =>
      if index < loadTimes then
        let isLast := index = sub32 loadTimes 1
        let loadFlag := if isLast then 0 else 1
        let loadSize :=
          if isLast then sub32 fileSize loadedSize else u32 (sub64 mbLoadSize loadFlagSize)
        if loadSize > sub64 mbLoadSize loadFlagSize then (-eInval, [])
        else if
          (loadImageCopyFile env file fileBuffer mbLoadSize loadSize index loadedSize).1 ≠ 0 then
          (-eFault, [])
        else
          let frame : SentFrame :=
            { index := index
              loadFlag := loadFlag
              offset := loadedSize
              size := loadSize
              payload := (List.range' loadedSize loadSize).map content }
          if (env.frameAnswer index).ret ≠ 0 then (-eFault, [frame])
          else if loadFlag = 0 ∧ ion = false then (-ePerm, [frame])
          else
            let later := sendFrames fileBuffer fileSize mbLoadSize loadTimes fuel (u32 (index + 1))
              (u32 (loadedSize + loadSize))
            (later.1, frame :: later.2)
      else (0, [])

def loadTimes (fileSize mbLoadSize : Nat) : Nat :=
  let frameSize := sub64 mbLoadSize loadFlagSize
  if fileSize % frameSize ≠ 0 then u32 (u32 (fileSize / frameSize) + 1)
  else u32 (fileSize / frameSize)

/-- The entries of `free_load_image_buffer`. -/
def freeLoadImageBuffer (mem : UInt64) : List (Entry UInt64) :=
  [.release mem, .release at_.mbPack, .release at_.uuidReturn]

def runLoadImage (fileBuffer : UInt64) (fileSize : Nat) : LoadRun :=
  match allocBlock env at_ 32 0 (loadMemSize fileSize) with
  | none => ⟨-eNoMem, 0, [], []⟩
  | some (mbLoadSize, mem) =>
      if env.loadPack = false then
        ⟨-eNoMem, mbLoadSize, [], [.acquire mem, .release mem]⟩
      else if env.uuidReturn = false then
        ⟨-eNoMem, mbLoadSize, [],
          [.acquire mem, .acquire at_.mbPack, .release mem, .release at_.mbPack]⟩
      else
        let taken : List (Entry UInt64) :=
          [.acquire mem, .acquire at_.mbPack, .acquire at_.uuidReturn]
        if mbLoadSize ≤ loadFlagSize then
          ⟨-eNoMem, mbLoadSize, [], taken ++ freeLoadImageBuffer at_ mem⟩
        else
          let times := loadTimes fileSize mbLoadSize
          let sent := sendFrames env file ion content fileBuffer fileSize mbLoadSize times times 0 0
          if sent.1 ≠ 0 then ⟨sent.1, mbLoadSize, sent.2, taken ++ freeLoadImageBuffer at_ mem⟩
          else ⟨0, mbLoadSize, sent.2, taken ++ freeLoadImageBuffer at_ mem⟩

end Run

/-! ### The blocks -/

section Blocks

variable {env : LoadEnv} {at_ : LoadBlocks}

theorem loadMemSize_le (fileSize : Nat) : loadMemSize fileSize ≤ 1048576 := by
  unfold loadMemSize sz1M sz4K loadFlagSize
  split
  · omega
  · omega

theorem allocBlock_le {bits attempt size given : Nat} {mem : UInt64}
    (got : allocBlock env at_ bits attempt size = some (given, mem)) : given ≤ size := by
  induction bits generalizing attempt size with
  | zero => cases got
  | succ bits ih =>
      unfold allocBlock at got
      by_cases gone : size = 0
      · rw [if_pos gone] at got
        cases got
      · rw [if_neg gone] at got
        by_cases allocated : env.loadMem attempt = true
        · rw [if_pos allocated] at got
          cases got
          exact Nat.le_refl _
        · rw [if_neg allocated] at got
          have half := ih got
          omega

theorem held_pair (first second : UInt64) :
    Ledger.held 0 [.acquire first, .acquire second, .release first, .release second] = some 0 := by
  change Ledger.held (second ::ₘ first ::ₘ 0) [.release first, .release second] = some 0
  rw [Multiset.cons_swap, Ledger.held_release_cons, Ledger.held_release]

theorem held_freeLoadImageBuffer (mem : UInt64) :
    Ledger.held 0 ([.acquire mem, .acquire at_.mbPack, .acquire at_.uuidReturn] ++
      freeLoadImageBuffer at_ mem) = some 0 := by
  change Ledger.held (at_.uuidReturn ::ₘ at_.mbPack ::ₘ mem ::ₘ 0) (freeLoadImageBuffer at_ mem) =
    some 0
  unfold freeLoadImageBuffer
  rw [Multiset.cons_swap at_.mbPack, Multiset.cons_swap, Ledger.held_release_cons,
    Multiset.cons_swap, Ledger.held_release_cons, Ledger.held_release]

/-- Every block that a load took is given back, once. -/
theorem runLoadImage_settled (env : LoadEnv) (file : DevFile) (at_ : LoadBlocks) (ion : Bool)
    (content : Nat → UInt8) (fileBuffer : UInt64) (fileSize : Nat) :
    Ledger.Settled (runLoadImage env file at_ ion content fileBuffer fileSize).blocks := by
  unfold runLoadImage Ledger.Settled
  split
  · rfl
  · next mbLoadSize mem got =>
      split
      · exact Ledger.held_release 0 mem
      split
      · exact held_pair mem at_.mbPack
      split
      · exact held_freeLoadImageBuffer mem
      simp only
      split
      · exact held_freeLoadImageBuffer mem
      · exact held_freeLoadImageBuffer mem

end Blocks

/-! ### The frames -/

section Frames

variable {env : LoadEnv} {file : DevFile} {ion : Bool} {content : Nat → UInt8}
  {fileBuffer : UInt64} {fileSize mbLoadSize times : Nat}

/-- `times` frames of at most `frameSize` bytes are just enough for the file. -/
structure Divides (fileSize frameSize times : Nat) : Prop where
  some_ : 0 < times
  enough : fileSize ≤ times * frameSize
  needed : (times - 1) * frameSize < fileSize

theorem divides_exact {frameSize quotient : Nat} (nonempty : 0 < fileSize)
    (split : quotient * frameSize = fileSize) (positive : 0 < frameSize) :
    Divides fileSize frameSize quotient := by
  have some_ : 0 < quotient := by
    rcases Nat.eq_zero_or_pos quotient with rfl | some_
    · omega
    · exact some_
  refine ⟨some_, by omega, ?_⟩
  rw [Nat.sub_mul]
  omega

theorem divides_succ {frameSize quotient rest : Nat}
    (split : quotient * frameSize + rest = fileSize) (below : rest < frameSize) (more : 0 < rest) :
    Divides fileSize frameSize (quotient + 1) := by
  refine ⟨Nat.succ_pos quotient, ?_, ?_⟩
  · rw [Nat.succ_mul]
    omega
  · rw [Nat.add_sub_cancel]
    omega

theorem loadTimes_eq (small : fileSize < 16777216) (large : 4 < mbLoadSize)
    (word : mbLoadSize < 16777216) :
    loadTimes fileSize mbLoadSize =
      fileSize / (mbLoadSize - 4) + if fileSize % (mbLoadSize - 4) ≠ 0 then 1 else 0 := by
  have size : sub64 mbLoadSize loadFlagSize = mbLoadSize - 4 :=
    sub64_of_le (Nat.le_of_lt large) (by omega)
  unfold loadTimes
  simp only [size]
  generalize mbLoadSize - 4 = frameSize
  have less := Nat.div_le_self fileSize frameSize
  generalize fileSize / frameSize = quotient at less
  have words : u32 quotient = quotient := u32_of_lt (by omega)
  have next : u32 (quotient + 1) = quotient + 1 := u32_of_lt (by omega)
  rw [words, next]
  split
  · rfl
  · rfl

theorem loadTimes_divides (nonempty : 0 < fileSize) (small : fileSize < 16777216)
    (large : 4 < mbLoadSize) (word : mbLoadSize < 16777216) :
    Divides fileSize (mbLoadSize - 4) (loadTimes fileSize mbLoadSize) ∧
      loadTimes fileSize mbLoadSize < 16777217 := by
  have positive : 0 < mbLoadSize - 4 := by omega
  rw [loadTimes_eq small large word]
  generalize mbLoadSize - 4 = frameSize at positive
  have split := Nat.div_add_mod' fileSize frameSize
  have below := Nat.mod_lt fileSize positive
  have less := Nat.div_le_self fileSize frameSize
  by_cases whole : fileSize % frameSize = 0
  · rw [if_neg (not_not_intro whole)]
    rw [whole] at split
    exact ⟨divides_exact nonempty split positive, Nat.lt_of_le_of_lt less (by omega)⟩
  · rw [if_pos whole]
    exact ⟨divides_succ split below (Nat.pos_of_ne_zero whole), Nat.succ_lt_succ (by omega)⟩

/-- What holds of the frames from `index` on, when `loaded` bytes went before them. -/
structure Framed (content : Nat → UInt8) (fileSize frameSize times index loaded : Nat)
    (frames : List SentFrame) : Prop where
  indexed : frames.map (fun frame => frame.index) = List.range' index (times - index)
  sized : ∀ frame ∈ frames, 0 < frame.payload.length ∧ frame.payload.length ≤ frameSize
  flagged : ∀ frame ∈ frames, frame.loadFlag = 0 ↔ frame.index + 1 = times
  whole : frames.flatMap (fun frame => frame.payload) =
    (List.range' loaded (fileSize - loaded)).map content

theorem Framed.nil {frameSize index loaded : Nat} (past : times ≤ index)
    (complete : fileSize ≤ loaded) :
    Framed content fileSize frameSize times index loaded [] := by
  refine ⟨?_, ?_, ?_, ?_⟩
  · rw [Nat.sub_eq_zero_of_le past]
    rfl
  · intro frame impossible
    cases impossible
  · intro frame impossible
    cases impossible
  · rw [Nat.sub_eq_zero_of_le complete]
    rfl

theorem Framed.cons {frameSize index loaded : Nat} {frame : SentFrame} {later : List SentFrame}
    (ahead : index < times) (sameIndex : frame.index = index)
    (payload : frame.payload = (List.range' loaded frame.size).map content)
    (nonempty : 0 < frame.size) (fits : frame.size ≤ frameSize)
    (inside : loaded + frame.size ≤ fileSize)
    (flag : frame.loadFlag = 0 ↔ index + 1 = times)
    (rest : Framed content fileSize frameSize times (index + 1) (loaded + frame.size) later) :
    Framed content fileSize frameSize times index loaded (frame :: later) := by
  have length : frame.payload.length = frame.size := by
    rw [payload, List.length_map, List.length_range']
  refine ⟨?_, ?_, ?_, ?_⟩
  · have count : times - index = times - (index + 1) + 1 := by omega
    rw [List.map_cons, rest.indexed, sameIndex, count, List.range'_succ]
  · intro one member
    rcases List.mem_cons.mp member with rfl | further
    · rw [length]
      exact ⟨nonempty, fits⟩
    · exact rest.sized one further
  · intro one member
    rcases List.mem_cons.mp member with rfl | further
    · rw [sameIndex]
      exact flag
    · exact rest.flagged one further
  · have count : fileSize - loaded = frame.size + (fileSize - (loaded + frame.size)) := by omega
    rw [List.flatMap_cons, rest.whole, payload, count, ← List.range'_append_1, List.map_append]

def sizeAt (fileSize frameSize times index : Nat) : Nat :=
  if index + 1 = times then fileSize - index * frameSize else frameSize

theorem Divides.sizeAt_bounds {frameSize index : Nat} (divides : Divides fileSize frameSize times)
    (ahead : index < times) (positive : 0 < frameSize) :
    0 < sizeAt fileSize frameSize times index ∧
      sizeAt fileSize frameSize times index ≤ frameSize ∧
      index * frameSize + sizeAt fileSize frameSize times index ≤ fileSize ∧
      index * frameSize + sizeAt fileSize frameSize times index =
        min ((index + 1) * frameSize) fileSize := by
  have enough := divides.enough
  have needed := divides.needed
  unfold sizeAt
  by_cases isLast : index + 1 = times
  · rw [if_pos isLast]
    rw [← isLast, Nat.succ_mul] at enough
    rw [← isLast, Nat.add_sub_cancel] at needed
    rw [Nat.succ_mul]
    omega
  · rw [if_neg isLast]
    have further : (index + 1) * frameSize ≤ (times - 1) * frameSize :=
      Nat.mul_le_mul_right frameSize (by omega)
    rw [Nat.succ_mul] at further ⊢
    omega

/-- One round of the loop, without the wraps that cannot happen. -/
theorem sendFrames_succ {fuel index : Nat} (divides : Divides fileSize (mbLoadSize - 4) times)
    (small : fileSize < 16777216) (few : times < 16777217) (large : 4 < mbLoadSize)
    (word : mbLoadSize < 16777216) (ahead : index < times) :
    sendFrames env file ion content fileBuffer fileSize mbLoadSize times (fuel + 1) index
        (index * (mbLoadSize - 4)) =
      let size := sizeAt fileSize (mbLoadSize - 4) times index
      let loaded := index * (mbLoadSize - 4)
      let flag := if index + 1 = times then 0 else 1
      if (loadImageCopyFile env file fileBuffer mbLoadSize size index loaded).1 ≠ 0 then
        (-eFault, [])
      else
        let frame : SentFrame :=
          ⟨⟨index, flag, loaded, size⟩, (List.range' loaded size).map content⟩
        if (env.frameAnswer index).ret ≠ 0 then (-eFault, [frame])
        else if flag = 0 ∧ ion = false then (-ePerm, [frame])
        else
          let later := sendFrames env file ion content fileBuffer fileSize mbLoadSize times fuel
            (index + 1) (loaded + size)
          (later.1, frame :: later.2) := by
  obtain ⟨_, fits, inside, _⟩ := divides.sizeAt_bounds ahead (by omega)
  have frameSize : sub64 mbLoadSize loadFlagSize = mbLoadSize - 4 :=
    sub64_of_le (Nat.le_of_lt large) (by omega)
  have lastIndex : sub32 times 1 = times - 1 := sub32_of_le (by omega) (by omega)
  have lastIff : index = times - 1 ↔ index + 1 = times := by omega
  have rest : sub32 fileSize (index * (mbLoadSize - 4)) = fileSize - index * (mbLoadSize - 4) :=
    sub32_of_le (by omega) (by omega)
  have size :
      (if index + 1 = times then fileSize - index * (mbLoadSize - 4) else mbLoadSize - 4) =
        sizeAt fileSize (mbLoadSize - 4) times index := rfl
  rw [sendFrames, if_pos ahead]
  simp only [frameSize, lastIndex, lastIff, rest, u32_of_lt (show mbLoadSize - 4 < _ by omega),
    size]
  rw [if_neg (by omega), u32_of_lt (by omega), u32_of_lt (by omega)]

theorem sendFrames_framed (divides : Divides fileSize (mbLoadSize - 4) times)
    (small : fileSize < 16777216) (few : times < 16777217) (large : 4 < mbLoadSize)
    (word : mbLoadSize < 16777216) (fuel : Nat) :
    ∀ index, index + fuel = times → ∀ loaded, loaded = min (index * (mbLoadSize - 4)) fileSize →
      (sendFrames env file ion content fileBuffer fileSize mbLoadSize times fuel index
        loaded).1 = 0 →
      Framed content fileSize (mbLoadSize - 4) times index loaded
        (sendFrames env file ion content fileBuffer fileSize mbLoadSize times fuel index
          loaded).2 := by
  have enough := divides.enough
  induction fuel with
  | zero =>
      intro index last loaded reached _
      obtain rfl : index = times := last
      exact .nil (Nat.le_refl _) (by omega)
  | succ fuel ih =>
      intro index count loaded reached
      have ahead : index < times := by omega
      obtain ⟨nonempty, fits, inside, next⟩ := divides.sizeAt_bounds ahead (by omega)
      obtain rfl : loaded = index * (mbLoadSize - 4) := by omega
      rw [sendFrames_succ divides small few large word ahead]
      have flagged : (if index + 1 = times then 0 else 1) = 0 ↔ index + 1 = times := by
        by_cases isLast : index + 1 = times
        · simp only [isLast, if_true]
        · simp only [isLast, if_false, Nat.one_ne_zero]
      generalize (if index + 1 = times then 0 else 1) = flag at flagged
      simp only
      split
      · intro impossible
        cases impossible
      split
      · intro impossible
        cases impossible
      split
      · intro impossible
        cases impossible
      intro returned
      exact .cons ahead rfl rfl nonempty fits inside flagged (ih _ (by omega) _ next returned)

end Frames

/-! ### A whole load -/

section Whole

variable {env : LoadEnv} {file : DevFile} {at_ : LoadBlocks} {ion : Bool} {content : Nat → UInt8}
  {fileBuffer : UInt64} {fileSize : Nat}

/-- The frames of a load that returned 0. -/
structure Lossless (content : Nat → UInt8) (fileSize mbLoadSize : Nat)
    (frames : List SentFrame) : Prop where
  indexed : frames.map (fun frame => frame.index) = List.range frames.length
  sized : ∀ frame ∈ frames, 0 < frame.payload.length ∧ frame.payload.length ≤ mbLoadSize - 4
  flagged : ∀ frame ∈ frames, frame.loadFlag = 0 ↔ frame.index + 1 = frames.length
  whole : frames.flatMap (fun frame => frame.payload) = (List.range fileSize).map content

theorem Framed.lossless {mbLoadSize times : Nat} {frames : List SentFrame}
    (framed : Framed content fileSize (mbLoadSize - 4) times 0 0 frames) :
    Lossless content fileSize mbLoadSize frames := by
  have count : frames.length = times := by
    rw [← List.length_map (f := fun frame : SentFrame => frame.index), framed.indexed,
      List.length_range', Nat.sub_zero]
  refine ⟨?_, framed.sized, ?_, ?_⟩
  · rw [framed.indexed, count, List.range_eq_range', Nat.sub_zero]
  · rw [count]
    exact framed.flagged
  · rw [framed.whole, List.range_eq_range', Nat.sub_zero]

/-- A load that returns 0 sent the file and nothing else, and every load gives back the
blocks it took. -/
theorem runLoadImage_lossless (env : LoadEnv) (file : DevFile) (at_ : LoadBlocks) (ion : Bool)
    (content : Nat → UInt8) (fileBuffer : UInt64) (fileSize : Nat) (nonempty : 1 ≤ fileSize)
    (supported : fileSize ≤ sz8M) :
    ((runLoadImage env file at_ ion content fileBuffer fileSize).ret = 0 →
      Lossless content fileSize (runLoadImage env file at_ ion content fileBuffer fileSize).mbLoadSize
        (runLoadImage env file at_ ion content fileBuffer fileSize).frames) ∧
      Ledger.Settled (runLoadImage env file at_ ion content fileBuffer fileSize).blocks := by
  refine ⟨?_, runLoadImage_settled env file at_ ion content fileBuffer fileSize⟩
  have small : fileSize < 16777216 := Nat.lt_of_le_of_lt supported (by decide)
  unfold runLoadImage
  split
  · intro impossible
    cases impossible
  · next mbLoadSize mem got =>
      have word : mbLoadSize < 16777216 := by
        have given := allocBlock_le got
        have first := loadMemSize_le fileSize
        omega
      split
      · intro impossible
        cases impossible
      split
      · intro impossible
        cases impossible
      split
      · intro impossible
        cases impossible
      · next large =>
          have more : 4 < mbLoadSize := Nat.lt_of_not_le large
          obtain ⟨divides, few⟩ := loadTimes_divides nonempty small more word
          simp only
          split
          · next failed =>
              intro returned
              exact absurd returned failed
          · next sent =>
              intro _
              exact (sendFrames_framed divides small few more word _ 0 (by omega) 0 (by omega)
                (not_not.mp sent)).lossless

/-- The frame buffer is halved nine times, down to 8 bytes. -/
def halvedEnv : LoadEnv :=
  { needPack := true
    needParam := true
    needAnswer := 0
    needLoad := 1
    loadMem := fun attempt => decide (9 ≤ attempt)
    loadPack := true
    uuidReturn := true
    frameCopy := fun _ => true
    frameAnswer := fun _ => ⟨0, .zeroed⟩ }

def halvedBlocks : LoadBlocks :=
  { loadMem := fun _ => 0x20000
    mbPack := 0x30000
    uuidReturn := 0x40000 }

theorem runLoadImage_lossless_halved :
    (1 ≤ 10 ∧ 10 ≤ sz8M ∧
      (runLoadImage halvedEnv userDev halvedBlocks true UInt8.ofNat 0x1000 10).ret = 0) ∧
    Lossless UInt8.ofNat 10
      (runLoadImage halvedEnv userDev halvedBlocks true UInt8.ofNat 0x1000 10).mbLoadSize
      (runLoadImage halvedEnv userDev halvedBlocks true UInt8.ofNat 0x1000 10).frames :=
  ⟨by decide +kernel,
    (runLoadImage_lossless halvedEnv userDev halvedBlocks true UInt8.ofNat 0x1000 10 (by decide)
      (by decide)).1 (by decide +kernel)⟩

theorem allocBlock_size (bits attempt size : Nat) :
    (allocBlock env at_ bits attempt size).map Prod.fst = allocLoadMem env bits attempt size := by
  induction bits generalizing attempt size with
  | zero => rfl
  | succ bits ih =>
      unfold allocBlock allocLoadMem
      split
      · rfl
      split
      · rfl
      · exact ih _ _

theorem sendFrames_loadImageByFrame {mbLoadSize times : Nat}
    (divides : Divides fileSize (mbLoadSize - 4) times) (small : fileSize < 16777216)
    (few : times < 16777217) (large : 4 < mbLoadSize) (word : mbLoadSize < 16777216) (fuel : Nat) :
    ∀ index, index + fuel = times → ∀ loaded, loaded = min (index * (mbLoadSize - 4)) fileSize →
      (sendFrames env file true content fileBuffer fileSize mbLoadSize times fuel index loaded).1 =
          (loadImageByFrame env file fileBuffer fileSize mbLoadSize fuel index loaded).ret ∧
        (sendFrames env file true content fileBuffer fileSize mbLoadSize times fuel index
            loaded).2.map SentFrame.toLoadFrame =
          (loadImageByFrame env file fileBuffer fileSize mbLoadSize fuel index loaded).frames := by
  induction fuel with
  | zero =>
      intro index last loaded reached
      exact ⟨rfl, rfl⟩
  | succ fuel ih =>
      intro index count loaded reached
      have ahead : index < times := by omega
      obtain ⟨_, fits, inside, next⟩ := divides.sizeAt_bounds ahead (by omega)
      obtain rfl : loaded = index * (mbLoadSize - 4) := by omega
      have lastIff : fuel = 0 ↔ index + 1 = times := by omega
      have size :
          (if index + 1 = times then fileSize - index * (mbLoadSize - 4)
            else mbLoadSize - loadFlagSize) = sizeAt fileSize (mbLoadSize - 4) times index := rfl
      have bound : ¬sizeAt fileSize (mbLoadSize - 4) times index > mbLoadSize - loadFlagSize :=
        Nat.not_lt.mpr fits
      obtain ⟨sameRet, sameFrames⟩ := ih (index + 1) (by omega) _ next
      rw [sendFrames_succ divides small few large word ahead, loadImageByFrame]
      simp only [lastIff, size, if_neg bound, Bool.true_eq_false, and_false, if_false]
      split
      · exact ⟨rfl, rfl⟩
      split
      · exact ⟨rfl, rfl⟩
      · exact ⟨sameRet, congrArg (List.cons _) sameFrames⟩

/-- The load of this module is the one that an open runs. -/
theorem runLoadImage_loadImage (nonempty : 1 ≤ fileSize) (supported : fileSize ≤ sz8M) :
    (runLoadImage env file at_ true content fileBuffer fileSize).ret =
        (loadImage env file fileBuffer fileSize).ret ∧
      (runLoadImage env file at_ true content fileBuffer fileSize).frames.map
          SentFrame.toLoadFrame =
        (loadImage env file fileBuffer fileSize).frames := by
  have small : fileSize < 16777216 := Nat.lt_of_le_of_lt supported (by decide)
  unfold runLoadImage loadImage allocForLoadImage
  have sameSize : (allocBlock env at_ 32 0 (loadMemSize fileSize)).map Prod.fst =
      allocLoadMem env 32 0 (loadMemSize fileSize) := allocBlock_size 32 0 _
  rw [← sameSize]
  cases got : allocBlock env at_ 32 0 (loadMemSize fileSize) with
  | none => exact ⟨rfl, rfl⟩
  | some given =>
      obtain ⟨mbLoadSize, mem⟩ := given
      have word : mbLoadSize < 16777216 := by
        have below := allocBlock_le got
        have first := loadMemSize_le fileSize
        omega
      simp only [Option.map_some]
      split
      · exact ⟨rfl, rfl⟩
      split
      · exact ⟨rfl, rfl⟩
      simp only
      split
      · exact ⟨rfl, rfl⟩
      · next large =>
          have more : 4 < mbLoadSize := Nat.lt_of_not_le large
          obtain ⟨divides, few⟩ := loadTimes_divides nonempty small more word
          have times : fileSize / (mbLoadSize - loadFlagSize) +
              (if fileSize % (mbLoadSize - loadFlagSize) ≠ 0 then 1 else 0) =
                loadTimes fileSize mbLoadSize := (loadTimes_eq small more word).symm
          have same := @sendFrames_loadImageByFrame env file content fileBuffer fileSize
            mbLoadSize _ divides small few more word _ 0 (Nat.zero_add _) 0 (by omega)
          rw [times]
          split
          · exact same
          · next sent => exact ⟨(not_not.mp sent).symm.trans same.1, same.2⟩

end Whole

end TzDriver.Session
