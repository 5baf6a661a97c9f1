/-
Loading the image of a service before its session is opened
(`tc_ns_need_load_image` to `load_ta_image` in `linux/core/session_manager.c`), for
a build without `CONFIG_CRL_PATH` and `CONFIG_ION`.

`is_valid_ta_size` keeps every size below 2^24, so the 32-bit sums and
differences of the frame loop are those of the natural numbers.
-/

import TzDriver.Client.Trace
import TzDriver.Session.LoginInfo

namespace TzDriver.Session

open TzDriver.Client

def sz4K : Nat := 0x1000
def sz1M : Nat := 0x100000
def sz8M : Nat := 0x800000

/-- `sizeof(int)`: the flag in front of each frame. -/
def loadFlagSize : Nat := 4

/-- What one load meets outside the driver.  `loadMem n` is the result of the
`n`th allocation for the frame buffer, `frameCopy n` and `frameAnswer n` those of
the `n`th copy and request. -/
structure LoadEnv where
  needPack : Bool
  needParam : Bool
  needAnswer : UInt32
  needLoad : Int
  loadMem : Nat → Bool
  loadPack : Bool
  uuidReturn : Bool
  frameCopy : Nat → Bool
  frameAnswer : Nat → SmcReply

/-- A frame that was sent: `file[offset, offset + size)` behind its flag. -/
structure LoadFrame where
  index : Nat
  loadFlag : Nat
  offset : Nat
  size : Nat
deriving DecidableEq, Repr

structure LoadResult where
  ret : Int
  teeCode : UInt32
  teeOrigin : UInt32
  accesses : List Access
  frames : List LoadFrame

/-- A load that never came to a request of its own. -/
def LoadResult.early (ret : Int) : LoadResult :=
  ⟨ret, 0, teecOriginComms, [], []⟩

section Load

variable (env : LoadEnv) (file : DevFile)

def tcNsNeedLoadImage : Int :=
  if env.needPack = false then -eNoMem
  else if env.needParam = false then -eNoMem
  else if env.needAnswer ≠ 0 then -eFault
  else env.needLoad

/-- The halving loop of `alloc_for_load_image`; a 32-bit size is gone after
`bits` halvings. -/
def allocLoadMem : Nat → Nat → Nat → Option Nat
  | 0, _, _ => none
  | bits + 1, attempt, size =>
      if size = 0 then none
      else if env.loadMem attempt then some size
      else allocLoadMem bits (attempt + 1) (size / 2)

def allocForLoadImage (size : Nat) : Option Nat :=
  match allocLoadMem env 32 0 size with
  | none => none
  | some given =>
      if env.loadPack = false then none
      else if env.uuidReturn = false then none
      else some given

def loadImageCopyFile (fileBuffer : UInt64) (mbLoadSize loadSize index loadedSize : Nat) :
    Int × List Access :=
  let src := fileBuffer + UInt64.ofNat loadedSize
  if file.kernelApi = 1 then
    let ret := memcpyS (mbLoadSize - loadFlagSize) loadSize (!env.frameCopy index)
    (if ret ≠ 0 then -eFault else 0, [⟨.memcpy, src, if ret = 0 then loadSize else 0⟩])
  else (if env.frameCopy index then 0 else -eFault, [⟨.copyFromUser, src, loadSize⟩])

/-- The loop of `load_image_by_frame` with `remaining` frames still to send. -/
def loadImageByFrame (fileBuffer : UInt64) (fileSize mbLoadSize : Nat) :
    Nat → Nat → Nat → LoadResult
  | 0, _, _ => .early 0
  | remaining + 1, index, loadedSize =>
      let loadFlag := if remaining = 0 then 0 else 1
      let loadSize :=
        if remaining = 0 then fileSize - loadedSize else mbLoadSize - loadFlagSize
      if loadSize > mbLoadSize - loadFlagSize then .early (-eInval)
      else
        let copied := loadImageCopyFile env file fileBuffer mbLoadSize loadSize index loadedSize
        if copied.1 ≠ 0 then { LoadResult.early (-eFault) with accesses := copied.2 }
        else
          let frame : LoadFrame := ⟨index, loadFlag, loadedSize, loadSize⟩
          let answer := env.frameAnswer index
          if answer.ret ≠ 0 then ⟨-eFault, answer.ret, answer.cmd.errOrigin, copied.2, [frame]⟩
          else
            let later := loadImageByFrame fileBuffer fileSize mbLoadSize remaining (index + 1)
              (loadedSize + loadSize)
            { later with
              accesses := copied.2 ++ later.accesses
              frames := frame :: later.frames }

def loadMemSize (fileSize : Nat) : Nat :=
  if fileSize > sz1M - loadFlagSize then sz1M else (fileSize + (sz4K - 1)) / sz4K * sz4K

def loadImage (fileBuffer : UInt64) (fileSize : Nat) : LoadResult :=
  match allocForLoadImage env (loadMemSize fileSize) with
  | none => .early (-eNoMem)
  | some mbLoadSize =>
      if mbLoadSize ≤ loadFlagSize then .early (-eNoMem)
      else
        let frameSize := mbLoadSize - loadFlagSize
        let loadTimes := fileSize / frameSize + if fileSize % frameSize ≠ 0 then 1 else 0
        loadImageByFrame env file fileBuffer fileSize mbLoadSize loadTimes 0 0

/-- `tc_ns_load_image` with `is_valid_ta_size`. -/
def tcNsLoadImage (fileBuffer : UInt64) (fileSize : UInt32) : LoadResult :=
  if fileBuffer = 0 then .early (-eInval)
  else if fileSize = 0 ∨ fileSize.toNat > sz8M then .early (-eInval)
  else loadImage env file fileBuffer fileSize.toNat

def loadTaImage (context : ClientContext) : Int × ClientContext × List Access :=
  let ret := tcNsNeedLoadImage env
  if ret ≠ 1 then (ret, context, [])
  else
    let fileBuffer := joinAddr context.fileAddr context.fileHAddr
    if fileBuffer = 0 then (-1, context, [])
    else
      let load := tcNsLoadImage env file fileBuffer context.fileSize
      if load.ret = 0 then (0, context, load.accesses)
      else if load.teeOrigin = teecOriginComms then
        (load.ret, { context with returnsCode := load.teeCode }, load.accesses)
      else
        (eFault, { context with returnsCode := load.teeCode, returnsOrigin := load.teeOrigin },
          load.accesses)

theorem loadTaImage_context (context : ClientContext) :
    SameRequest context (loadTaImage env file context).2.1 := by
  unfold loadTaImage
  simp only
  repeat' split
  all_goals exact ⟨_, _, _, rfl⟩

end Load

end TzDriver.Session
