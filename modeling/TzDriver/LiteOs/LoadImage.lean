/-
Image loading in the LiteOS driver (`liteos/core/session_manager.c`), from the open
and the load-secfile ioctl down to the copy of one frame.

The allocations are those of the Linux driver.  The mode of a copy is chosen from
the current task and not from the dev_file.
-/

import TzDriver.Session.LoadImage

namespace TzDriver.LiteOs

open TzDriver.Client TzDriver.Session

inductive ProcessMode where
  | kernel
  | user
deriving DecidableEq, Repr

/-- `is_kernel_thread`; no task counts as a kernel thread. -/
def isKernelThread : Option ProcessMode → Bool
  | none => true
  | some mode => mode == .kernel

inductive SecfileType where
  | ta
  | service
  | lib
  | dynamicDrv
  | unknown (value : UInt32)
deriving DecidableEq, Repr

/-- A frame that was sent; `drv` is the word that marks a dynamic driver. -/
structure Frame where
  index : Nat
  loadFlag : Nat
  offset : Nat
  size : Nat
  drv : Nat
deriving DecidableEq, Repr

structure ImageResult where
  ret : Int
  origin : UInt32
  accesses : List Access
  frames : List Frame

/-- A load that got no refusal from the TEE. -/
def ImageResult.early (ret : Int) : ImageResult :=
  ⟨ret, teecOriginComms, [], []⟩

section Load

variable (env : LoadEnv) (task : Option ProcessMode)

def loadImageCopyFile (fileBuffer : UInt64) (mbLoadSize loadSize index loadedSize : Nat) :
    Int × List Access :=
  let src := fileBuffer + UInt64.ofNat loadedSize
  if isKernelThread task = false then
    if memcpyS (mbLoadSize - loadFlagSize) loadSize (!env.frameCopy index) ≠ 0 then (-eFault, [])
    else (0, [⟨.memcpy, src, loadSize⟩])
  else (if env.frameCopy index then 0 else -eFault, [⟨.copyFromUser, src, loadSize⟩])

/-- The loop of `load_image_by_frame` with `remaining` frames still to send. -/
def loadImageByFrame (fileBuffer : UInt64) (fileSize mbLoadSize : Nat) (type : SecfileType) :
    Nat → Nat → Nat → ImageResult
  | 0, _, _ => .early 0
  | remaining + 1, index, loadedSize =>
      let loadFlag := if remaining = 0 then 0 else 1
      let loadSize :=
        if remaining = 0 then fileSize - loadedSize else mbLoadSize - loadFlagSize
      if loadSize > mbLoadSize - loadFlagSize then .early (-eInval)
      else
        let copied := loadImageCopyFile env task fileBuffer mbLoadSize loadSize index loadedSize
        if copied.1 ≠ 0 then { ImageResult.early (-eFault) with accesses := copied.2 }
        else
          let frame : Frame :=
            ⟨index, loadFlag, loadedSize, loadSize, if type = .dynamicDrv then 1 else 0⟩
          let answer := env.frameAnswer index
          if answer.ret ≠ 0 then ⟨-eFault, answer.cmd.errOrigin, copied.2, [frame]⟩
          else
            let later := loadImageByFrame fileBuffer fileSize mbLoadSize type remaining
              (index + 1) (loadedSize + loadSize)
            { later with
              accesses := copied.2 ++ later.accesses
              frames := frame :: later.frames }

def tcNsLoadImage (fileBuffer : UInt64) (fileSize : UInt32) (type : SecfileType) :
    ImageResult :=
  if fileBuffer = 0 then .early (-eInval)
  else if fileSize = 0 ∨ fileSize.toNat > sz8M then .early (-eInval)
  else
    match allocForLoadImage env (loadMemSize fileSize.toNat) with
    | none => .early (-eNoMem)
    | some mbLoadSize =>
        if mbLoadSize ≤ loadFlagSize then .early (-eNoMem)
        else
          let frameSize := mbLoadSize - loadFlagSize
          let loadTimes :=
            fileSize.toNat / frameSize + if fileSize.toNat % frameSize ≠ 0 then 1 else 0
          loadImageByFrame env task fileBuffer fileSize.toNat mbLoadSize type loadTimes 0 0

def loadTaImage (fileBuffer : UInt64) (fileSize : UInt32) : ImageResult :=
  let ret := tcNsNeedLoadImage env
  if ret ≠ 1 then .early ret
  else if fileBuffer = 0 then .early (-1)
  else
    let load := tcNsLoadImage env task fileBuffer fileSize .ta
    if load.ret ≠ 0 ∧ load.origin ≠ teecOriginComms then { load with ret := eFault } else load

structure LoadSecfile where
  secfileType : SecfileType
  uuid : Uuid
  fileSize : UInt32
  fileBuffer : UInt64
deriving DecidableEq, Repr

/-- `tc_ns_load_secfile`; `none` is an argument that could not be copied in. -/
def tcNsLoadSecfile (arg : Option LoadSecfile) : ImageResult :=
  match arg with
  | none => .early (-eNoMem)
  | some arg =>
      match arg.secfileType with
      | .ta =>
          let ret := tcNsNeedLoadImage env
          if ret = 1 then tcNsLoadImage env task arg.fileBuffer arg.fileSize .ta
          else .early ret
      | .lib => tcNsLoadImage env task arg.fileBuffer arg.fileSize .lib
      | .dynamicDrv => tcNsLoadImage env task arg.fileBuffer arg.fileSize .dynamicDrv
      | .service => .early (-eInval)
      | .unknown _ => .early (-eInval)

end Load

/-- How an image reaches the driver: with an open that came as far as
`load_ta_image`, or with the load-secfile ioctl. -/
inductive LoadRequest where
  | open_ (fileBuffer : UInt64) (fileSize : UInt32)
  | secfile (arg : Option LoadSecfile)
deriving DecidableEq, Repr

def LoadRequest.run (env : LoadEnv) (task : Option ProcessMode) : LoadRequest → ImageResult
  | .open_ fileBuffer fileSize => loadTaImage env task fileBuffer fileSize
  | .secfile arg => tcNsLoadSecfile env task arg

/-- Only a kernel-mode caller's image is read without the user-copy function. -/
def PointersKept (task : Option ProcessMode) (accesses : List Access) : Prop :=
  ∀ access ∈ accesses, access.via ≠ .copyFromUser → isKernelThread task = true

def LoadRequest.image (env : LoadEnv) : LoadRequest → Option (UInt64 × UInt32)
  | .open_ fileBuffer fileSize =>
      if tcNsNeedLoadImage env = 1 then some (fileBuffer, fileSize) else none
  | .secfile none => none
  | .secfile (some arg) =>
      match arg.secfileType with
      | .ta => if tcNsNeedLoadImage env = 1 then some (arg.fileBuffer, arg.fileSize) else none
      | .lib => some (arg.fileBuffer, arg.fileSize)
      | .dynamicDrv => some (arg.fileBuffer, arg.fileSize)
      | .service => none
      | .unknown _ => none

/-- The image is well-formed, the frame buffer is there and the copy of the first
frame does not meet it. -/
structure FirstFrame (env : LoadEnv) (fileBuffer : UInt64) (fileSize : UInt32) : Prop where
  buffer : fileBuffer ≠ 0
  size : fileSize ≠ 0 ∧ fileSize.toNat ≤ sz8M
  memory : ∃ mbLoadSize, allocForLoadImage env (loadMemSize fileSize.toNat) = some mbLoadSize ∧
    loadFlagSize < mbLoadSize
  apart : env.frameCopy 0 = true

/-- A request that comes to the copy of its first frame. -/
def LoadRequest.Copies (env : LoadEnv) (request : LoadRequest) : Prop :=
  ∃ fileBuffer fileSize, request.image env = some (fileBuffer, fileSize) ∧
    FirstFrame env fileBuffer fileSize

/-! ### The frames -/

section Frames

variable {env : LoadEnv} {task : Option ProcessMode} {fileBuffer : UInt64} {access : Access}

theorem loadImageCopyFile_accesses {mbLoadSize loadSize index loadedSize : Nat}
    (made : access ∈ (loadImageCopyFile env task fileBuffer mbLoadSize loadSize index
      loadedSize).2) :
    access.via = .copyFromUser ∧ isKernelThread task = true ∨
      access.via = .memcpy ∧ isKernelThread task = false := by
  unfold loadImageCopyFile at made
  simp only at made
  split at made
  · next user =>
      split at made
      · cases made
      · rw [List.mem_singleton.mp made]
        exact Or.inr ⟨rfl, user⟩
  · next kernel =>
      rw [List.mem_singleton.mp made]
      exact Or.inl ⟨rfl, Bool.not_eq_false _ ▸ kernel⟩

/-- The test is the wrong way round: each kind of caller gets the copy that is
meant for the other one. -/
theorem loadImageByFrame_accesses {fileSize mbLoadSize remaining index loadedSize : Nat}
    {type : SecfileType}
    (made : access ∈ (loadImageByFrame env task fileBuffer fileSize mbLoadSize type remaining
      index loadedSize).accesses) :
    access.via = .copyFromUser ∧ isKernelThread task = true ∨
      access.via = .memcpy ∧ isKernelThread task = false := by
  induction remaining generalizing index loadedSize with
  | zero => cases made
  | succ remaining ih =>
      rw [loadImageByFrame] at made
      simp only at made
      generalize (if remaining = 0 then fileSize - loadedSize
        else mbLoadSize - loadFlagSize) = loadSize at made
      split at made
      · cases made
      split at made
      · exact loadImageCopyFile_accesses made
      split at made
      · exact loadImageCopyFile_accesses made
      rcases List.mem_append.mp made with here | later
      · exact loadImageCopyFile_accesses here
      · exact ih later

theorem tcNsLoadImage_accesses {fileSize : UInt32} {type : SecfileType}
    (made : access ∈ (tcNsLoadImage env task fileBuffer fileSize type).accesses) :
    access.via = .copyFromUser ∧ isKernelThread task = true ∨
      access.via = .memcpy ∧ isKernelThread task = false := by
  unfold tcNsLoadImage at made
  split at made
  · cases made
  split at made
  · cases made
  split at made
  · cases made
  split at made
  · cases made
  · exact loadImageByFrame_accesses made

/-! ### The first frame -/

theorem allocLoadMem_le {bits attempt size given : Nat}
    (got : allocLoadMem env bits attempt size = some given) : given ≤ size := by
  induction bits generalizing attempt size with
  | zero => cases got
  | succ bits ih =>
      rw [allocLoadMem] at got
      split at got
      · cases got
      split at got
      · rw [← Option.some.inj got]
      · exact Nat.le_trans (ih got) (Nat.div_le_self size 2)

theorem allocForLoadImage_le {fileSize given : Nat}
    (got : allocForLoadImage env (loadMemSize fileSize) = some given) : given ≤ sz1M := by
  have asked : loadMemSize fileSize ≤ sz1M := by
    unfold loadMemSize sz1M sz4K loadFlagSize
    split
    · exact Nat.le_refl _
    · omega
  unfold allocForLoadImage at got
  split at got
  · cases got
  · next size given_ =>
      split at got
      · cases got
      split at got
      · cases got
      · rw [← Option.some.inj got]
        exact Nat.le_trans (allocLoadMem_le given_) asked

theorem loadTimes_succ {fileSize frameSize : Nat} (frame : 0 < frameSize)
    (some_ : 0 < fileSize) :
    ∃ remaining,
      fileSize / frameSize + (if fileSize % frameSize ≠ 0 then 1 else 0) = remaining + 1 ∧
        (remaining = 0 → fileSize ≤ frameSize) := by
  have whole := Nat.div_add_mod' fileSize frameSize
  split
  · next rest =>
      refine ⟨fileSize / frameSize, rfl, ?_⟩
      intro single
      rw [single, Nat.zero_mul, Nat.zero_add] at whole
      have below := Nat.mod_lt fileSize frame
      omega
  · next even =>
      have full : 0 < fileSize / frameSize := by
        rw [Nat.pos_iff_ne_zero]
        intro zero
        rw [zero] at whole
        omega
      refine ⟨fileSize / frameSize - 1, by omega, ?_⟩
      intro single
      have one : fileSize / frameSize = 1 := by omega
      rw [one] at whole
      omega

/-- The first frame of a user process is copied by `memcpy_s`, unless it meets the
frame buffer, and then the load is over. -/
theorem loadImageByFrame_first (user : isKernelThread task = false)
    {fileSize mbLoadSize remaining : Nat} {type : SecfileType}
    (large : loadFlagSize < mbLoadSize) (small : mbLoadSize ≤ sz1M)
    (fits : remaining = 0 → fileSize ≤ mbLoadSize - loadFlagSize) :
    (∃ access ∈ (loadImageByFrame env task fileBuffer fileSize mbLoadSize type (remaining + 1)
        0 0).accesses, access.via = .memcpy) ↔ env.frameCopy 0 = true := by
  rw [loadImageByFrame]
  simp only
  have sized : (if remaining = 0 then fileSize - 0 else mbLoadSize - loadFlagSize) ≤
      mbLoadSize - loadFlagSize := by
    split
    · next last => exact fits last
    · exact Nat.le_refl _
  generalize (if remaining = 0 then fileSize - 0 else mbLoadSize - loadFlagSize) = loadSize
    at sized ⊢
  have room : 0 < mbLoadSize - loadFlagSize ∧ mbLoadSize - loadFlagSize ≤ securecMemMaxLen := by
    unfold sz1M at small
    unfold securecMemMaxLen
    omega
  rw [if_neg (Nat.not_lt.mpr sized)]
  unfold loadImageCopyFile
  rw [if_pos user]
  cases apart : env.frameCopy 0 with
  | false =>
      have refused : memcpyS (mbLoadSize - loadFlagSize) loadSize (!false) ≠ 0 := by
        intro accepted
        exact absurd (memcpyS_eq_zero.mp accepted).2.2.2 (by decide)
      rw [if_pos refused]
      simp [eFault]
  | true =>
      have accepted : memcpyS (mbLoadSize - loadFlagSize) loadSize (!true) = 0 :=
        memcpyS_eq_zero.mpr ⟨room.1, room.2, sized, rfl⟩
      rw [if_neg (not_not_intro accepted)]
      refine ⟨fun _ => rfl, fun _ => ⟨⟨.memcpy, fileBuffer + UInt64.ofNat 0, loadSize⟩, ?_, rfl⟩⟩
      rw [if_neg (not_not_intro rfl)]
      split
      · exact List.mem_singleton.mpr rfl
      · exact List.mem_append_left _ (List.mem_singleton.mpr rfl)

/-- A user process has its image read by `memcpy` exactly when the load comes to a
first frame. -/
theorem tcNsLoadImage_memcpy_iff (user : isKernelThread task = false) {fileSize : UInt32}
    {type : SecfileType} :
    (∃ access ∈ (tcNsLoadImage env task fileBuffer fileSize type).accesses,
        access.via = .memcpy) ↔ FirstFrame env fileBuffer fileSize := by
  have nothing {ret : Int} :
      ¬ ∃ access ∈ (ImageResult.early ret).accesses, access.via = .memcpy := by
    intro known
    obtain ⟨access, made, _⟩ := known
    cases made
  unfold tcNsLoadImage
  split
  · next null =>
      apply iff_of_false nothing
      intro first
      exact first.buffer null
  next buffer =>
    split
    · next size =>
        apply iff_of_false nothing
        intro first
        rcases size with zero | large
        · exact first.size.1 zero
        · exact absurd first.size.2 (by omega)
    next size =>
      split
      · next none_ =>
          apply iff_of_false nothing
          intro first
          obtain ⟨mbLoadSize, given, _⟩ := first.memory
          rw [none_] at given
          cases given
      next mbLoadSize given =>
        split
        · next small =>
            apply iff_of_false nothing
            intro first
            obtain ⟨other, same, large⟩ := first.memory
            rw [given] at same
            cases same
            omega
        next large =>
          have positive : 0 < fileSize.toNat := by
            rw [Nat.pos_iff_ne_zero]
            intro zero
            exact size (Or.inl (UInt32.toNat_inj.mp zero))
          have flagged : loadFlagSize < mbLoadSize := by omega
          obtain ⟨remaining, times, fits⟩ := loadTimes_succ (by omega :
            0 < mbLoadSize - loadFlagSize) positive
          simp only
          rw [times, loadImageByFrame_first user flagged (allocForLoadImage_le given) fits]
          constructor
          · intro apart
            exact ⟨buffer, ⟨fun zero => size (Or.inl zero), by omega⟩,
              ⟨mbLoadSize, given, flagged⟩, apart⟩
          · intro first
            exact first.apart

end Frames

/-! ### The ioctls -/

section Requests

variable (env : LoadEnv) (task : Option ProcessMode)

theorem loadTaImage_accesses (fileBuffer : UInt64) (fileSize : UInt32)
    (needed : tcNsNeedLoadImage env = 1) :
    (loadTaImage env task fileBuffer fileSize).accesses =
      (tcNsLoadImage env task fileBuffer fileSize .ta).accesses := by
  unfold loadTaImage
  rw [if_neg (not_not_intro needed)]
  split
  · next null =>
      unfold tcNsLoadImage
      rw [if_pos null]
      rfl
  simp only
  split
  · rfl
  · rfl

theorem LoadRequest.run_accesses (request : LoadRequest) :
    (request.image env = none ∧ (request.run env task).accesses = []) ∨
      ∃ fileBuffer fileSize type, request.image env = some (fileBuffer, fileSize) ∧
        (request.run env task).accesses =
          (tcNsLoadImage env task fileBuffer fileSize type).accesses := by
  cases request with
  | open_ fileBuffer fileSize =>
      by_cases needed : tcNsNeedLoadImage env = 1
      · refine Or.inr ⟨fileBuffer, fileSize, .ta, if_pos needed, ?_⟩
        exact loadTaImage_accesses env task fileBuffer fileSize needed
      · refine Or.inl ⟨if_neg needed, ?_⟩
        rw [run, loadTaImage, if_pos needed]
        rfl
  | secfile arg =>
      cases arg with
      | none => exact Or.inl ⟨rfl, rfl⟩
      | some arg =>
          obtain ⟨type, uuid, fileSize, fileBuffer⟩ := arg
          cases type with
          | ta =>
              by_cases needed : tcNsNeedLoadImage env = 1
              · refine Or.inr ⟨fileBuffer, fileSize, .ta, if_pos needed, ?_⟩
                rw [run, tcNsLoadSecfile]
                simp only
                rw [if_pos needed]
              · refine Or.inl ⟨if_neg needed, ?_⟩
                rw [run, tcNsLoadSecfile]
                simp only
                rw [if_neg needed]
                rfl
          | lib => exact Or.inr ⟨fileBuffer, fileSize, .lib, rfl, rfl⟩
          | dynamicDrv => exact Or.inr ⟨fileBuffer, fileSize, .dynamicDrv, rfl, rfl⟩
          | service => exact Or.inl ⟨rfl, rfl⟩
          | unknown value => exact Or.inl ⟨rfl, rfl⟩

/-- A request keeps to the user-copy function for user processes exactly when its
caller is in kernel mode or no frame of the image is copied. -/
theorem LoadRequest.pointersKept_iff (request : LoadRequest) :
    PointersKept task (request.run env task).accesses ↔
      isKernelThread task = true ∨ ¬ request.Copies env := by
  cases mode : isKernelThread task with
  | true => exact iff_of_true (fun _ _ _ => mode) (Or.inl rfl)
  | false =>
      have kept : PointersKept task (request.run env task).accesses ↔
          ¬ ∃ access ∈ (request.run env task).accesses, access.via = .memcpy := by
        constructor
        · intro disciplined given
          obtain ⟨access, made, via⟩ := given
          have kernel := disciplined access made (by rw [via]; decide)
          rw [mode] at kernel
          cases kernel
        · intro none_ access made other
          refine absurd ⟨access, made, ?_⟩ none_
          rcases request.run_accesses env task with ⟨_, nothing⟩ | ⟨_, _, _, _, load⟩
          · rw [nothing] at made
            cases made
          · rw [load] at made
            rcases tcNsLoadImage_accesses made with user | kernel
            · exact absurd user.1 other
            · exact kernel.1
      rw [kept]
      simp only [Bool.false_eq_true, false_or]
      apply not_congr
      obtain ⟨none_, nothing⟩ | ⟨fileBuffer, fileSize, type, image, load⟩ :=
        request.run_accesses env task
      · refine iff_of_false ?_ ?_
        · intro given
          obtain ⟨access, made, _⟩ := given
          rw [nothing] at made
          cases made
        · intro given
          obtain ⟨_, _, image, _⟩ := given
          rw [none_] at image
          cases image
      · rw [load, tcNsLoadImage_memcpy_iff mode]
        refine ⟨fun first => ⟨fileBuffer, fileSize, image, first⟩, ?_⟩
        intro given
        obtain ⟨otherBuffer, otherSize, other, first⟩ := given
        rw [image] at other
        cases other
        exact first

end Requests

/-- A user process names a kernel address as its image, and the driver copies from
there into the frame for the TEE. -/
theorem user_image_read_by_memcpy :
    ∃ (env : LoadEnv) (request : LoadRequest),
      ⟨.memcpy, 0xc0200000, 64⟩ ∈ (request.run env (some .user)).accesses ∧
        (request.run env (some .user)).frames ≠ [] ∧
        ¬ PointersKept (some .user) (request.run env (some .user)).accesses := by
  refine ⟨
    { needPack := true, needParam := true, needAnswer := 0, needLoad := 1
      loadMem := fun _ => true, loadPack := true, uuidReturn := true
      frameCopy := fun _ => true, frameAnswer := fun _ => ⟨teecSuccess, SmcCmd.zeroed⟩ },
    .secfile (some ⟨.lib, 0#128, 64, 0xc0200000⟩), by decide +kernel, by decide +kernel, ?_⟩
  intro kept
  exact absurd (kept ⟨.memcpy, 0xc0200000, 64⟩ (by decide +kernel) (by decide))
    (by decide)

end TzDriver.LiteOs
