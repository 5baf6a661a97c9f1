/-
How much of the mailbox a finished call copies out.

An output parameter has three sizes: the one the client gave when the call was
entered, the one the TEE left in the shared operation, and for a partial
reference the one the client's word holds at the exit.
-/

import Mathlib.Data.List.Nodup
import TzDriver.Client.Call

namespace TzDriver.Client

/-! ### Bytes that leave the mailbox -/

/-- The bytes that an event copies from the mailbox buffer of `index` into shared
memory. -/
def Event.sharememBytes (index : Fin 4) : Event → Nat
  | .mailboxToSharemem at_ length => if at_ = index then length else 0
  | _ => 0

/-- The bytes that an event copies from the temporary buffer of `index` to the
client. -/
def Event.bufferBytes (index : Fin 4) : Event → Nat
  | .toClient _ at_ .buffer _ length => if at_ = index then length else 0
  | _ => 0

def sharememBytes (index : Fin 4) (events : List Event) : Nat :=
  (events.map (Event.sharememBytes index)).sum

def bufferBytes (index : Fin 4) (events : List Event) : Nat :=
  (events.map (Event.bufferBytes index)).sum

@[simp] theorem sharememBytes_append (index : Fin 4) (first second : List Event) :
    sharememBytes index (first ++ second) =
      sharememBytes index first + sharememBytes index second := by
  simp [sharememBytes]

@[simp] theorem bufferBytes_append (index : Fin 4) (first second : List Event) :
    bufferBytes index (first ++ second) =
      bufferBytes index first + bufferBytes index second := by
  simp [bufferBytes]

theorem sharememBytes_readWord (index : Fin 4) (item : Item) (src : UInt64) (mode : Mode)
    (word : Option UInt32) : sharememBytes index (readWord index item src mode word).2 = 0 := by
  rcases readFromClient_events index item mode word.isSome 4 src 4 with none | ⟨_, _, one⟩
  · rw [readWord, none]
    rfl
  · rw [readWord, one]
    rfl

theorem sharememBytes_writeWord (index : Fin 4) (item : Item) (dest : UInt64) (mode : Mode)
    (clean : Bool) : sharememBytes index (writeWord index item dest mode clean).2 = 0 := by
  rcases writeToClient_events index item mode clean dest 4 stackAddr 4 with none | ⟨_, _, one⟩
  · rw [writeWord, none]
    rfl
  · rw [writeWord, one]
    rfl

theorem bufferBytes_writeWord (index : Fin 4) (dest : UInt64) (mode : Mode) (clean : Bool) :
    bufferBytes index (writeWord index .size dest mode clean).2 = 0 := by
  rcases writeToClient_events index .size mode clean dest 4 stackAddr 4 with none | ⟨_, _, one⟩
  · rw [writeWord, none]
    rfl
  · rw [writeWord, one]
    rfl

/-! ### Partial references -/

section RefMem

variable {platform : Platform} {env : CallEnv platform} {mode : Mode} {type : ParamType}
  {index : Fin 4} {clientParam : ClientParam}

/-- What `alloc_for_ref_mem` leaves behind when it accepts a parameter. -/
structure RefAccepted (env : CallEnv platform) (index : Fin 4) (clientParam : ClientParam)
    (slot : Slot) (sharedMem : SharedMem) : Prop where
  sizeAddress : clientParam.sizeAddress ≠ 0
  found : findSharedMem env index clientParam = some sharedMem
  stored : slot.sharemem = some sharedMem
  buffer : sharedMem.memType = .vmalloc → slot.mbBuffer ≠ 0

theorem setOperationBuffer_vmalloc {sharedMem : SharedMem} {bufferAddr : UInt64}
    {bufferSize : UInt32} {slot : Slot} (kind : sharedMem.memType = .vmalloc)
    (accepted : (setOperationBuffer env index sharedMem bufferAddr bufferSize slot).ret = 0) :
    ∃ block, env.refBlock index = some block ∧
      setOperationBuffer env index sharedMem bufferAddr bufferSize slot =
        ⟨0, setPhys { slot with mbBuffer := block.addr }
          (platform.mailboxVirtToPhys block.addr),
          [.mailboxAlloc block.addr bufferSize.toNat]⟩ := by
  unfold setOperationBuffer at accepted ⊢
  simp only [kind] at accepted ⊢
  rcases mailboxCopyAlloc_cases bufferAddr bufferSize.toNat (env.refBlock index)
    (env.refOverlap index) with none | ⟨block, given, refused | copied⟩
  · rw [none] at accepted
    exact absurd accepted (show -eNoMem ≠ 0 by decide)
  · rw [refused] at accepted
    exact absurd accepted (show -eNoMem ≠ 0 by decide)
  · rw [copied]
    exact ⟨block, given, rfl⟩

/-- A lookup that sets a physical address has set the shared memory too. -/
theorem refSharedMem_accepted {bufferSize : UInt32} {slot : Slot}
    (blank : slot.param.buffer = 0 ∧ slot.bufferHAddr = 0)
    (accepted : (refSharedMem env index clientParam bufferSize slot).ret = 0)
    (valid : isPhyaddrValid (refSharedMem env index clientParam bufferSize slot).slot = true) :
    ∃ sharedMem, findSharedMem env index clientParam = some sharedMem ∧
      (refSharedMem env index clientParam bufferSize slot).slot.sharemem = some sharedMem ∧
      (sharedMem.memType = .vmalloc →
        (refSharedMem env index clientParam bufferSize slot).slot.mbBuffer ≠ 0) := by
  have notBlank : isPhyaddrValid slot = false := by
    simp [isPhyaddrValid, blank.1, blank.2]
  unfold refSharedMem at accepted valid ⊢
  cases found : findSharedMem env index clientParam with
  | none =>
      simp only [found, notBlank] at valid
      cases valid
  | some sharedMem =>
      simp only [found] at accepted valid ⊢
      split_ifs at accepted valid ⊢ with outside failed
      · rw [notBlank] at valid
        cases valid
      · exact absurd accepted failed
      · refine ⟨sharedMem, rfl, rfl, ?_⟩
        intro kind
        obtain ⟨block, _, set⟩ := setOperationBuffer_vmalloc kind (not_not.mp failed)
        simp only [set, setPhys]
        exact block.addr_ne_zero

theorem allocForRefMem_accepted
    (accepted : (allocForRefMem env mode type index clientParam Slot.zeroed).ret = 0) :
    ∃ sharedMem, RefAccepted env index clientParam
      (allocForRefMem env mode type index clientParam Slot.zeroed).slot sharedMem := by
  unfold allocForRefMem at accepted ⊢
  simp only at accepted ⊢
  split_ifs at accepted ⊢ with unread failed invalid
  · exact absurd accepted (show -eInval ≠ 0 by decide)
  · exact absurd accepted failed
  · exact absurd accepted (show -eInval ≠ 0 by decide)
  · have readable := readWord_eq_zero.mp (not_not.mp (not_or.mp unread).1)
    obtain ⟨sharedMem, found, stored, buffer⟩ :=
      refSharedMem_accepted ⟨rfl, rfl⟩ (not_not.mp failed) (Bool.not_eq_false _ ▸ invalid)
    exact ⟨sharedMem, readable.1, found, stored, buffer⟩

theorem sharememBytes_updateForRefMem {slot : Slot} {sharedMem : SharedMem}
    (ready : RefAccepted env index clientParam slot sharedMem) :
    sharememBytes index (updateForRefMem env mode index clientParam slot).2 =
      if sharedMem.memType = .vmalloc ∧ (env.exitSize index).isSome = true ∧
          env.sizeWrite index = true ∧
          memcpyS (sharedMem.len - clientParam.offset).toNat (env.teeSize index 0).toNat
            (env.copyOutOverlap index) = 0 ∧
          env.teeSize index 0 ≤ (env.exitSize index).getD 0
      then (env.teeSize index 0).toNat else 0 := by
  unfold updateForRefMem
  simp only
  by_cases readable : (readWord index .size clientParam.sizeAddress mode (env.exitSize index)).1 = 0
  swap
  · have unread : ¬(env.exitSize index).isSome = true := fun some =>
      readable (readWord_eq_zero.mpr ⟨ready.sizeAddress, some⟩)
    rw [if_pos readable, sharememBytes_readWord, if_neg (fun all => unread all.2.1)]
  have isSome := (readWord_eq_zero.mp readable).2
  rw [if_neg (not_not_intro readable)]
  by_cases writable : (writeWord index .size clientParam.sizeAddress mode
      (env.sizeWrite index)).1 = 0
  swap
  · have unwritten : ¬env.sizeWrite index = true := fun clean =>
      writable (writeWord_eq_zero.mpr ⟨ready.sizeAddress, clean⟩)
    rw [if_pos writable, sharememBytes_append, sharememBytes_readWord, sharememBytes_writeWord,
      if_neg (fun all => unwritten all.2.2.1)]
  have written := (writeWord_eq_zero.mp writable).2
  rw [if_neg (not_not_intro writable), ready.stored]
  cases kind : sharedMem.memType with
  | reserved =>
      simp only [kind, sharememBytes_append, sharememBytes_readWord, sharememBytes_writeWord,
        reduceCtorEq, false_and, if_false]
  | vmalloc =>
      simp only [kind, sharememBytes_append, sharememBytes_readWord, sharememBytes_writeWord,
        isSome, written, true_and, Nat.zero_add]
      unfold copyToSharemem
      by_cases large : env.teeSize index 0 ≤ (env.exitSize index).getD 0
      · rw [if_pos ⟨ready.buffer kind, large⟩]
        by_cases copied : memcpyS (sharedMem.len - clientParam.offset).toNat
            (env.teeSize index 0).toNat (env.copyOutOverlap index) = 0
        · rw [if_neg (not_not_intro copied), if_pos ⟨copied, large⟩]
          simp [sharememBytes, Event.sharememBytes]
        · rw [if_pos copied, if_neg (fun all => copied all.1)]
          rfl
      · rw [if_neg (fun both => large both.2), if_neg (fun both => large both.2)]
        rfl

/-- The inputs on which a copy back stays inside the buffer that the entry
allocated: whenever the copy takes place, the size that the TEE left is no larger
than the size read at the entry. -/
def RefCopyFits (env : CallEnv platform) (index : Fin 4) (clientParam : ClientParam) : Prop :=
  ∀ sharedMem origSize, findSharedMem env index clientParam = some sharedMem →
    sharedMem.memType = .vmalloc → env.exitSize index = some origSize →
    env.sizeWrite index = true →
    memcpyS (sharedMem.len - clientParam.offset).toNat (env.teeSize index 0).toNat
      (env.copyOutOverlap index) = 0 →
    env.teeSize index 0 ≤ origSize →
      env.teeSize index 0 ≤ (env.entrySize index).getD 0

/-- For an accepted operation, the copy of a partial reference back to the client
stays inside the block of its entry size exactly on the inputs of `RefCopyFits`. -/
theorem ref_mem_copy_out_bounded_iff {params : CallParams}
    (accepted : (allocOperation env params).ret = 0)
    (output : teecMemrefType (params.paramType index) .output = true) :
    sharememBytes index
        (updateForRefMem env (apiMode params.dev.kernelApi) index (params.context.params index)
          ((allocOperation env params).slots index)).2 ≤ ((env.entrySize index).getD 0).toNat ↔
      RefCopyFits env index (params.context.params index) := by
  obtain ⟨stepOk, stored⟩ := allocOperation_slot accepted index
  have isRef : teecTmpmemType (params.paramType index) .inout = false ∧
      teecMemrefType (params.paramType index) .inout = true := by
    revert output
    cases params.paramType index <;>
      simp [teecMemrefType, teecTmpmemType, Dir.isInput, Dir.isOutput]
  have dispatch : allocStep env params (fun _ => Slot.zeroed) index =
      allocForRefMem env (params.kernelParams index) (params.paramType index) index
        (params.context.params index) Slot.zeroed := by
    simp [allocStep, allocParam, isRef.1, isRef.2]
  rw [dispatch] at stepOk stored
  obtain ⟨sharedMem, ready⟩ := allocForRefMem_accepted stepOk
  rw [stored, sharememBytes_updateForRefMem ready]
  unfold RefCopyFits
  constructor
  · intro bounded other origSize found kind second written copied large
    have same : sharedMem = other := Option.some.inj (ready.found.symm.trans found)
    subst same
    rw [if_pos ⟨kind, by rw [second]; rfl, written, copied, by rw [second]; exact large⟩]
      at bounded
    exact UInt32.le_iff_toNat_le.mpr bounded
  · intro fits
    split
    · rename_i all
      obtain ⟨kind, isSome, written, copied, large⟩ := all
      obtain ⟨origSize, second⟩ := Option.isSome_iff_exists.mp isSome
      rw [second] at large
      exact UInt32.le_iff_toNat_le.mp
        (fits sharedMem origSize ready.found kind second written copied large)
    · exact Nat.zero_le _

end RefMem

/-! ### A reply that claims a page -/

/-- A client with one inout partial reference of 16 bytes in an 8 KiB shared
memory. -/
def partialCall : CallParams :=
  { dev := userDev
    context :=
      { emptyContext with
        paramTypes := 0xf
        params := fun _ =>
          { buffer := 0x1000, bufferHAddr := 0, offset := 0, hOffset := 0
            sizeAddr := 0x2000, sizeHAddr := 0 } }
    sess := .opened
    flags := 0 }

/-- The TEE leaves the size 4096 and the client raises its own size word to 4096
before the call returns. -/
def raisedSize : CallEnv flatPlatform :=
  { calmEnv with
    entrySize := fun _ => some 16
    sharedMemList := fun _ => [⟨1, 0x1000, 0xffff000000100000, 8192, .vmalloc⟩]
    teeSize := fun _ _ => 4096
    exitSize := fun _ => some 4096 }

theorem ref_mem_copy_out_not_bounded :
    (allocOperation raisedSize partialCall).ret = 0 ∧
      teecMemrefType (partialCall.paramType 0) .output = true ∧
      ¬sharememBytes 0
          (updateForRefMem raisedSize (apiMode partialCall.dev.kernelApi) 0
            (partialCall.context.params 0) ((allocOperation raisedSize partialCall).slots 0)).2 ≤
        ((raisedSize.entrySize 0).getD 0).toNat := by
  decide

/-- With a TEE that keeps to the entry size the same call stays in its block. -/
theorem ref_mem_copy_out_bounded_sixteen :
    sharememBytes 0
        (updateForRefMem { raisedSize with teeSize := fun _ _ => 16 } .user 0
          (partialCall.context.params 0)
          ((allocOperation { raisedSize with teeSize := fun _ _ => 16 } partialCall).slots 0)).2 ≤
      16 :=
  (@ref_mem_copy_out_bounded_iff flatPlatform { raisedSize with teeSize := fun _ _ => 16 } 0
    partialCall (by decide) (by decide)).mpr fun _ _ _ _ _ _ _ _ => by decide

/-! ### Temporary buffers -/

section TmpMem

variable {platform : Platform} (env : CallEnv platform) (mode : Mode) (index : Fin 4)
  (clientParam : ClientParam) (slot : Slot) (isComplete : Bool)

/-- One size for the client: no more than the local buffer is copied, what is
copied is the size that was written to the client's size word, and an accepted
size is copied in full unless an error is returned.  A size above the local one is
written back without a copy: it tells the client how much the TEE needs. -/
structure SingleSize (localSize written : UInt32) (index : Fin 4) (result : Int × List Event) :
    Prop where
  bounded : bufferBytes index result.2 ≤ localSize.toNat
  same : bufferBytes index result.2 ≠ 0 → bufferBytes index result.2 = written.toNat
  full : result.1 = 0 → written ≤ localSize → bufferBytes index result.2 = written.toNat

/-- The last length argument of the copy is another size than the one checked, and
nothing else stops the copy. -/
structure SecondSize : Prop where
  sizeAddress : clientParam.sizeAddress ≠ 0
  sizeWrite : env.sizeWrite index = true
  checked : env.teeSize index 0 ≤ slot.tempSize
  nonzero : env.teeSize index 0 ≠ 0
  dest : clientParam.bufferAddress ≠ 0
  src : slot.tempBuffer ≠ 0
  inDest : env.teeSize index 2 ≤ env.teeSize index 1
  unrefused : mode = .kernel → env.teeSize index 2 ≠ 0 →
    memcpyS (env.teeSize index 1).toNat (env.teeSize index 2).toNat
      (!env.bufferWrite index) = 0
  changed : env.teeSize index 2 ≠ env.teeSize index 0

variable {env mode index clientParam slot isComplete}

theorem bufferBytes_copy (index : Fin 4) {dest src : UInt64} {destSize size : Nat} {clean : Bool}
    (nonNull : dest ≠ 0 ∧ src ≠ 0) (inDest : size ≤ destSize)
    (unrefused : mode = .kernel → size ≠ 0 → memcpyS destSize size (!clean) = 0) :
    bufferBytes index (writeToClient index .buffer dest destSize src size mode clean).2 =
      size := by
  unfold writeToClient
  rw [if_neg (by rintro (null | null); exacts [nonNull.1 null, nonNull.2 null]),
    if_neg (Nat.not_lt.mpr inDest)]
  by_cases empty : size = 0
  · rw [if_pos empty, empty]
    rfl
  · rw [if_neg empty]
    cases mode with
    | user => simp [bufferBytes, Event.bufferBytes]
    | kernel => simp [bufferBytes, Event.bufferBytes, unrefused rfl empty]

theorem refused_copy (index : Fin 4) {dest src : UInt64} {destSize size : Nat} {clean : Bool}
    (refused : dest = 0 ∨ src = 0 ∨ destSize < size ∨
      (mode = .kernel ∧ size ≠ 0 ∧ memcpyS destSize size (!clean) ≠ 0)) :
    (writeToClient index .buffer dest destSize src size mode clean).1 ≠ 0 ∧
      bufferBytes index (writeToClient index .buffer dest destSize src size mode clean).2 = 0 := by
  unfold writeToClient
  by_cases null : dest = 0 ∨ src = 0
  · rw [if_pos null]
    exact ⟨show -eInval ≠ 0 by decide, rfl⟩
  rw [if_neg null]
  by_cases long : size > destSize
  · rw [if_pos long]
    exact ⟨show -eInval ≠ 0 by decide, rfl⟩
  rw [if_neg long]
  obtain ⟨kernel, nonempty, failed⟩ : mode = .kernel ∧ size ≠ 0 ∧
      memcpyS destSize size (!clean) ≠ 0 := by
    rcases refused with isNull | isNull | isLong | all
    · exact absurd (Or.inl isNull) null
    · exact absurd (Or.inr isNull) null
    · exact absurd isLong long
    · exact all
  subst kernel
  simp only [if_neg nonempty, if_neg failed]
  exact ⟨failed, by simp [bufferBytes, Event.bufferBytes]⟩

theorem SingleSize.ofNoCopy {localSize written : UInt32} {result : Int × List Event}
    (none : bufferBytes index result.2 = 0)
    (rejected : result.1 ≠ 0 ∨ localSize < written ∨ written = 0) :
    SingleSize localSize written index result := by
  refine ⟨by omega, fun some => absurd none some, ?_⟩
  intro ok fits
  rcases rejected with failed | above | zero
  · exact absurd ok failed
  · exact absurd fits (UInt32.not_le.mpr above)
  · rw [none, zero]
    rfl

/-- `update_tmp_mem` keeps to a single size exactly when the shared size word does
not change to another size that the copy accepts. -/
theorem temp_mem_single_size_iff :
    SingleSize slot.tempSize (env.teeSize index 0) index
        (updateTmpMem env mode index clientParam slot isComplete) ↔
      ¬SecondSize env mode index clientParam slot := by
  have sizeBytes := bufferBytes_writeWord index clientParam.sizeAddress mode (env.sizeWrite index)
  unfold updateTmpMem
  simp only
  by_cases writable : (writeWord index .size clientParam.sizeAddress mode
      (env.sizeWrite index)).1 = 0
  swap
  · rw [if_pos writable]
    apply iff_of_true (.ofNoCopy sizeBytes (Or.inl (show -eFault ≠ 0 by decide)))
    exact fun second => writable (writeWord_eq_zero.mpr ⟨second.sizeAddress, second.sizeWrite⟩)
  rw [if_neg (not_not_intro writable)]
  obtain ⟨sizeAddress, sizeWrite⟩ := writeWord_eq_zero.mp writable
  by_cases above : env.teeSize index 0 > slot.tempSize
  · rw [if_pos above]
    exact iff_of_true (.ofNoCopy sizeBytes (Or.inr (Or.inl above)))
      fun second => absurd second.checked (UInt32.not_le.mpr above)
  rw [if_neg above]
  have checked : env.teeSize index 0 ≤ slot.tempSize := UInt32.not_lt.mp above
  by_cases zero : env.teeSize index 0 = 0
  · rw [if_pos zero]
    exact iff_of_true (.ofNoCopy sizeBytes (Or.inr (Or.inr zero)))
      fun second => second.nonzero zero
  rw [if_neg zero]
  by_cases refused : clientParam.bufferAddress = 0 ∨ slot.tempBuffer = 0 ∨
      (env.teeSize index 1).toNat < (env.teeSize index 2).toNat ∨
      (mode = .kernel ∧ (env.teeSize index 2).toNat ≠ 0 ∧
        memcpyS (env.teeSize index 1).toNat (env.teeSize index 2).toNat
          (!env.bufferWrite index) ≠ 0)
  · obtain ⟨failed, nothing⟩ := refused_copy index refused
    rw [if_pos failed]
    refine iff_of_true (.ofNoCopy ?_ (Or.inl (show -eNoMem ≠ 0 by decide))) ?_
    · rw [bufferBytes_append, sizeBytes, nothing]
    · intro second
      rcases refused with null | null | long | ⟨kernel, nonempty, failed⟩
      · exact second.dest null
      · exact second.src null
      · exact absurd (UInt32.le_iff_toNat_le.mp second.inDest) (Nat.not_le.mpr long)
      · exact failed (second.unrefused kernel fun empty => nonempty (by rw [empty]; rfl))
  · simp only [not_or, not_and, not_not, Nat.not_lt] at refused
    obtain ⟨dest, src, inDest, unrefused⟩ := refused
    have copied := bufferBytes_copy index ⟨dest, src⟩ inDest unrefused
    have total : ∀ ret : Int, SingleSize slot.tempSize (env.teeSize index 0) index
        (ret, (writeWord index .size clientParam.sizeAddress mode (env.sizeWrite index)).2 ++
          (writeToClient index .buffer clientParam.bufferAddress (env.teeSize index 1).toNat
            slot.tempBuffer (env.teeSize index 2).toNat mode (env.bufferWrite index)).2) ↔
        (env.teeSize index 2).toNat ≤ slot.tempSize.toNat ∧
          ((env.teeSize index 2).toNat ≠ 0 →
            (env.teeSize index 2).toNat = (env.teeSize index 0).toNat) ∧
          (ret = 0 → env.teeSize index 0 ≤ slot.tempSize →
            (env.teeSize index 2).toNat = (env.teeSize index 0).toNat) := by
      intro ret
      constructor
      · intro given
        obtain ⟨bounded, same, full⟩ := given
        simp only [bufferBytes_append, sizeBytes, copied, Nat.zero_add] at bounded same full
        exact ⟨bounded, same, full⟩
      · intro given
        obtain ⟨bounded, same, full⟩ := given
        constructor <;> simp only [bufferBytes_append, sizeBytes, copied, Nat.zero_add]
        exacts [bounded, same, full]
    rw [total]
    by_cases changed : env.teeSize index 2 = env.teeSize index 0
    · rw [changed]
      exact iff_of_true
        ⟨UInt32.le_iff_toNat_le.mp checked, fun _ => rfl, fun _ _ => rfl⟩
        fun second => second.changed changed
    · have differ : (env.teeSize index 2).toNat ≠ (env.teeSize index 0).toNat :=
        fun same => changed (UInt32.toNat_inj.mp same)
      refine iff_of_false ?_ (not_not_intro ⟨sizeAddress, sizeWrite, checked, zero, dest, src,
        UInt32.le_iff_toNat_le.mpr inDest, ?_, changed⟩)
      · intro given
        obtain ⟨_, same, full⟩ := given
        -- a zero third read ends with success and without a copy
        by_cases empty : (env.teeSize index 2).toNat = 0
        · refine differ (full ?_ checked)
          rw [if_neg]
          simp [writeToClient, dest, src, empty]
        · exact differ (same empty)
      · exact fun kernel nonempty => unrefused kernel fun empty =>
          nonempty (UInt32.toNat_inj.mp empty)

end TmpMem

/-- A client with one temporary output buffer of 16 bytes. -/
def tempCall : CallParams :=
  { partialCall with context := { partialCall.context with paramTypes := 0x6 } }

/-- The TEE raises the shared size word to 4096 after its first read. -/
def growingSize : CallEnv flatPlatform :=
  { calmEnv with
    entrySize := fun _ => some 16
    teeSize := fun _ read => if read = 0 then 16 else 4096 }

theorem temp_mem_not_single_size :
    (allocOperation growingSize tempCall).ret = 0 ∧
      ((allocOperation growingSize tempCall).slots 0).tempSize = 16 ∧
      updateTmpMem growingSize .user 0 (tempCall.context.params 0)
          ((allocOperation growingSize tempCall).slots 0) true =
        (0, [.toClient .user 0 .size 0x2000 4, .toClient .user 0 .buffer 0x1000 4096]) ∧
      ¬SingleSize ((allocOperation growingSize tempCall).slots 0).tempSize
        (growingSize.teeSize 0 0) 0
        (updateTmpMem growingSize .user 0 (tempCall.context.params 0)
          ((allocOperation growingSize tempCall).slots 0) true) := by
  refine ⟨by decide, by decide, by decide, ?_⟩
  intro single
  exact absurd single.bounded (by decide)

end TzDriver.Client
