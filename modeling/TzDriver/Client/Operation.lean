/-
Parameters of a client call (`linux/core/gp_ops.c`): how `alloc_operation`
prepares them, `update_client_operation` copies them back and `free_operation`
releases them.

Client memory, the TEE and the allocators are outside the driver.  `CallEnv` has
one field for each place where the code takes a value or a result from them, so
that two reads of one word can give two values.  Everything a call does to the
outside is an `Event`.  ION and no-copy shared memory are the stubs of a build
without `CONFIG_ION` and `CONFIG_NOCOPY_SHAREDMEM`.
-/

import TzDriver.Types

namespace TzDriver.Client

def maxSharedSize : UInt32 := 0x100000

inductive Mode where
  | user
  | kernel
deriving DecidableEq, Repr

/-- `kernel_api` as the copy functions test it. -/
def apiMode (kernelApi : UInt8) : Mode :=
  if kernelApi = 0 then .user else .kernel

inductive Item where
  | size
  | buffer
  | valueA
  | valueB
deriving DecidableEq, Repr

/-- One result of `tc_ns_smc`: its return value and the command after it. -/
structure SmcReply where
  ret : UInt32
  cmd : SmcCmd
deriving DecidableEq, Repr

inductive Event where
  | kzallocSmcCmd
  | kfreeSmcCmd
  | mailboxAlloc (ptr : UInt64) (length : Nat)
  | mailboxFree (ptr : UInt64)
  | getSharemem (sharemem : Nat)
  | putSharemem (sharemem : Nat)
  | fromClient (mode : Mode) (index : Fin 4) (item : Item) (addr : UInt64) (length : Nat)
  | toClient (mode : Mode) (index : Fin 4) (item : Item) (addr : UInt64) (length : Nat)
  | mailboxToSharemem (index : Fin 4) (length : Nat)
  | smc (answer : SmcReply)
deriving DecidableEq, Repr

inductive MemType where
  | vmalloc
  | reserved
deriving DecidableEq, Repr

/-- `struct tc_ns_shared_mem`; `id` stands for the pointer to it. -/
structure SharedMem where
  id : Nat
  userAddr : UInt64
  kernelAddr : UInt64
  len : UInt32
  memType : MemType
deriving DecidableEq, Repr

/-- What one call meets outside the driver.  A read that faults is `none`, a copy
that faults is `false`.  `teeSize index n` is what the `n`th read of the shared
word `operation->params[index].memref.size` after the SMC gives. -/
structure CallEnv (platform : Platform) where
  smcCmdAlloc : Bool
  cmdPack : Option (MailboxPtr platform)
  entrySize : Fin 4 → Option UInt32
  inputCopy : Fin 4 → Bool
  valueA : Fin 4 → Option UInt32
  valueB : Fin 4 → Option UInt32
  tmpBlock : Fin 4 → Option (MailboxPtr platform)
  refBlock : Fin 4 → Option (MailboxPtr platform)
  refOverlap : Fin 4 → Bool
  sharedMemList : Fin 4 → List SharedMem
  uuidOverlap : Bool
  loginOverlap : Bool
  uid : UInt32
  caPid : UInt32
  pid : UInt32
  currentMm : Bool
  reply : SmcReply
  laterReplies : List SmcReply
  teeSize : Fin 4 → Nat → UInt32
  exitSize : Fin 4 → Option UInt32
  sizeWrite : Fin 4 → Bool
  bufferWrite : Fin 4 → Bool
  valueAWrite : Fin 4 → Bool
  valueBWrite : Fin 4 → Bool
  copyOutOverlap : Fin 4 → Bool

/-! ### Access to client memory -/

/-- `read_from_client` into a driver buffer.  A refused `memcpy_s` copies nothing;
a faulting user copy may have moved any part of its length. -/
def readFromClient (index : Fin 4) (item : Item) (destSize : Nat) (src : UInt64) (size : Nat)
    (mode : Mode) (clean : Bool) : Int × List Event :=
  if src = 0 then (-eInval, [])
  else if size > destSize then (-eInval, [])
  else if size = 0 then (0, [])
  else
    match mode with
    | .kernel =>
        let ret := memcpyS destSize size (!clean)
        (ret, [.fromClient .kernel index item src (if ret = 0 then size else 0)])
    | .user =>
        (if clean then 0 else -eFault, [.fromClient .user index item src size])

/-- `write_to_client`; `src` is the driver's address of the data. -/
def writeToClient (index : Fin 4) (item : Item) (dest : UInt64) (destSize : Nat) (src : UInt64)
    (size : Nat) (mode : Mode) (clean : Bool) : Int × List Event :=
  if dest = 0 ∨ src = 0 then (-eInval, [])
  else if size > destSize then (-eInval, [])
  else if size = 0 then (0, [])
  else
    match mode with
    | .kernel =>
        let ret := memcpyS destSize size (!clean)
        (ret, [.toClient .kernel index item dest (if ret = 0 then size else 0)])
    | .user =>
        (if clean then 0 else -eFault, [.toClient .user index item dest size])

/-- A stack variable of the driver: never NULL. -/
def stackAddr : UInt64 := 0xffff000000001000

def readWord (index : Fin 4) (item : Item) (src : UInt64) (mode : Mode) (word : Option UInt32) :
    Int × List Event :=
  readFromClient index item 4 src 4 mode word.isSome

def writeWord (index : Fin 4) (item : Item) (dest : UInt64) (mode : Mode) (clean : Bool) :
    Int × List Event :=
  writeToClient index item dest 4 stackAddr 4 mode clean

section Access

variable (index : Fin 4) (item : Item) (mode : Mode) (clean : Bool)

theorem readFromClient_events (destSize : Nat) (src : UInt64) (size : Nat) :
    (readFromClient index item destSize src size mode clean).2 = [] ∨
      ∃ length ≤ size, (readFromClient index item destSize src size mode clean).2 =
        [.fromClient mode index item src length] := by
  unfold readFromClient
  split
  · exact Or.inl rfl
  split
  · exact Or.inl rfl
  split
  · exact Or.inl rfl
  cases mode with
  | user => exact Or.inr ⟨size, Nat.le_refl _, rfl⟩
  | kernel =>
      refine Or.inr ⟨_, ?_, rfl⟩
      split <;> omega

theorem writeToClient_events (dest : UInt64) (destSize : Nat) (src : UInt64) (size : Nat) :
    (writeToClient index item dest destSize src size mode clean).2 = [] ∨
      ∃ length ≤ size, (writeToClient index item dest destSize src size mode clean).2 =
        [.toClient mode index item dest length] := by
  unfold writeToClient
  split
  · exact Or.inl rfl
  split
  · exact Or.inl rfl
  split
  · exact Or.inl rfl
  cases mode with
  | user => exact Or.inr ⟨size, Nat.le_refl _, rfl⟩
  | kernel =>
      refine Or.inr ⟨_, ?_, rfl⟩
      split <;> omega

variable {index item mode clean}

theorem readWord_eq_zero {src : UInt64} {word : Option UInt32} :
    (readWord index item src mode word).1 = 0 ↔ src ≠ 0 ∧ word.isSome = true := by
  unfold readWord readFromClient
  by_cases null : src = 0
  · simp [null, eInval]
  · cases word <;> cases mode <;> simp [null, eFault] <;> decide

theorem writeWord_eq_zero {dest : UInt64} :
    (writeWord index item dest mode clean).1 = 0 ↔ dest ≠ 0 ∧ clean = true := by
  unfold writeWord writeToClient
  by_cases null : dest = 0
  · simp [null, eInval]
  · cases clean <;> cases mode <;> simp [null, eFault, stackAddr] <;> decide

end Access

/-! ### Parameter types -/

inductive Dir where
  | input
  | output
  | inout
deriving DecidableEq

def Dir.isInput : Dir → Bool
  | .input => true
  | .output => false
  | .inout => true

def Dir.isOutput : Dir → Bool
  | .input => false
  | .output => true
  | .inout => true

def teecValueType (type : ParamType) (dir : Dir) : Bool :=
  (dir.isInput && type == .valueInput) || (dir.isOutput && type == .valueOutput) ||
    type == .valueInout

def teecTmpmemType (type : ParamType) (dir : Dir) : Bool :=
  (dir.isInput && type == .memrefTempInput) || (dir.isOutput && type == .memrefTempOutput) ||
    type == .memrefTempInout

def teecMemrefType (type : ParamType) (dir : Dir) : Bool :=
  (dir.isInput && type == .memrefPartialInput) ||
    (dir.isOutput && type == .memrefPartialOutput) || type == .memrefPartialInout

def isTmpMem (type : ParamType) : Bool :=
  type == .memrefTempInput || type == .memrefTempOutput || type == .memrefTempInout

def isRefMem (type : ParamType) : Bool :=
  type == .memrefPartialInput || type == .memrefPartialOutput || type == .memrefPartialInout

def isInputTempmem (type : ParamType) : Bool :=
  type == .memrefTempInput || type == .memrefTempInout

/-! ### Preparing the parameters -/

/-- `union tc_ns_parameter`: `buffer` and `size`, or `a` and `b`. -/
structure OpParameter where
  buffer : UInt32
  size : UInt32
deriving DecidableEq, Repr

/-- The entries at one index of `operation.params`, `buffer_h_addr`, `sharemem`,
`mb_buffer`, `local_tmpbuf` and `trans_paramtype`. -/
structure Slot where
  param : OpParameter
  bufferHAddr : UInt32
  sharemem : Option SharedMem
  mbBuffer : UInt64
  tempBuffer : UInt64
  tempSize : UInt32
  transParamtype : UInt32
deriving DecidableEq, Repr

/-- The pack is zeroed when it is allocated and so is `struct tc_op_params`. -/
def Slot.zeroed : Slot :=
  { param := ⟨0, 0⟩, bufferHAddr := 0, sharemem := none, mbBuffer := 0
    tempBuffer := 0, tempSize := 0, transParamtype := 0 }

/-- How a preparation step for one parameter ends. -/
structure Prepared where
  ret : Int
  slot : Slot
  events : List Event

section Prepare

variable {platform : Platform} (env : CallEnv platform) (mode : Mode) (type : ParamType)
  (index : Fin 4) (clientParam : ClientParam)

def setPhys (slot : Slot) (phys : UInt64) : Slot :=
  { slot with
    param := ⟨phys.toUInt32, slot.param.size⟩
    bufferHAddr := (phys >>> 32).toUInt32 }

def updateInputData (bufferSize : UInt32) : Int × List Event :=
  if isInputTempmem type = false then (0, [])
  else
    let read := readFromClient index .buffer bufferSize.toNat clientParam.bufferAddress
      bufferSize.toNat mode (env.inputCopy index)
    (if read.1 ≠ 0 then -eFault else 0, read.2)

/-- `alloc_for_tmp_mem` after the size word was read. -/
def allocTmpBuffer (bufferSize : UInt32) (slot : Slot) : Prepared :=
  if bufferSize > maxSharedSize then ⟨-eFault, slot, []⟩
  else
    let sized : Slot :=
      { slot with param := ⟨slot.param.buffer, bufferSize⟩, transParamtype := type.code }
    if bufferSize = 0 then
      ⟨0, { setPhys sized 0 with tempBuffer := 0, tempSize := 0 }, []⟩
    else
      match env.tmpBlock index with
      | none => ⟨-eNoMem, sized, []⟩
      | some block =>
          let owned : Slot := { sized with tempBuffer := block.addr, tempSize := bufferSize }
          let input := updateInputData env mode type index clientParam bufferSize
          let events := .mailboxAlloc block.addr bufferSize.toNat :: input.2
          if input.1 ≠ 0 then ⟨-eFault, owned, events⟩
          else ⟨0, setPhys owned (platform.mailboxVirtToPhys block.addr), events⟩

def allocForTmpMem (slot : Slot) : Prepared :=
  let read := readWord index .size clientParam.sizeAddress mode (env.entrySize index)
  if read.1 ≠ 0 then ⟨-eFault, slot, read.2⟩
  else
    let rest := allocTmpBuffer env mode type index clientParam ((env.entrySize index).getD 0) slot
    { rest with events := read.2 ++ rest.events }

/-- `is_refmem_offset_valid`, with the wrap-around of the unsigned difference. -/
def isRefmemOffsetValid (sharedMem : SharedMem) (bufferSize : UInt32) : Bool :=
  sharedMem.len - clientParam.offset ≥ bufferSize && sharedMem.len > clientParam.offset

/-- The entry of `shared_mem_list` at which the loop stops. -/
def findSharedMem : Option SharedMem :=
  (env.sharedMemList index).find? fun sharedMem =>
    sharedMem.userAddr == clientParam.bufferAddress

/-- `mailbox_copy_alloc`: a block with a copy of `size` bytes, or NULL. -/
def mailboxCopyAlloc (src : UInt64) (size : Nat) (block : Option (MailboxPtr platform))
    (overlap : Bool) : Option (MailboxPtr platform) × List Event :=
  if src = 0 ∨ size = 0 then (none, [])
  else
    match block with
    | none => (none, [])
    | some block =>
        if memcpyS size size overlap ≠ 0 then
          (none, [.mailboxAlloc block.addr size, .mailboxFree block.addr])
        else (some block, [.mailboxAlloc block.addr size])

theorem mailboxCopyAlloc_cases (src : UInt64) (size : Nat)
    (block : Option (MailboxPtr platform)) (overlap : Bool) :
    mailboxCopyAlloc src size block overlap = (none, []) ∨
      ∃ ptr, block = some ptr ∧
        (mailboxCopyAlloc src size block overlap =
            (none, [.mailboxAlloc ptr.addr size, .mailboxFree ptr.addr]) ∨
          mailboxCopyAlloc src size block overlap = (some ptr, [.mailboxAlloc ptr.addr size])) := by
  unfold mailboxCopyAlloc
  split
  · exact Or.inl rfl
  cases block with
  | none => exact Or.inl rfl
  | some ptr =>
      refine Or.inr ⟨ptr, rfl, ?_⟩
      simp only
      split
      · exact Or.inl rfl
      · exact Or.inr rfl

def setOperationBuffer (sharedMem : SharedMem) (bufferAddr : UInt64) (bufferSize : UInt32)
    (slot : Slot) : Prepared :=
  match sharedMem.memType with
  | .reserved =>
      ⟨0, setPhys { slot with mbBuffer := bufferAddr } (platform.resMemVirtToPhys bufferAddr), []⟩
  | .vmalloc =>
      match mailboxCopyAlloc bufferAddr bufferSize.toNat (env.refBlock index)
          (env.refOverlap index) with
      | (none, events) => ⟨-eNoMem, slot, events⟩
      | (some block, events) =>
          ⟨0, setPhys { slot with mbBuffer := block.addr }
            (platform.mailboxVirtToPhys block.addr), events⟩

/-- The loop over `shared_mem_list` under `shared_mem_lock`.  A list without the
buffer, or an offset outside it, leaves the slot as it is. -/
def refSharedMem (bufferSize : UInt32) (slot : Slot) : Prepared :=
  match findSharedMem env index clientParam with
  | none => ⟨0, slot, []⟩
  | some sharedMem =>
      if isRefmemOffsetValid clientParam sharedMem bufferSize = false then ⟨0, slot, []⟩
      else
        let set := setOperationBuffer env index sharedMem
          (sharedMem.kernelAddr + clientParam.offset.toUInt64) bufferSize slot
        if set.ret ≠ 0 then set
        else
          ⟨0, { set.slot with sharemem := some sharedMem },
            set.events ++ [.getSharemem sharedMem.id]⟩

def isPhyaddrValid (slot : Slot) : Bool :=
  !(slot.param.buffer == 0 && slot.bufferHAddr == 0)

/-- The type that the TEE is told for a partial reference. -/
def refParamtype (sharemem : Option SharedMem) : UInt32 :=
  match sharemem with
  | some ⟨_, _, _, _, .reserved⟩ => type.code - (0xd - 5) + (0xc - 5)
  | _ => type.code - (0xd - 5)

def allocForRefMem (slot : Slot) : Prepared :=
  let read := readWord index .size clientParam.sizeAddress mode (env.entrySize index)
  let bufferSize := (env.entrySize index).getD 0
  -- `check_buffer_for_ref`: an unreadable size and a zero size are both refused
  if read.1 ≠ 0 ∨ bufferSize = 0 then ⟨-eInval, slot, read.2⟩
  else
    let found := refSharedMem env index clientParam bufferSize
      { slot with param := ⟨0, slot.param.size⟩ }
    let events := read.2 ++ found.events
    if found.ret ≠ 0 then ⟨found.ret, found.slot, events⟩
    else if isPhyaddrValid found.slot = false then ⟨-eInval, found.slot, events⟩
    else
      ⟨0,
        { found.slot with
          param := ⟨found.slot.param.buffer, bufferSize⟩
          transParamtype := refParamtype type found.slot.sharemem },
        events⟩

def transferClientValue (slot : Slot) : Prepared :=
  let readA := readWord index .valueA clientParam.aAddress mode (env.valueA index)
  if readA.1 ≠ 0 then ⟨-eFault, slot, readA.2⟩
  else
    let readB := readWord index .valueB clientParam.bAddress mode (env.valueB index)
    let events := readA.2 ++ readB.2
    let withA : Slot := { slot with param := ⟨(env.valueA index).getD 0, slot.param.size⟩ }
    if readB.1 ≠ 0 then ⟨-eFault, withA, events⟩
    else
      ⟨0,
        { withA with
          param := ⟨withA.param.buffer, (env.valueB index).getD 0⟩
          transParamtype := type.code },
        events⟩

/-- The dispatch of `alloc_operation` on one parameter type. -/
def allocParam (slot : Slot) : Prepared :=
  if teecTmpmemType type .inout then allocForTmpMem env mode type index clientParam slot
  else if teecMemrefType type .inout then allocForRefMem env mode type index clientParam slot
  else if teecValueType type .inout then transferClientValue env mode type index clientParam slot
  else if type = .ionInput ∨ type = .ionSglistInput ∨ type = .memrefSharedInout then
    ⟨-1, slot, []⟩
  else ⟨0, slot, []⟩

end Prepare

/-! ### Copying the parameters back -/

section Update

variable {platform : Platform} (env : CallEnv platform) (mode : Mode) (index : Fin 4)
  (clientParam : ClientParam) (slot : Slot)

/-- `update_tmp_mem`.  The shared size word is read three times: for the value
that is written to the client and checked, and for the two length arguments of
the copy. -/
def updateTmpMem (isComplete : Bool) : Int × List Event :=
  let bufferSize := env.teeSize index 0
  let sized := writeWord index .size clientParam.sizeAddress mode (env.sizeWrite index)
  if sized.1 ≠ 0 then (-eFault, sized.2)
  else if bufferSize > slot.tempSize then
    (if isComplete then -eFault else 0, sized.2)
  else if bufferSize = 0 then (0, sized.2)
  else
    let copied := writeToClient index .buffer clientParam.bufferAddress
      (env.teeSize index 1).toNat slot.tempBuffer (env.teeSize index 2).toNat mode
      (env.bufferWrite index)
    (if copied.1 ≠ 0 then -eNoMem else 0, sized.2 ++ copied.2)

/-- The copy of `update_for_ref_mem` from the mailbox buffer to the shared memory. -/
def copyToSharemem (sharedMem : SharedMem) (bufferSize origSize : UInt32) : Int × List Event :=
  if slot.mbBuffer ≠ 0 ∧ origSize ≥ bufferSize then
    if memcpyS (sharedMem.len - clientParam.offset).toNat bufferSize.toNat
        (env.copyOutOverlap index) ≠ 0 then (-eFault, [])
    else (0, [.mailboxToSharemem index bufferSize.toNat])
  else (0, [])

/-- `update_for_ref_mem`; the slot's `sharemem` is set for every parameter that
`alloc_for_ref_mem` accepted. -/
def updateForRefMem : Int × List Event :=
  let bufferSize := env.teeSize index 0
  let orig := readWord index .size clientParam.sizeAddress mode (env.exitSize index)
  if orig.1 ≠ 0 then (-eFault, orig.2)
  else
    let sized := writeWord index .size clientParam.sizeAddress mode (env.sizeWrite index)
    if sized.1 ≠ 0 then (-eFault, orig.2 ++ sized.2)
    else
      match slot.sharemem with
      | none => (0, orig.2 ++ sized.2)
      | some sharedMem =>
          match sharedMem.memType with
          | .reserved => (0, orig.2 ++ sized.2)
          | .vmalloc =>
              let copied := copyToSharemem env index clientParam slot sharedMem bufferSize
                ((env.exitSize index).getD 0)
              (copied.1, orig.2 ++ sized.2 ++ copied.2)

def updateForValue : Int × List Event :=
  let wroteA := writeWord index .valueA clientParam.aAddress mode (env.valueAWrite index)
  if wroteA.1 ≠ 0 then (-eFault, wroteA.2)
  else
    let wroteB := writeWord index .valueB clientParam.bAddress mode (env.valueBWrite index)
    (if wroteB.1 ≠ 0 then -eFault else 0, wroteA.2 ++ wroteB.2)

def updateParam (type : ParamType) (isComplete : Bool) : Int × List Event :=
  if teecTmpmemType type .output then updateTmpMem env mode index clientParam slot isComplete
  else if teecMemrefType type .output then updateForRefMem env mode index clientParam slot
  else if isComplete && teecValueType type .output then
    updateForValue env mode index clientParam
  else (0, [])

end Update

/-! ### Releasing the parameters -/

section Free

variable (platform : Platform)

def freeTempBuffer (slot : Slot) : List Event :=
  if platform.checksVirtAddr = true ∧ platform.virtAddrValid slot.tempBuffer = false then []
  else if zeroOrNullPtr slot.tempBuffer then []
  else [.mailboxFree slot.tempBuffer]

def putSharememStruct (sharemem : Option SharedMem) : List Event :=
  match sharemem with
  | none => []
  | some sharedMem => [.putSharemem sharedMem.id]

/-- The body of the `free_operation` loop. -/
def freeParam (type : ParamType) (slot : Slot) : List Event :=
  if isTmpMem type then freeTempBuffer platform slot
  else if isRefMem type then
    match slot.sharemem.map SharedMem.memType with
    | some .reserved => putSharememStruct slot.sharemem
    | _ =>
        putSharememStruct slot.sharemem ++
          (if slot.mbBuffer ≠ 0 then [.mailboxFree slot.mbBuffer] else [])
  else if type = .ionSglistInput then freeTempBuffer platform slot
  else []

end Free

end TzDriver.Client
