/-
The secure memory over a hibernation (`linux/core/tz_pm.c`): `freeze_noirq` has it encrypted
into a kernel buffer, `restore_noirq` has it decrypted again.

The physical memory is one `Memory`.  What the TEE does to it in one SMC is a function of the
environment.
-/

import Mathlib.Data.UInt
import TzDriver.Lib.Blocks
import TzDriver.Lib.Bytes
import TzDriver.Lib.Runs
import TzDriver.Platform

namespace TzDriver.Power

open TzDriver.Lib

def reservedSecosPhymemBase : Nat := 0x22800000
def reservedSecosPhymemSize : Nat := 0x3000000
def reservedSecosS4Base : Nat := 0x27760000
def reservedSecosS4Size : Nat := 0x100000

/-- `TSP_S4_SUSPEND` and `TSP_S4_RESUME`. -/
inductive PowerOp where
  | suspend
  | resume
deriving DecidableEq

/-- `TSP_S4_ENCRYPT_AND_COPY` and `TSP_S4_DECRYPT_AND_COPY`. -/
inductive CryptOp where
  | encryptAndCopy
  | decryptAndCopy
deriving DecidableEq

inductive S4Kind where
  -- a `tc_vmap` of the reserved S4 memory
  | mapping
  -- a `vmalloc` of `RESERVED_SECOS_PHYMEM_SIZE` bytes
  | area
deriving DecidableEq

abbrev S4Block := Heap.Block S4Kind

/-- The arguments of `tc_s4_crypto_and_copy`. -/
structure CryptArgs where
  middleMemAddr : Nat
  secosMem : Nat
  size : Nat
  index : Nat
deriving DecidableEq

/-- What one call of the driver meets: whether `vmap` and `vmalloc` succeed, the answer to the
power SMC, and the answer to each crypto SMC with the physical memory behind it. -/
structure S4Env where
  mapped : Bool
  allocated : Bool
  power : UInt64
  crypt : CryptOp → CryptArgs → Memory UInt8 → UInt64 × Memory UInt8

/-- The globals of `tz_pm.c` and the memory that they lead to. -/
structure S4State where
  kernelMemAddr : Option S4Block
  bufferVaddr : Option S4Block
  bufferPaddr : Nat
  bufferSize : Nat
  heap : Heap S4Kind
  image : S4Block → Memory UInt8
  phys : Memory UInt8
  -- a freeze began while buffers were held
  overlapped : Bool

/-- `(int)` of an SMC answer. -/
def toInt (answer : UInt64) : Int :=
  answer.toUInt32.toInt32.toInt

namespace S4State

variable (env : S4Env) (state : S4State)

def initial (phys : Memory UInt8) : S4State :=
  { kernelMemAddr := none
    bufferVaddr := none
    bufferPaddr := 0
    bufferSize := 0
    heap := .empty
    image := fun _ _ => 0
    phys := phys
    overlapped := false }

/-- `vunmap` and `vfree`, which ignore NULL. -/
def giveBack : Option S4Block → Heap S4Kind → Heap S4Kind
  | none, heap => heap
  | some block, heap => heap.give block

/-- `tc_s4_alloc_crypto_buffer`, with what it leaves in `*kernel_mem_addr`. -/
def tcS4AllocCryptoBuffer : Int × Option S4Block × S4State :=
  if env.mapped = false then (-eFault, none, { state with bufferVaddr := none })
  else
    let mapping := state.heap.block .mapping
    let mapped := state.heap.take .mapping
    if env.allocated = false then
      (-eNoMem, none,
        { state with
          bufferVaddr := none
          bufferPaddr := 0
          bufferSize := 0
          heap := mapped.give mapping })
    else
      (0, some (mapped.block .area),
        { state with
          bufferVaddr := some mapping
          bufferPaddr := reservedSecosS4Base
          bufferSize := reservedSecosS4Size
          heap := mapped.take .area })

def freeResource (kernelMemAddr : Option S4Block) : S4State :=
  { state with
    kernelMemAddr := none
    bufferVaddr := none
    bufferPaddr := 0
    bufferSize := 0
    heap := giveBack kernelMemAddr (giveBack state.bufferVaddr state.heap) }

/-- The `memcpy_s` between the S4 buffer and the kernel buffer; neither pointer may be NULL. -/
def memcpyBuffers (kernelMemAddr : Option S4Block) : Int :=
  if state.bufferVaddr.isNone ∨ kernelMemAddr.isNone then eInval
  else memcpyS state.bufferSize state.bufferSize false

/-- One pass of the loop of `tc_s4_transfer_data`. -/
def transferChunk (kernelMemAddr : Option S4Block) (op : CryptOp) (copiedSize index : Nat) :
    Int × S4State :=
  let args : CryptArgs :=
    { middleMemAddr := state.bufferPaddr
      secosMem := reservedSecosPhymemBase + copiedSize
      size := state.bufferSize
      index := index }
  match op with
  | .decryptAndCopy =>
      if state.memcpyBuffers kernelMemAddr ≠ 0 then (-eFault, state)
      else
        let chunk := kernelMemAddr.elim [] fun area =>
          (state.image area).read copiedSize state.bufferSize
        let answer := env.crypt op args (state.phys.write reservedSecosS4Base chunk)
        if answer.1 ≠ 0 then (-eFault, { state with phys := answer.2 })
        else (0, { state with phys := answer.2 })
  | .encryptAndCopy =>
      let answer := env.crypt op args state.phys
      let asked : S4State := { state with phys := answer.2 }
      if answer.1 ≠ 0 then (-eFault, asked)
      else if state.memcpyBuffers kernelMemAddr ≠ 0 then (-eFault, asked)
      else
        (0, { asked with
          image := fun block =>
            if some block = kernelMemAddr then
              (state.image block).write copiedSize
                (answer.2.read reservedSecosS4Base state.bufferSize)
            else state.image block })

/-- The loop of `tc_s4_transfer_data`; `none` where the passes do not suffice. -/
def transferLoop (kernelMemAddr : Option S4Block) (op : CryptOp) :
    Nat → Nat → Nat → S4State → Option (Int × S4State)
  | 0, _, _, _ => none
  | passes + 1, copiedSize, index, state =>
      if copiedSize < reservedSecosPhymemSize then
        let step := state.transferChunk env kernelMemAddr op copiedSize index
        if step.1 ≠ 0 then some step
        else
          transferLoop kernelMemAddr op passes (copiedSize + step.2.bufferSize) (index + 1) step.2
      else some (0, state)

def chunkCount : Nat := reservedSecosPhymemSize / reservedSecosS4Size

def tcS4TransferData (kernelMemAddr : Option S4Block) (op : CryptOp) : Option (Int × S4State) :=
  transferLoop env kernelMemAddr op (chunkCount + 1) 0 0 state

def tcS4PmOps (powerOp : PowerOp) (op : CryptOp) (kernelMemAddr : Option S4Block) :
    Option (Int × S4State) :=
  match powerOp with
  | .suspend =>
      let kept := { state with kernelMemAddr := kernelMemAddr }
      if toInt env.power ≠ 0 then some (toInt env.power, kept)
      else kept.tcS4TransferData env kernelMemAddr op
  | .resume =>
      (state.tcS4TransferData env state.kernelMemAddr op).map fun (ret, after) =>
        if ret ≠ 0 then (ret, after) else (toInt env.power, after)

/-- Note whether a freeze begins while buffers are held. -/
def noted : S4State :=
  { state with
    overlapped := state.overlapped || state.kernelMemAddr.isSome || state.bufferVaddr.isSome }

def tcS4PmSuspend : Option (Int × S4State) :=
  let alloc := state.noted.tcS4AllocCryptoBuffer env
  if alloc.1 ≠ 0 then some (alloc.1, alloc.2.2)
  else
    (alloc.2.2.tcS4PmOps env .suspend .encryptAndCopy alloc.2.1).map fun (ret, after) =>
      if ret ≠ 0 then (ret, after.freeResource alloc.2.1) else (ret, after)

def tcS4PmResume : Option (Int × S4State) :=
  (state.tcS4PmOps env .resume .decryptAndCopy state.kernelMemAddr).map fun (ret, after) =>
    (ret, after.freeResource after.kernelMemAddr)

end S4State

/-! ### One chunk -/

section Chunk

variable {env : S4Env} {state after : S4State} {kernelMemAddr : Option S4Block} {op : CryptOp}
  {copiedSize index passes : Nat} {ret : Int}

/-- A transfer changes the physical memory and the kernel buffer and nothing else. -/
structure Carried (state after : S4State) : Prop where
  kernelMemAddr : after.kernelMemAddr = state.kernelMemAddr
  bufferVaddr : after.bufferVaddr = state.bufferVaddr
  bufferPaddr : after.bufferPaddr = state.bufferPaddr
  bufferSize : after.bufferSize = state.bufferSize
  heap : after.heap = state.heap
  overlapped : after.overlapped = state.overlapped

theorem Carried.refl (state : S4State) : Carried state state :=
  ⟨rfl, rfl, rfl, rfl, rfl, rfl⟩

theorem Carried.trans {middle : S4State} (first : Carried state middle)
    (second : Carried middle after) : Carried state after :=
  ⟨second.kernelMemAddr.trans first.kernelMemAddr, second.bufferVaddr.trans first.bufferVaddr,
    second.bufferPaddr.trans first.bufferPaddr, second.bufferSize.trans first.bufferSize,
    second.heap.trans first.heap, second.overlapped.trans first.overlapped⟩

theorem carried_chunk (env : S4Env) (state : S4State) (kernelMemAddr : Option S4Block)
    (op : CryptOp) (copiedSize index : Nat) :
    Carried state (state.transferChunk env kernelMemAddr op copiedSize index).2 := by
  unfold S4State.transferChunk
  cases op with
  | decryptAndCopy =>
      dsimp only
      split
      · exact .refl state
      · split
        · exact ⟨rfl, rfl, rfl, rfl, rfl, rfl⟩
        · exact ⟨rfl, rfl, rfl, rfl, rfl, rfl⟩
  | encryptAndCopy =>
      dsimp only
      split
      · exact ⟨rfl, rfl, rfl, rfl, rfl, rfl⟩
      · split
        · exact ⟨rfl, rfl, rfl, rfl, rfl, rfl⟩
        · exact ⟨rfl, rfl, rfl, rfl, rfl, rfl⟩

theorem carried_loop (ran : S4State.transferLoop env kernelMemAddr op passes copiedSize index
    state = some (ret, after)) : Carried state after := by
  induction passes generalizing copiedSize index state with
  | zero => cases ran
  | succ passes ih =>
      have chunk := carried_chunk env state kernelMemAddr op copiedSize index
      simp only [S4State.transferLoop] at ran
      split at ran
      · split at ran
        · have same := congrArg Prod.snd (Option.some.inj ran)
          rw [← show _ = after from same]
          exact chunk
        · exact chunk.trans (ih ran)
      · cases ran
        exact .refl _

theorem S4State.chunkCount_eq : S4State.chunkCount = 48 := by
  decide

theorem chunk_in_range (index : Nat) :
    index * reservedSecosS4Size < reservedSecosPhymemSize ↔ index < S4State.chunkCount := by
  rw [S4State.chunkCount_eq]
  unfold reservedSecosS4Size reservedSecosPhymemSize
  omega

theorem next_chunk (index : Nat) :
    index * reservedSecosS4Size + reservedSecosS4Size = (index + 1) * reservedSecosS4Size :=
  (Nat.succ_mul index reservedSecosS4Size).symm

/-- With a buffer of the full size the loop ends behind the last chunk. -/
theorem transferLoop_returns (size : state.bufferSize = reservedSecosS4Size)
    (bounded : index ≤ S4State.chunkCount) (enough : S4State.chunkCount < index + passes) :
    (S4State.transferLoop env kernelMemAddr op passes (index * reservedSecosS4Size) index
      state).isSome = true := by
  induction passes generalizing index state with
  | zero => exact absurd enough (Nat.not_lt.mpr bounded)
  | succ passes ih =>
      have carried := carried_chunk env state kernelMemAddr op (index * reservedSecosS4Size) index
      simp only [S4State.transferLoop]
      split
      · next inside =>
          split
          · rfl
          · rw [carried.bufferSize, size, next_chunk]
            apply ih (carried.bufferSize.trans size)
            · exact (chunk_in_range index).mp inside
            · omega
      · rfl

/-- With an empty buffer the first copy into it fails. -/
theorem transferLoop_empty (empty : state.bufferSize = 0) :
    (S4State.transferLoop env kernelMemAddr .decryptAndCopy (passes + 1) 0 0 state).isSome =
      true := by
  have failed : state.memcpyBuffers kernelMemAddr ≠ 0 := by
    unfold S4State.memcpyBuffers
    split
    · decide
    · rw [empty]
      decide
  simp only [S4State.transferLoop, S4State.transferChunk, failed, ne_eq, not_false_eq_true,
    if_true]
  rfl

end Chunk

/-! ### The round trip -/

def InSecure (addr : Nat) : Prop :=
  reservedSecosPhymemBase ≤ addr ∧ addr < reservedSecosPhymemBase + reservedSecosPhymemSize

/-- An encryption writes the cipher text of the chunk to the middle memory and leaves the secure
memory alone. -/
def Seals (crypt : CryptOp → CryptArgs → Memory UInt8 → UInt64 × Memory UInt8)
    (cipher : Nat → List UInt8 → List UInt8) : Prop :=
  ∀ args phys after, crypt .encryptAndCopy args phys = (0, after) →
    after.read args.middleMemAddr args.size =
        cipher args.index (phys.read args.secosMem args.size) ∧
      ∀ addr, InSecure addr → after addr = phys addr

/-- A decryption of the cipher text of a chunk writes the chunk to its place and leaves the rest
of the secure memory alone. -/
def Opens (crypt : CryptOp → CryptArgs → Memory UInt8 → UInt64 × Memory UInt8)
    (cipher : Nat → List UInt8 → List UInt8) : Prop :=
  ∀ args phys after plain, plain.length = args.size →
    phys.read args.middleMemAddr args.size = cipher args.index plain →
      crypt .decryptAndCopy args phys = (0, after) →
        after.read args.secosMem args.size = plain ∧
          ∀ addr, InSecure addr → (addr < args.secosMem ∨ args.secosMem + args.size ≤ addr) →
            after addr = phys addr

def secureChunk (phys : Memory UInt8) (index : Nat) : List UInt8 :=
  phys.read (reservedSecosPhymemBase + index * reservedSecosS4Size) reservedSecosS4Size

def imageChunk (image : Memory UInt8) (index : Nat) : List UInt8 :=
  image.read (index * reservedSecosS4Size) reservedSecosS4Size

structure Ready (state : S4State) : Prop where
  mapped : state.bufferVaddr.isSome = true
  paddr : state.bufferPaddr = reservedSecosS4Base
  size : state.bufferSize = reservedSecosS4Size

section RoundTrip

variable {env : S4Env} {state after : S4State} {area : S4Block}
  {cipher : Nat → List UInt8 → List UInt8} {index passes : Nat}

theorem Ready.carried (ready : Ready state) (carried : Carried state after) : Ready after := by
  constructor
  · rw [carried.bufferVaddr]
    exact ready.mapped
  · exact carried.bufferPaddr.trans ready.paddr
  · exact carried.bufferSize.trans ready.size

theorem Ready.copies (ready : Ready state) (area : S4Block) :
    state.memcpyBuffers (some area) = 0 := by
  unfold S4State.memcpyBuffers
  rw [if_neg]
  · rw [ready.size]
    decide
  · have mapped := ready.mapped
    cases buffer : state.bufferVaddr with
    | none =>
        rw [buffer] at mapped
        cases mapped
    | some mapping => simp

theorem secureChunk_congr {phys other : Memory UInt8} (inside : index < S4State.chunkCount)
    (same : ∀ addr, InSecure addr →
      reservedSecosPhymemBase + index * reservedSecosS4Size ≤ addr →
      addr < reservedSecosPhymemBase + index * reservedSecosS4Size + reservedSecosS4Size →
        phys addr = other addr) : secureChunk phys index = secureChunk other index := by
  apply Memory.read_congr
  intro addr low high
  rw [S4State.chunkCount_eq] at inside
  apply same addr _ low high
  simp only [InSecure, reservedSecosPhymemBase, reservedSecosPhymemSize,
    reservedSecosS4Size] at low high ⊢
  omega

theorem seal_chunk (ready : Ready state) (seals : Seals env.crypt cipher)
    (done : state.transferChunk env (some area) .encryptAndCopy (index * reservedSecosS4Size)
      index = (0, after)) :
    imageChunk (after.image area) index = cipher index (secureChunk state.phys index) ∧
      (∀ addr, InSecure addr → after.phys addr = state.phys addr) ∧
      ∀ earlier, earlier < index →
        imageChunk (after.image area) earlier = imageChunk (state.image area) earlier := by
  simp only [S4State.transferChunk, ready.paddr, ready.size, ready.copies area, ne_eq,
    not_true_eq_false, if_false] at done
  split at done
  · cases congrArg Prod.fst done
  · next answered =>
      have ended := congrArg Prod.snd done
      dsimp only at ended
      obtain ⟨sealed, kept⟩ := seals _ _ _ (Prod.ext (not_not.mp answered) rfl)
      rw [← ended]
      dsimp only
      rw [if_pos rfl]
      refine ⟨?_, kept, ?_⟩
      · rw [← show _ = cipher index (secureChunk state.phys index) from sealed]
        exact Memory.read_write_of_length _ _ (Memory.length_read ..)
      · intro earlier before
        apply Memory.read_write_apart
        left
        rw [next_chunk]
        exact Nat.mul_le_mul_right _ before

theorem seal_loop (ready : Ready state) (seals : Seals env.crypt cipher)
    (ran : S4State.transferLoop env (some area) .encryptAndCopy passes
      (index * reservedSecosS4Size) index state = some (0, after)) :
    (∀ chunk, index ≤ chunk → chunk < S4State.chunkCount →
        imageChunk (after.image area) chunk = cipher chunk (secureChunk state.phys chunk)) ∧
      (∀ addr, InSecure addr → after.phys addr = state.phys addr) ∧
      ∀ earlier, earlier < index →
        imageChunk (after.image area) earlier = imageChunk (state.image area) earlier := by
  induction passes generalizing index state with
  | zero => cases ran
  | succ passes ih =>
      simp only [S4State.transferLoop] at ran
      split at ran
      · split at ran
        · next failed =>
            have zero := congrArg Prod.fst (Option.some.inj ran)
            exact absurd zero failed
        · next done =>
            have carried := carried_chunk env state (some area) .encryptAndCopy
              (index * reservedSecosS4Size) index
            obtain ⟨here, kept, before⟩ := seal_chunk ready seals (Prod.ext (not_not.mp done) rfl)
            rw [carried.bufferSize, ready.size, next_chunk] at ran
            obtain ⟨later, keptLater, beforeLater⟩ := ih (ready.carried carried) ran
            refine ⟨?_, ?_, ?_⟩
            · intro chunk from_ to_
              rcases Nat.eq_or_lt_of_le from_ with same | further
              · subst same
                exact (beforeLater _ (Nat.lt_succ_self _)).trans here
              · rw [later chunk further to_]
                apply congrArg (cipher chunk)
                exact secureChunk_congr to_ fun addr inside _ _ => kept addr inside
            · intro addr inside
              exact (keptLater addr inside).trans (kept addr inside)
            · intro earlier lower
              exact (beforeLater earlier (Nat.lt_succ_of_lt lower)).trans (before earlier lower)
      · next ended =>
          cases ran
          rw [chunk_in_range, Nat.not_lt] at ended
          refine ⟨?_, fun _ _ => rfl, fun _ _ => rfl⟩
          intro chunk from_ to_
          omega

theorem open_chunk (ready : Ready state) (opens : Opens env.crypt cipher) {plain : List UInt8}
    (length : plain.length = reservedSecosS4Size)
    (sealed : imageChunk (state.image area) index = cipher index plain)
    (done : state.transferChunk env (some area) .decryptAndCopy (index * reservedSecosS4Size)
      index = (0, after)) :
    secureChunk after.phys index = plain ∧ after.image = state.image ∧
      ∀ addr, InSecure addr →
        (addr < reservedSecosPhymemBase + index * reservedSecosS4Size ∨
          reservedSecosPhymemBase + index * reservedSecosS4Size + reservedSecosS4Size ≤ addr) →
        after.phys addr = state.phys addr := by
  simp only [S4State.transferChunk, ready.paddr, ready.size, ready.copies area, ne_eq,
    not_true_eq_false, if_false] at done
  split at done
  · cases congrArg Prod.fst done
  · next answered =>
      have ended := congrArg Prod.snd done
      dsimp only at ended
      -- not by `dsimp`, after which the kernel unfolds the bytes of the chunk
      rw [Option.elim_some] at ended answered
      have loaded := Memory.read_write_of_length state.phys reservedSecosS4Base
        (Memory.length_read (state.image area) (index * reservedSecosS4Size) reservedSecosS4Size)
      obtain ⟨opened, kept⟩ := opens
        ⟨reservedSecosS4Base, reservedSecosPhymemBase + index * reservedSecosS4Size,
          reservedSecosS4Size, index⟩ _ _ plain length (loaded.trans sealed)
        (Prod.ext (not_not.mp answered) rfl)
      rw [← ended]
      refine ⟨opened, rfl, ?_⟩
      intro addr secure apart
      apply (kept addr secure apart).trans
      apply Memory.write_outside
      rw [Memory.length_read]
      simp only [InSecure, reservedSecosPhymemBase, reservedSecosPhymemSize, reservedSecosS4Base,
        reservedSecosS4Size] at secure ⊢
      omega

theorem open_loop (ready : Ready state) (opens : Opens env.crypt cipher)
    {plain : Nat → List UInt8} (length : ∀ chunk, (plain chunk).length = reservedSecosS4Size)
    (sealed : ∀ chunk, index ≤ chunk → chunk < S4State.chunkCount →
      imageChunk (state.image area) chunk = cipher chunk (plain chunk))
    (ran : S4State.transferLoop env (some area) .decryptAndCopy passes
      (index * reservedSecosS4Size) index state = some (0, after)) :
    (∀ chunk, index ≤ chunk → chunk < S4State.chunkCount →
        secureChunk after.phys chunk = plain chunk) ∧
      ∀ addr, InSecure addr → addr < reservedSecosPhymemBase + index * reservedSecosS4Size →
        after.phys addr = state.phys addr := by
  induction passes generalizing index state with
  | zero => cases ran
  | succ passes ih =>
      simp only [S4State.transferLoop] at ran
      split at ran
      · next more =>
          rw [chunk_in_range] at more
          split at ran
          · next failed =>
              have zero := congrArg Prod.fst (Option.some.inj ran)
              exact absurd zero failed
          · next done =>
              have carried := carried_chunk env state (some area) .decryptAndCopy
                (index * reservedSecosS4Size) index
              obtain ⟨here, image, kept⟩ := open_chunk ready opens (length index)
                (sealed index (Nat.le_refl index) more) (Prod.ext (not_not.mp done) rfl)
              rw [carried.bufferSize, ready.size, next_chunk] at ran
              have rest := ih (ready.carried carried) (by
                rw [image]
                exact fun chunk from_ to_ => sealed chunk (Nat.le_of_succ_le from_) to_) ran
              obtain ⟨later, keptLater⟩ := rest
              refine ⟨?_, ?_⟩
              · intro chunk from_ to_
                rcases Nat.eq_or_lt_of_le from_ with same | further
                · subst same
                  rw [← here]
                  apply secureChunk_congr more
                  intro addr secure low high
                  apply keptLater addr secure
                  rw [← next_chunk]
                  omega
                · exact later chunk further to_
              · intro addr secure low
                have later :
                    addr < reservedSecosPhymemBase + (index + 1) * reservedSecosS4Size := by
                  rw [← next_chunk]
                  omega
                exact (keptLater addr secure later).trans (kept addr secure (Or.inl low))
      · next ended =>
          cases ran
          rw [chunk_in_range, Nat.not_lt] at ended
          refine ⟨?_, fun _ _ _ => rfl⟩
          intro chunk from_ to_
          omega

/-- A TEE that answers zero to the requests of the driver lets the transfer succeed. -/
theorem transferLoop_zero {op : CryptOp}
    (answers : ∀ args phys, args.middleMemAddr = reservedSecosS4Base →
      args.size = reservedSecosS4Size → (env.crypt op args phys).1 = 0)
    {copiedSize : Nat} {ret : Int} (ready : Ready state)
    (ran : S4State.transferLoop env (some area) op passes copiedSize index state =
      some (ret, after)) : ret = 0 := by
  induction passes generalizing copiedSize index state with
  | zero => cases ran
  | succ passes ih =>
      have chunk : (state.transferChunk env (some area) op copiedSize index).1 = 0 := by
        cases op with
        | encryptAndCopy =>
            simp only [S4State.transferChunk, ready.copies area]
            rw [if_neg]
            · rfl
            · rw [not_not]
              exact answers _ _ ready.paddr ready.size
        | decryptAndCopy =>
            simp only [S4State.transferChunk, ready.copies area]
            rw [if_neg (by simp), if_neg]
            rw [not_not]
            exact answers _ _ ready.paddr ready.size
      simp only [S4State.transferLoop, chunk] at ran
      split at ran
      · rw [if_neg (by simp)] at ran
        exact ih (ready.carried (carried_chunk ..)) ran
      · cases ran
        rfl

end RoundTrip

/-! ### Freeze and restore -/

section Calls

variable {env : S4Env} {state after : S4State}

def S4State.begun (state : S4State) : S4State :=
  { state.noted with
    kernelMemAddr := some ((state.heap.take .mapping).block .area)
    bufferVaddr := some (state.heap.block .mapping)
    bufferPaddr := reservedSecosS4Base
    bufferSize := reservedSecosS4Size
    heap := (state.heap.take .mapping).take .area }

def S4State.newArea (state : S4State) : S4Block :=
  (state.heap.take .mapping).block .area

theorem begun_ready (state : S4State) : Ready state.begun :=
  ⟨rfl, rfl, rfl⟩

inductive Suspended (env : S4Env) (state : S4State) : Int → S4State → Prop where
  | unmapped : env.mapped = false →
      Suspended env state (-eFault) { state.noted with bufferVaddr := none }
  | unallocated : env.allocated = false → Suspended env state (-eNoMem)
      { state.noted with
        bufferVaddr := none
        bufferPaddr := 0
        bufferSize := 0
        heap := (state.heap.take .mapping).give (state.heap.block .mapping) }
  | refused : toInt env.power ≠ 0 →
      Suspended env state (toInt env.power) (state.begun.freeResource (some state.newArea))
  | failed (ret : Int) (carried : S4State) : ret ≠ 0 →
      S4State.transferLoop env (some state.newArea) .encryptAndCopy (S4State.chunkCount + 1) 0 0
        state.begun = some (ret, carried) →
      Suspended env state ret (carried.freeResource (some state.newArea))
  | frozen (carried : S4State) :
      S4State.transferLoop env (some state.newArea) .encryptAndCopy (S4State.chunkCount + 1) 0 0
        state.begun = some (0, carried) →
      Suspended env state 0 carried

theorem Suspended.saves {ret : Int} (ended : Suspended env state ret after) (zero : ret = 0) :
    S4State.transferLoop env (some state.newArea) .encryptAndCopy (S4State.chunkCount + 1) 0 0
      state.begun = some (0, after) := by
  cases ended with
  | unmapped refused => exact absurd zero (by decide)
  | unallocated refused => exact absurd zero (by decide)
  | refused failed => exact absurd zero failed
  | failed ret carried failed ran => exact absurd zero failed
  | frozen carried ran => exact ran

theorem alloc_unmapped (mapped : env.mapped = false) :
    state.noted.tcS4AllocCryptoBuffer env =
      (-eFault, none, { state.noted with bufferVaddr := none }) := by
  simp [S4State.tcS4AllocCryptoBuffer, mapped]

theorem alloc_unallocated (mapped : env.mapped = true) (allocated : env.allocated = false) :
    state.noted.tcS4AllocCryptoBuffer env = (-eNoMem, none,
      { state.noted with
        bufferVaddr := none
        bufferPaddr := 0
        bufferSize := 0
        heap := (state.heap.take .mapping).give (state.heap.block .mapping) }) := by
  simp [S4State.tcS4AllocCryptoBuffer, mapped, allocated, S4State.noted]

theorem alloc_succeeds (mapped : env.mapped = true) (allocated : env.allocated = true) :
    state.noted.tcS4AllocCryptoBuffer env =
      (0, some state.newArea, { state.begun with kernelMemAddr := state.kernelMemAddr }) := by
  simp [S4State.tcS4AllocCryptoBuffer, mapped, allocated, S4State.noted, S4State.begun,
    S4State.newArea]

theorem suspended_of_suspend {ret : Int} (froze : state.tcS4PmSuspend env = some (ret, after)) :
    Suspended env state ret after := by
  unfold S4State.tcS4PmSuspend at froze
  cases mapped : env.mapped with
  | false =>
      rw [alloc_unmapped mapped] at froze
      cases froze
      exact .unmapped mapped
  | true =>
      cases allocated : env.allocated with
      | false =>
          rw [alloc_unallocated mapped allocated] at froze
          cases froze
          exact .unallocated allocated
      | true =>
          rw [alloc_succeeds mapped allocated] at froze
          obtain ⟨⟨given, left⟩, ran, ended⟩ := Option.map_eq_some_iff.mp froze
          simp only [S4State.tcS4PmOps] at ran
          by_cases refused : toInt env.power ≠ 0
          · rw [if_pos refused] at ran
            cases ran
            dsimp only at ended
            rw [if_pos refused] at ended
            cases ended
            exact .refused refused
          · rw [if_neg refused] at ran
            dsimp only at ended
            split at ended
            · next failed =>
                cases ended
                exact .failed _ left failed ran
            · next done =>
                cases ended
                rw [not_not.mp done] at ran ⊢
                exact .frozen _ ran

theorem restored_of_resume {ret : Int} (thawed : state.tcS4PmResume env = some (ret, after)) :
    ∃ given carried, S4State.transferLoop env state.kernelMemAddr .decryptAndCopy
        (S4State.chunkCount + 1) 0 0 state = some (given, carried) ∧
      ret = (if given ≠ 0 then given else toInt env.power) ∧
      after = carried.freeResource carried.kernelMemAddr := by
  obtain ⟨⟨code, left⟩, ops, ended⟩ := Option.map_eq_some_iff.mp thawed
  obtain ⟨⟨given, carried⟩, ran, chosen⟩ := Option.map_eq_some_iff.mp ops
  refine ⟨given, carried, ran, ?_⟩
  dsimp only at ended chosen
  cases ended
  split at chosen
  · next failed =>
      cases chosen
      exact ⟨(if_pos failed).symm, rfl⟩
  · next done =>
      cases chosen
      exact ⟨(if_neg done).symm, rfl⟩

theorem transfer_returns (size : state.bufferSize = reservedSecosS4Size)
    (kernelMemAddr : Option S4Block) (op : CryptOp) :
    (state.tcS4TransferData env kernelMemAddr op).isSome = true := by
  have ended := @transferLoop_returns env state kernelMemAddr op 0 (S4State.chunkCount + 1) size
    (Nat.zero_le _) (by omega)
  rw [Nat.zero_mul] at ended
  exact ended

theorem suspend_returns (env : S4Env) (state : S4State) :
    (state.tcS4PmSuspend env).isSome = true := by
  unfold S4State.tcS4PmSuspend
  cases mapped : env.mapped with
  | false =>
      rw [alloc_unmapped mapped]
      rfl
  | true =>
      cases allocated : env.allocated with
      | false =>
          rw [alloc_unallocated mapped allocated]
          rfl
      | true =>
          rw [alloc_succeeds mapped allocated]
          dsimp only
          rw [if_neg (by simp), Option.isSome_map]
          simp only [S4State.tcS4PmOps]
          split
          · rfl
          · exact transfer_returns rfl _ _

theorem resume_returns (env : S4Env)
    (size : state.bufferSize = reservedSecosS4Size ∨ state.bufferSize = 0) :
    (state.tcS4PmResume env).isSome = true := by
  unfold S4State.tcS4PmResume
  rw [Option.isSome_map]
  simp only [S4State.tcS4PmOps, Option.isSome_map]
  rcases size with full | empty
  · exact transfer_returns full _ _
  · exact transferLoop_empty empty

end Calls

theorem saved_of_suspend {cipher : Nat → List UInt8 → List UInt8} {save : S4Env}
    {before frozen : S4State} (seals : Seals save.crypt cipher)
    (froze : before.tcS4PmSuspend save = some (0, frozen)) :
    Ready frozen ∧ frozen.kernelMemAddr = some before.newArea ∧
      ∀ chunk, chunk < S4State.chunkCount →
        imageChunk (frozen.image before.newArea) chunk =
          cipher chunk (secureChunk before.phys chunk) := by
  have ran := (suspended_of_suspend froze).saves rfl
  have carried := carried_loop ran
  rw [← Nat.zero_mul reservedSecosS4Size] at ran
  obtain ⟨sealed, _, _⟩ := seal_loop (begun_ready before) seals ran
  refine ⟨(begun_ready before).carried carried, carried.kernelMemAddr, ?_⟩
  intro chunk inside
  exact sealed chunk (Nat.zero_le chunk) inside

/-- A freeze and a restore that both report success bring the secure memory back as it was,
whatever the physical memory came to hold between them; the buffers are gone afterwards. -/
theorem s4_round_trip {cipher : Nat → List UInt8 → List UInt8} {save load : S4Env}
    {before frozen restored : S4State} (seals : Seals save.crypt cipher)
    (opens : Opens load.crypt cipher) (froze : before.tcS4PmSuspend save = some (0, frozen))
    (lost : Memory UInt8)
    (thawed : S4State.tcS4PmResume load { frozen with phys := lost } = some (0, restored)) :
    (∀ addr, InSecure addr → restored.phys addr = before.phys addr) ∧
      restored.kernelMemAddr = none ∧ restored.bufferVaddr = none := by
  obtain ⟨ready, area, sealed⟩ := saved_of_suspend seals froze
  obtain ⟨given, carried, ran, code, rfl⟩ := restored_of_resume thawed
  have success : given = 0 := by
    by_contra failed
    rw [if_pos failed] at code
    exact failed code.symm
  subst success
  have readyLost : Ready { frozen with phys := lost } :=
    ready.carried ⟨rfl, rfl, rfl, rfl, rfl, rfl⟩
  have whole : S4State.transferLoop load (some before.newArea) .decryptAndCopy
      (S4State.chunkCount + 1) (0 * reservedSecosS4Size) 0 { frozen with phys := lost } =
        some (0, carried) := by
    rw [Nat.zero_mul, ← area]
    exact ran
  obtain ⟨opened, _⟩ := open_loop readyLost opens
    (fun chunk => Memory.length_read before.phys _ _) (fun chunk _ inside => sealed chunk inside)
    whole
  refine ⟨?_, rfl, rfl⟩
  intro addr inside
  have total : reservedSecosPhymemSize = S4State.chunkCount * reservedSecosS4Size := by decide
  apply Memory.eq_of_chunks (by decide) _ inside.1 (total ▸ inside.2)
  intro chunk low
  exact opened chunk (Nat.zero_le chunk) low

/-- A TEE that masks every byte of a chunk with the index of the chunk. -/
def maskCipher (index : Nat) (bytes : List UInt8) : List UInt8 :=
  bytes.map (· ^^^ UInt8.ofNat index)

def maskEnv : S4Env :=
  { mapped := true
    allocated := true
    power := 0
    crypt := fun op args phys =>
      if args.middleMemAddr = reservedSecosS4Base ∧ args.size = reservedSecosS4Size then
        match op with
        | .encryptAndCopy => (0, phys.write args.middleMemAddr
            (maskCipher args.index (phys.read args.secosMem args.size)))
        | .decryptAndCopy => (0, phys.write args.secosMem
            (maskCipher args.index (phys.read args.middleMemAddr args.size)))
      else (1, phys) }

theorem length_maskCipher (index : Nat) (bytes : List UInt8) :
    (maskCipher index bytes).length = bytes.length :=
  List.length_map _

theorem maskCipher_twice (index : Nat) (bytes : List UInt8) :
    maskCipher index (maskCipher index bytes) = bytes := by
  unfold maskCipher
  rw [List.map_map]
  apply List.map_id''
  intro byte
  rw [Function.comp_apply, UInt8.xor_assoc, UInt8.xor_self, UInt8.xor_zero]

theorem maskEnv_seals : Seals maskEnv.crypt maskCipher := by
  intro args phys after answered
  simp only [maskEnv] at answered
  split at answered
  · next asked =>
      have length := (length_maskCipher args.index _).trans
        (Memory.length_read phys args.secosMem args.size)
      rw [← show _ = after from congrArg Prod.snd answered]
      refine ⟨Memory.read_write_of_length _ _ length, ?_⟩
      intro addr inside
      apply Memory.write_outside
      left
      rw [asked.1]
      simp only [InSecure, reservedSecosPhymemBase, reservedSecosPhymemSize] at inside
      unfold reservedSecosS4Base
      omega
  · cases congrArg Prod.fst answered

theorem maskEnv_opens : Opens maskEnv.crypt maskCipher := by
  intro args phys after plain length sealed answered
  simp only [maskEnv] at answered
  split at answered
  · rw [sealed, maskCipher_twice] at answered
    rw [← show _ = after from congrArg Prod.snd answered]
    refine ⟨Memory.read_write_of_length _ _ length, ?_⟩
    intro addr _inside outside
    apply Memory.write_outside
    rw [length]
    exact outside
  · cases congrArg Prod.fst answered

theorem maskEnv_answers (op : CryptOp) (args : CryptArgs) (phys : Memory UInt8)
    (middle : args.middleMemAddr = reservedSecosS4Base)
    (size : args.size = reservedSecosS4Size) : (maskEnv.crypt op args phys).1 = 0 := by
  simp only [maskEnv, middle, size, and_self, if_true]
  cases op <;> rfl

theorem s4_round_trip_mask : ∃ frozen restored,
    (S4State.initial UInt8.ofNat).tcS4PmSuspend maskEnv = some (0, frozen) ∧
      S4State.tcS4PmResume maskEnv { frozen with phys := fun _ => 0 } = some (0, restored) ∧
      ∀ addr, InSecure addr → restored.phys addr = UInt8.ofNat addr := by
  obtain ⟨⟨ret, frozen⟩, froze⟩ := Option.isSome_iff_exists.mp
    (suspend_returns maskEnv (S4State.initial UInt8.ofNat))
  have zero : ret = 0 := by
    cases suspended_of_suspend froze with
    | unmapped refused => cases refused
    | unallocated refused => cases refused
    | refused failed => exact absurd rfl failed
    | failed ret carried failed ran =>
        exact transferLoop_zero (maskEnv_answers _) (begun_ready _) ran
    | frozen carried ran => rfl
  subst zero
  obtain ⟨ready, area, _⟩ := saved_of_suspend maskEnv_seals froze
  have readyLost : Ready { frozen with phys := fun _ => 0 } :=
    ready.carried ⟨rfl, rfl, rfl, rfl, rfl, rfl⟩
  obtain ⟨⟨ret, restored⟩, thawed⟩ := Option.isSome_iff_exists.mp
    (resume_returns maskEnv (Or.inl readyLost.size))
  have zero : ret = 0 := by
    obtain ⟨given, carried, ran, code, _⟩ := restored_of_resume thawed
    have moved : S4State.transferLoop maskEnv (some (S4State.initial UInt8.ofNat).newArea)
        .decryptAndCopy (S4State.chunkCount + 1) 0 0 { frozen with phys := fun _ => 0 } =
          some (given, carried) := by
      rw [← area]
      exact ran
    rw [code, transferLoop_zero (maskEnv_answers _) readyLost moved]
    rfl
  subst zero
  have back := s4_round_trip maskEnv_seals maskEnv_opens froze (fun _ => 0) thawed
  exact ⟨frozen, restored, froze, thawed, back.1⟩

/-! ### Runs -/

inductive S4Label where
  | freeze (env : S4Env)
  | restore (env : S4Env)
  -- the power is off: the physical memory comes to hold anything
  | lose (phys : Memory UInt8)

def S4State.exec (state : S4State) : S4Label → Option S4State
  | .freeze env => (state.tcS4PmSuspend env).map Prod.snd
  | .restore env => (state.tcS4PmResume env).map Prod.snd
  | .lose phys => some { state with phys := phys }

def s4Machine : Machine S4State S4Label :=
  { init := fun state => ∃ phys, state = .initial phys
    step := fun state label after => state.exec label = some after }

/-- The blocks that the globals lead to. -/
def S4State.owned (state : S4State) : Multiset S4Block :=
  ↑(state.kernelMemAddr.toList ++ state.bufferVaddr.toList)

/-- The live blocks are those of the globals and those that a freeze has forgotten. -/
structure S4Kept (state : S4State) : Prop where
  live : ∃ forgotten, state.heap.Holds (forgotten + state.owned) ∧
    (state.overlapped = false → forgotten = 0)
  size : state.bufferSize = reservedSecosS4Size ∨ state.bufferSize = 0

section Runs

variable {env : S4Env} {state after : S4State}

theorem S4Kept.carried (kept : S4Kept state) (carried : Carried state after) : S4Kept after := by
  obtain ⟨live, size⟩ := kept
  constructor
  · rw [S4State.owned, carried.heap, carried.overlapped, carried.kernelMemAddr,
      carried.bufferVaddr]
    exact live
  · rw [carried.bufferSize]
    exact size

theorem holds_giveBack {heap : Heap S4Kind} {rest : Multiset S4Block} {given : Option S4Block}
    (holds : heap.Holds (rest + ↑given.toList)) : (S4State.giveBack given heap).Holds rest := by
  cases given with
  | none => rwa [Option.toList_none, Multiset.coe_nil, Multiset.add_zero] at holds
  | some block =>
      rw [Option.toList_some, Multiset.coe_singleton, Multiset.add_comm,
        Multiset.singleton_add] at holds
      exact holds.give

theorem S4Kept.free (kept : S4Kept state) : S4Kept (state.freeResource state.kernelMemAddr) := by
  obtain ⟨⟨forgotten, holds, none_⟩, _⟩ := kept
  constructor
  · refine ⟨forgotten, ?_, none_⟩
    rw [S4State.owned, ← Multiset.coe_add, ← Multiset.add_assoc] at holds
    change Heap.Holds _ (forgotten + Multiset.ofList [])
    rw [Multiset.coe_nil, Multiset.add_zero]
    exact holds_giveBack (holds_giveBack holds)
  · exact Or.inr rfl

theorem noted_overlapped (clear : state.noted.overlapped = false) :
    state.overlapped = false ∧ state.kernelMemAddr = none ∧ state.bufferVaddr = none := by
  have parts : ((state.overlapped || state.kernelMemAddr.isSome) || state.bufferVaddr.isSome) =
      false := clear
  simp only [Bool.or_eq_false_iff, Option.isSome_eq_false_iff, Option.isNone_iff_eq_none] at parts
  exact ⟨parts.1.1, parts.1.2, parts.2⟩

theorem S4Kept.unmap (kept : S4Kept state) {heap : Heap S4Kind} {paddr size : Nat}
    (same : ∀ blocks, state.heap.Holds blocks → heap.Holds blocks)
    (sized : size = reservedSecosS4Size ∨ size = 0) :
    S4Kept { state.noted with
      bufferVaddr := none
      bufferPaddr := paddr
      bufferSize := size
      heap := heap } := by
  obtain ⟨⟨forgotten, holds, none_⟩, _⟩ := kept
  constructor
  · refine ⟨forgotten + ↑state.bufferVaddr.toList, ?_, ?_⟩
    · apply same
      change state.heap.Holds (forgotten + Multiset.ofList state.bufferVaddr.toList +
        Multiset.ofList (state.kernelMemAddr.toList ++ []))
      rw [S4State.owned, ← Multiset.coe_add,
        Multiset.add_comm (Multiset.ofList state.kernelMemAddr.toList),
        ← Multiset.add_assoc] at holds
      rw [List.append_nil]
      exact holds
    · intro clear
      obtain ⟨before, _, unmapped⟩ := noted_overlapped clear
      rw [none_ before, unmapped]
      rfl
  · exact sized

/-- The buffers of a freeze; those noted before are forgotten. -/
theorem S4Kept.begin (kept : S4Kept state) : S4Kept state.begun := by
  obtain ⟨⟨forgotten, holds, none_⟩, _⟩ := kept
  constructor
  · refine ⟨forgotten + state.owned, ?_, ?_⟩
    · have taken := (holds.take .mapping).take .area
      change ((state.heap.take .mapping).take .area).Holds
        (forgotten + state.owned + ↑[state.newArea, state.heap.block .mapping])
      rw [Multiset.add_comm, ← Multiset.cons_coe, ← Multiset.cons_coe, Multiset.coe_nil,
        Multiset.cons_add, Multiset.cons_add, Multiset.zero_add]
      exact taken
    · intro clear
      obtain ⟨before, noArea, noMapping⟩ := noted_overlapped clear
      rw [none_ before, S4State.owned, noArea, noMapping]
      rfl
  · exact Or.inl rfl

theorem S4Kept.suspend (kept : S4Kept state) {ret : Int} (ended : Suspended env state ret after) :
    S4Kept after := by
  cases ended with
  | unmapped refused => exact kept.unmap (fun _ holds => holds) kept.size
  | unallocated refused =>
      exact kept.unmap (fun _ holds => (holds.take .mapping).give) (Or.inr rfl)
  | refused failed => exact kept.begin.free
  | failed ret carried failed ran =>
      have same := carried_loop ran
      have freed := (kept.begin.carried same).free
      rw [same.kernelMemAddr] at freed
      exact freed
  | frozen carried ran => exact kept.begin.carried (carried_loop ran)

theorem S4Kept.resume (kept : S4Kept state) {ret : Int}
    (thawed : state.tcS4PmResume env = some (ret, after)) : S4Kept after := by
  obtain ⟨given, carried, ran, _, rfl⟩ := restored_of_resume thawed
  exact (kept.carried (carried_loop ran)).free

theorem kept_of_reachable (reached : s4Machine.Reachable state) : S4Kept state := by
  apply reached.invariant
  · rintro start ⟨phys, rfl⟩
    exact ⟨⟨0, Heap.Holds.empty, fun _ => rfl⟩, Or.inr rfl⟩
  · intro before label later kept taken
    cases label with
    | freeze env =>
        obtain ⟨⟨ret, ended⟩, froze, rfl⟩ := Option.map_eq_some_iff.mp taken
        exact kept.suspend (suspended_of_suspend froze)
    | restore env =>
        obtain ⟨⟨ret, ended⟩, thawed, rfl⟩ := Option.map_eq_some_iff.mp taken
        exact kept.resume thawed
    | lose phys =>
        cases taken
        exact kept.carried ⟨rfl, rfl, rfl, rfl, rfl, rfl⟩

end Runs

/-- In every run of freezes and restores, with any answers of the TEE and of the allocators, no
buffer is unmapped or freed that is not live, every freeze and every restore comes to its end,
and unless a freeze begins while buffers are held the live buffers are those of the globals. -/
theorem s4_buffers_kept (state : S4State) (reached : s4Machine.Reachable state) :
    (∃ forgotten, state.heap.Holds (forgotten + state.owned) ∧
        (state.overlapped = false → forgotten = 0)) ∧
      ∀ env, (state.tcS4PmSuspend env).isSome = true ∧ (state.tcS4PmResume env).isSome = true := by
  have kept := kept_of_reachable reached
  refine ⟨kept.live, ?_⟩
  intro env
  exact ⟨suspend_returns env state, resume_returns env kept.size⟩

def busyEnv : S4Env :=
  { mapped := true
    allocated := true
    power := 1
    crypt := fun _ _ phys => (0, phys) }

theorem s4_buffers_kept_busy : ∃ state, s4Machine.Reachable state ∧
    state.heap.trace.length = 4 ∧ state.heap.Holds 0 := by
  have start : s4Machine.Reachable (.initial fun _ => 0) := .start ⟨_, rfl⟩
  have ran : ((Machine.replay S4State.exec (.initial fun _ => 0) [.freeze busyEnv]).map
      fun state => decide (state.heap.trace.length = 4 ∧ state.overlapped = false ∧
        state.kernelMemAddr = none ∧ state.bufferVaddr = none)) = some true := by
    decide
  obtain ⟨state, reached, shown⟩ := start.exists_of_replay (fun _ _ _ stepped => stepped) ran
  obtain ⟨four, clear, noArea, noMapping⟩ := of_decide_eq_true shown
  obtain ⟨⟨forgotten, holds, none_⟩, _⟩ := s4_buffers_kept state reached
  rw [none_ clear, S4State.owned, noArea, noMapping] at holds
  exact ⟨state, reached, four, holds⟩

end TzDriver.Power
