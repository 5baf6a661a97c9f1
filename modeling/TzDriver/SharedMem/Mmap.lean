/-
Shared memory blocks and the user mappings of them (`linux/core/tc_client_driver.c`,
`linux/core/mem.c`), for one dev_file.

A block remembers the start addresses of its two mappings.  The kernel's side is the
list of pieces that are mapped: a partial munmap takes a part out of a piece and
calls the close hook with the address where that part begins.
-/

import Mathlib.Data.Multiset.AddSub
import TzDriver.Lib.Runs

namespace TzDriver.SharedMem

open TzDriver.Lib

inductive Slot where
  | userAddr
  | userAddrCa
deriving DecidableEq, Repr

/-- `struct tc_ns_shared_mem`; `none` is `INVALID_MAP_ADDR`. -/
structure Block where
  slot : Slot → Option Nat
  offset : Nat
  len : Nat
  usage : Nat

/-- The blocks of a dev_file and `shared_mem_list`; `released` counts the calls of
`tc_mem_free`. -/
structure Dev where
  block : Nat → Block
  released : Nat → Nat
  count : Nat
  list : List Nat

namespace Dev

variable (dev : Dev)

def change (index : Nat) (with_ : Block → Block) : Dev :=
  { dev with block := Function.update dev.block index (with_ (dev.block index)) }

def setSlot (index : Nat) (slot : Slot) (addr : Option Nat) : Dev :=
  dev.change index fun block => { block with slot := Function.update block.slot slot addr }

def tcMemFree (index : Nat) : Dev :=
  { dev with released := Function.update dev.released index (dev.released index + 1) }

def getSharememStruct (index : Nat) : Dev :=
  dev.change index fun block => { block with usage := block.usage + 1 }

def putSharememStruct (index : Nat) : Dev :=
  let after := dev.change index fun block => { block with usage := block.usage - 1 }
  if (after.block index).usage = 0 then after.tcMemFree index else after

/-- The slot of a block that holds the address; `user_addr` is looked at first. -/
def slotAt (index start : Nat) : Option Slot :=
  if (dev.block index).slot .userAddr = some start then some .userAddr
  else if (dev.block index).slot .userAddrCa = some start then some .userAddrCa
  else none

/-- The loop of `shared_vma_close` over the blocks from here on. -/
def closeLoop (start : Nat) : Dev → List Nat → Dev
  | dev, [] => dev
  | dev, index :: rest =>
      let found := dev.slotAt index start
      let cleared := match found with
        | some slot => dev.setSlot index slot none
        | none => dev
      let unlinked :=
        if (cleared.block index).slot .userAddr = none ∧
            (cleared.block index).slot .userAddrCa = none then
          { cleared with list := cleared.list.erase index }
        else cleared
      if found.isSome then unlinked.putSharememStruct index
      else closeLoop start unlinked rest

def sharedVmaClose (start : Nat) : Dev :=
  closeLoop start dev dev.list

/-- `tc_mem_allocate` and `init_shared_mem`. -/
def tcMemAllocate (len : Nat) : Dev :=
  { dev with
    block := Function.update dev.block dev.count ⟨fun _ => none, 0, len, 0⟩
    released := Function.update dev.released dev.count 0
    count := dev.count + 1 }

/-- `atomic_set` keeps 32 bits of `vm_pgoff`, and `find_sharedmem` reads them as a
signed int widened to unsigned long. -/
def atomicOffset (pgoff : Nat) : Nat :=
  ((BitVec.ofNat 32 pgoff).signExtend 64).toNat

inductive Found where
  | refused
  | again (index : Nat)
  | fresh

/-- `find_sharedmem`, before it allocates. -/
def findSharedmem (pgoff len : Nat) : Found :=
  match dev.list.find? (fun index => (dev.block index).offset == pgoff) with
  | none => .fresh
  | some index =>
      if (dev.block index).slot .userAddrCa ≠ none ∨ len ≠ (dev.block index).len then .refused
      else .again index

/-- `tc_client_mmap` of `len` bytes at `start`: the block and the slot it maps, if it
returns 0. -/
def tcClientMmap (start len pgoff : Nat) (allocated remapped : Bool) : Dev × Option (Nat × Slot) :=
  match dev.findSharedmem pgoff len with
  | .refused => (dev, none)
  | .again index =>
      let taken := dev.getSharememStruct index
      if remapped = false then (taken.putSharememStruct index, none)
      else (taken.setSlot index .userAddrCa (some start), some (index, .userAddrCa))
  | .fresh =>
      if allocated = false then (dev, none)
      else
        let index := dev.count
        let made := dev.tcMemAllocate len
        if remapped = false then (made.tcMemFree index, none)
        else
          let mapped := (made.setSlot index .userAddr (some start)).change index
            fun block => { block with offset := atomicOffset pgoff }
          let taken := mapped.getSharememStruct index
          ({ taken with list := taken.list ++ [index] }, some (index, .userAddr))

end Dev

/-! ### The kernel's side -/

/-- A mapped range of one address space, and the mapping it belongs to. -/
structure Piece where
  mm : Nat
  start : Nat
  stop : Nat
  block : Nat
  slot : Slot
deriving DecidableEq, Repr

/-- What a munmap of `[low, high)` leaves of a piece. -/
def Piece.remainder (piece : Piece) (low high : Nat) : List Piece :=
  (if piece.start < low then [{ piece with stop := low }] else []) ++
    if high < piece.stop then [{ piece with start := high }] else []

structure State where
  dev : Dev
  pieces : Multiset Piece
  inFlight : Multiset Nat

inductive Label where
  | mmap (mm start len pgoff : Nat) (allocated remapped : Bool)
  | munmap (piece : Piece) (low high : Nat)
  | beginOperation (addr : Option Nat)
  | endOperation (block : Nat)

/-- `alloc_for_ref_mem` takes the first block whose `user_addr` is the client's
buffer address, which may be `INVALID_MAP_ADDR` too. -/
def Dev.refMem (dev : Dev) (addr : Option Nat) : Option Nat :=
  dev.list.find? fun index => (dev.block index).slot .userAddr == addr

def State.step (state : State) : Label → Option State
  | .mmap mm start len pgoff allocated remapped =>
      -- the kernel picks a range that is free in the address space
      if 0 < len ∧ ∀ piece ∈ state.pieces, piece.mm = mm →
          piece.stop ≤ start ∨ start + len ≤ piece.start then
        match state.dev.tcClientMmap start len pgoff allocated remapped with
        | (after, none) => some { state with dev := after }
        | (after, some (block, slot)) =>
            some { state with
              dev := after
              pieces := ⟨mm, start, start + len, block, slot⟩ ::ₘ state.pieces }
      else none
  | .munmap piece low high =>
      if piece ∈ state.pieces ∧ piece.start ≤ low ∧ low < high ∧ high ≤ piece.stop then
        some { state with
          dev := state.dev.sharedVmaClose low
          pieces := (piece.remainder low high : Multiset Piece) + state.pieces.erase piece }
      else none
  | .beginOperation addr =>
      match state.dev.refMem addr with
      | none => none
      | some block =>
          some { state with
            dev := state.dev.getSharememStruct block
            inFlight := block ::ₘ state.inFlight }
  | .endOperation block =>
      if block ∈ state.inFlight then
        some { state with
          dev := state.dev.putSharememStruct block
          inFlight := state.inFlight.erase block }
      else none

/-- Any mappings, unmappings and operations on a new dev_file. -/
def mmapMachine : Machine State Label :=
  { init := fun state => state.dev.list = [] ∧ state.dev.count = 0 ∧ state.pieces = 0 ∧
      state.inFlight = 0
    step := fun before label after => before.step label = some after }

end TzDriver.SharedMem
