/-
The usage count of a shared memory block against what is mapped and in flight.

A block's usage counts its recorded mappings and the operations in flight.  This is
the number of mappings that are really there as long as a close that begins at a
recorded address closes all that is left of that mapping.
-/

import Mathlib.Algebra.Order.Group.Multiset
import TzDriver.Lib.ListWalk
import TzDriver.SharedMem.Mmap

namespace TzDriver.SharedMem

open TzDriver.Lib

def Block.mapped (block : Block) : Nat :=
  (if (block.slot .userAddr).isSome then 1 else 0) +
    if (block.slot .userAddrCa).isSome then 1 else 0

theorem Block.mapped_eq_zero {block : Block} :
    block.mapped = 0 ↔ ∀ slot, block.slot slot = none := by
  unfold Block.mapped
  constructor
  · intro none slot
    cases slot with
    | userAddr =>
        cases recorded : block.slot .userAddr with
        | none => rfl
        | some addr => simp [recorded] at none
    | userAddrCa =>
        cases recorded : block.slot .userAddrCa with
        | none => rfl
        | some addr => simp [recorded] at none
  · intro none
    simp [none]

def Block.write (block : Block) (slot : Slot) (addr : Option Nat) : Block :=
  { block with slot := Function.update block.slot slot addr }

theorem Block.mapped_clear {block : Block} {slot : Slot} {addr : Nat}
    (recorded : block.slot slot = some addr) :
    block.mapped = (block.write slot none).mapped + 1 := by
  cases slot with
  | userAddr => simp [Block.mapped, Block.write, recorded, Nat.add_comm]
  | userAddrCa => simp [Block.mapped, Block.write, recorded]

theorem Block.mapped_record {block : Block} {slot : Slot} (addr : Nat)
    (free : block.slot slot = none) :
    (block.write slot (some addr)).mapped = block.mapped + 1 := by
  cases slot with
  | userAddr => simp [Block.mapped, Block.write, free, Nat.add_comm]
  | userAddrCa => simp [Block.mapped, Block.write, free]

def Piece.Of (piece : Piece) (block : Nat) (slot : Slot) : Prop :=
  piece.block = block ∧ piece.slot = slot

structure Settled (dev : Dev) (pieces : Multiset Piece) (inFlight : Multiset Nat) (index : Nat) :
    Prop where
  usage : (dev.block index).usage = (dev.block index).mapped + inFlight.count index
  listed : index ∈ dev.list ↔ (dev.block index).mapped ≠ 0
  recorded : ∀ piece ∈ pieces, piece.block = index → (dev.block index).slot piece.slot ≠ none
  front : ∀ slot start, (dev.block index).slot slot = some start →
    ∃ piece ∈ pieces, piece.Of index slot ∧ piece.start = start
  released : dev.released index = if (dev.block index).usage = 0 then 1 else 0

/-- The invariant of the runs below. -/
structure Consistent (dev : Dev) (pieces : Multiset Piece) (inFlight : Multiset Nat) : Prop where
  once : dev.list.Nodup
  listBound : ∀ index ∈ dev.list, index < dev.count
  heldBound : ∀ index ∈ inFlight, index < dev.count
  pieceBound : ∀ piece ∈ pieces, piece.block < dev.count
  settled : ∀ index < dev.count, Settled dev pieces inFlight index

section Steps

variable {dev after : Dev} {pieces piecesAfter : Multiset Piece}
  {inFlight inFlightAfter : Multiset Nat}

theorem Settled.untouched {index : Nat} (settled : Settled dev pieces inFlight index)
    (block : after.block index = dev.block index)
    (listed : index ∈ after.list ↔ index ∈ dev.list)
    (released : after.released index = dev.released index)
    (mine : ∀ piece, piece.block = index → (piece ∈ piecesAfter ↔ piece ∈ pieces))
    (count : inFlightAfter.count index = inFlight.count index) :
    Settled after piecesAfter inFlightAfter index := by
  refine ⟨?_, ?_, fun piece member here => ?_, fun slot start recorded => ?_, ?_⟩
  · rw [block, count]
    exact settled.usage
  · rw [listed, block]
    exact settled.listed
  · rw [block]
    exact settled.recorded piece ((mine piece here).mp member) here
  · rw [block] at recorded
    obtain ⟨piece, member, of, atStart⟩ := settled.front slot start recorded
    exact ⟨piece, (mine piece of.1).mpr member, of, atStart⟩
  · rw [block, released]
    exact settled.released

@[simp] theorem change_block_self (index : Nat) (with_ : Block → Block) :
    (dev.change index with_).block index = with_ (dev.block index) := Function.update_self _ _ _

theorem change_block_other {index other : Nat} (with_ : Block → Block) (different : other ≠ index) :
    (dev.change index with_).block other = dev.block other := Function.update_of_ne different _ _

/-! ### Operations in flight -/

theorem Consistent.get (good : Consistent dev pieces inFlight) {index : Nat}
    (listed : index ∈ dev.list) :
    Consistent (dev.getSharememStruct index) pieces (index ::ₘ inFlight) := by
  have known := good.listBound index listed
  refine ⟨good.once, good.listBound, fun other held => ?_, good.pieceBound, fun other below => ?_⟩
  · rcases Multiset.mem_cons.mp held with rfl | before
    · exact known
    · exact good.heldBound other before
  · have settled := good.settled other below
    by_cases same : other = index
    · subst same
      have usage := settled.usage
      have mapped := settled.listed.mp listed
      refine ⟨?_, ?_, ?_, ?_, ?_⟩
      · simp only [Dev.getSharememStruct, change_block_self, Multiset.count_cons_self]
        rw [usage]
        simp only [Block.mapped]
        omega
      · simp only [Dev.getSharememStruct, change_block_self]
        exact settled.listed
      · simp only [Dev.getSharememStruct, change_block_self]
        exact settled.recorded
      · simp only [Dev.getSharememStruct, change_block_self]
        exact settled.front
      · have released := settled.released
        simp only [Dev.getSharememStruct, change_block_self]
        rw [if_neg (by omega)] at released
        rw [if_neg (by omega)]
        exact released
    · exact settled.untouched (change_block_other _ same) Iff.rfl rfl (fun _ _ => Iff.rfl)
        (Multiset.count_cons_of_ne same _)

theorem put_frame (dev : Dev) (index : Nat) :
    (dev.putSharememStruct index).list = dev.list ∧
      (dev.putSharememStruct index).count = dev.count ∧
      (dev.putSharememStruct index).block =
        (dev.change index fun block => { block with usage := block.usage - 1 }).block := by
  unfold Dev.putSharememStruct
  dsimp only
  split
  · exact ⟨rfl, rfl, rfl⟩
  · exact ⟨rfl, rfl, rfl⟩

theorem put_released (dev : Dev) (index other : Nat) :
    (dev.putSharememStruct index).released other =
      if other = index ∧ (dev.block index).usage - 1 = 0 then dev.released other + 1
      else dev.released other := by
  unfold Dev.putSharememStruct
  simp only [change_block_self]
  by_cases last : (dev.block index).usage - 1 = 0
  · rw [if_pos last]
    by_cases same : other = index
    · subst same
      rw [if_pos ⟨rfl, last⟩]
      exact Function.update_self _ _ _
    · rw [if_neg fun both => same both.1]
      exact Function.update_of_ne same _ _
  · rw [if_neg last, if_neg fun both => last both.2]
    rfl

theorem Consistent.finish {index : Nat} (good : Consistent dev pieces (index ::ₘ inFlight)) :
    Consistent (dev.putSharememStruct index) pieces inFlight := by
  obtain ⟨list, count, blocks⟩ := put_frame dev index
  have known := good.heldBound index (Multiset.mem_cons_self _ _)
  refine ⟨?_, ?_, ?_, ?_, fun other below => ?_⟩
  · rw [list]
    exact good.once
  · rw [list, count]
    exact good.listBound
  · rw [count]
    exact fun other held => good.heldBound other (Multiset.mem_cons_of_mem held)
  · rw [count]
    exact good.pieceBound
  · rw [count] at below
    have settled := good.settled other below
    by_cases same : other = index
    · subst same
      have usage := settled.usage
      rw [Multiset.count_cons_self] at usage
      have released := settled.released
      rw [if_neg (by omega)] at released
      refine ⟨?_, ?_, ?_, ?_, ?_⟩
      · rw [blocks, change_block_self]
        simp only [Block.mapped] at usage ⊢
        omega
      · rw [blocks, change_block_self, list]
        exact settled.listed
      · rw [blocks, change_block_self]
        exact settled.recorded
      · rw [blocks, change_block_self]
        exact settled.front
      · rw [put_released, blocks, change_block_self, released]
        simp
    · refine settled.untouched ?_ ?_ ?_ (fun _ _ => Iff.rfl) ?_
      · rw [blocks]
        exact change_block_other _ same
      · rw [list]
      · rw [put_released, if_neg fun both => same both.1]
      · exact (Multiset.count_cons_of_ne same _).symm

/-! ### Closing -/

/-- What `shared_vma_close` does to the block it finds, up to its put. -/
def Dev.unlinkAt (dev : Dev) (index : Nat) (slot : Slot) : Dev :=
  let cleared := dev.setSlot index slot none
  if (cleared.block index).slot .userAddr = none ∧
      (cleared.block index).slot .userAddrCa = none then
    { cleared with list := cleared.list.erase index }
  else cleared

def Dev.closeAt (dev : Dev) (index : Nat) (slot : Slot) : Dev :=
  (dev.unlinkAt index slot).putSharememStruct index

theorem not_both_none {index : Nat} (mapped : (dev.block index).mapped ≠ 0) :
    ¬((dev.block index).slot .userAddr = none ∧ (dev.block index).slot .userAddrCa = none) := by
  intro given
  obtain ⟨user, ca⟩ := given
  exact mapped (by simp [Block.mapped, user, ca])

theorem closeLoop_cons_none {start index : Nat} {rest : List Nat}
    (mapped : (dev.block index).mapped ≠ 0) (missed : dev.slotAt index start = none) :
    Dev.closeLoop start dev (index :: rest) = Dev.closeLoop start dev rest := by
  rw [Dev.closeLoop, missed]
  simp only [Option.isSome_none, Bool.false_eq_true, if_false]
  rw [if_neg (not_both_none mapped)]

theorem closeLoop_found {start index : Nat} {slot : Slot} {before rest : List Nat}
    (mapped : ∀ other ∈ before, (dev.block other).mapped ≠ 0)
    (missed : ∀ other ∈ before, dev.slotAt other start = none)
    (found : dev.slotAt index start = some slot) :
    Dev.closeLoop start dev (before ++ index :: rest) = dev.closeAt index slot := by
  induction before with
  | nil =>
      rw [List.nil_append, Dev.closeLoop, found]
      simp only [Option.isSome_some, if_true]
      rfl
  | cons first others ih =>
      rw [List.cons_append, closeLoop_cons_none (mapped first List.mem_cons_self)
        (missed first List.mem_cons_self)]
      exact ih (fun other member => mapped other (List.mem_cons_of_mem _ member))
        fun other member => missed other (List.mem_cons_of_mem _ member)

theorem closeLoop_missed {start : Nat} {list : List Nat}
    (mapped : ∀ other ∈ list, (dev.block other).mapped ≠ 0)
    (missed : ∀ other ∈ list, dev.slotAt other start = none) :
    Dev.closeLoop start dev list = dev := by
  induction list with
  | nil => rfl
  | cons first others ih =>
      rw [closeLoop_cons_none (mapped first List.mem_cons_self) (missed first List.mem_cons_self)]
      exact ih (fun other member => mapped other (List.mem_cons_of_mem _ member))
        fun other member => missed other (List.mem_cons_of_mem _ member)

theorem slotAt_some {start index : Nat} {slot : Slot} (found : dev.slotAt index start = some slot) :
    (dev.block index).slot slot = some start := by
  unfold Dev.slotAt at found
  split at found
  · next recorded =>
      obtain rfl := Option.some.inj found
      exact recorded
  · split at found
    · next recorded =>
        obtain rfl := Option.some.inj found
        exact recorded
    · cases found

theorem slotAt_none {start index : Nat} (missed : dev.slotAt index start = none) (slot : Slot) :
    (dev.block index).slot slot ≠ some start := by
  unfold Dev.slotAt at missed
  split at missed
  · cases missed
  · next notUser =>
      split at missed
      · cases missed
      · next notCa =>
          cases slot with
          | userAddr => exact notUser
          | userAddrCa => exact notCa

theorem unlinkAt_frame (dev : Dev) (index : Nat) (slot : Slot) :
    (dev.unlinkAt index slot).count = dev.count ∧
      (dev.unlinkAt index slot).released = dev.released ∧
      (dev.unlinkAt index slot).block = (dev.setSlot index slot none).block ∧
      (dev.unlinkAt index slot).list =
        if ((dev.block index).write slot none).mapped = 0 then dev.list.erase index
        else dev.list := by
  have here : (dev.setSlot index slot none).block index = (dev.block index).write slot none :=
    change_block_self _ _
  have both : ((dev.block index).write slot none).mapped = 0 ↔
      ((dev.block index).write slot none).slot .userAddr = none ∧
        ((dev.block index).write slot none).slot .userAddrCa = none := by
    rw [Block.mapped_eq_zero]
    constructor
    · intro all
      exact ⟨all _, all _⟩
    · intro given
      obtain ⟨user, ca⟩ := given
      intro other
      cases other with
      | userAddr => exact user
      | userAddrCa => exact ca
  unfold Dev.unlinkAt
  dsimp only
  rw [here]
  by_cases gone : ((dev.block index).write slot none).mapped = 0
  · rw [if_pos (both.mp gone), if_pos gone]
    exact ⟨rfl, rfl, rfl, rfl⟩
  · rw [if_neg fun slots => gone (both.mpr slots), if_neg gone]
    exact ⟨rfl, rfl, rfl, rfl⟩

theorem closeAt_frame (dev : Dev) (index : Nat) (slot : Slot) :
    (dev.closeAt index slot).count = dev.count ∧
      (∀ other ≠ index, (dev.closeAt index slot).block other = dev.block other ∧
        (dev.closeAt index slot).released other = dev.released other) ∧
      (dev.closeAt index slot).block index =
        { (dev.block index).write slot none with usage := (dev.block index).usage - 1 } ∧
      (dev.closeAt index slot).released index =
        (if (dev.block index).usage - 1 = 0 then dev.released index + 1
          else dev.released index) ∧
      (dev.closeAt index slot).list =
        if ((dev.block index).write slot none).mapped = 0 then dev.list.erase index
        else dev.list := by
  obtain ⟨count, released, blocks, list⟩ := unlinkAt_frame dev index slot
  obtain ⟨putList, putCount, putBlocks⟩ := put_frame (dev.unlinkAt index slot) index
  have here : ((dev.unlinkAt index slot).block index) = (dev.block index).write slot none := by
    rw [blocks]
    exact change_block_self _ _
  have putReleased := put_released (dev.unlinkAt index slot) index
  rw [here, released] at putReleased
  refine ⟨putCount.trans count, fun other different => ⟨?_, ?_⟩, ?_, ?_, putList.trans list⟩
  · change ((dev.unlinkAt index slot).putSharememStruct index).block other = _
    rw [putBlocks, change_block_other _ different, blocks]
    exact change_block_other _ different
  · exact (putReleased other).trans (if_neg fun both => different both.1)
  · change ((dev.unlinkAt index slot).putSharememStruct index).block index = _
    rw [putBlocks, change_block_self, here]
    rfl
  · apply (putReleased index).trans
    simp only [true_and]
    rfl

theorem Consistent.closeAt (good : Consistent dev pieces inFlight) {index : Nat} {slot : Slot}
    {start : Nat} {piece : Piece} (listed : index ∈ dev.list)
    (recorded : (dev.block index).slot slot = some start) (member : piece ∈ pieces)
    (of : piece.Of index slot) (last : ∀ other ∈ pieces.erase piece, ¬other.Of index slot) :
    Consistent (dev.closeAt index slot) (pieces.erase piece) inFlight := by
  obtain ⟨count, others, block, released, list⟩ := closeAt_frame dev index slot
  have sublist : ∀ other ∈ (dev.closeAt index slot).list, other ∈ dev.list := by
    intro other present
    rw [list] at present
    split at present
    · exact List.mem_of_mem_erase present
    · exact present
  have listOther (other : Nat) (different : other ≠ index) :
      other ∈ (dev.closeAt index slot).list ↔ other ∈ dev.list := by
    rw [list]
    split
    · exact List.mem_erase_of_ne different
    · exact Iff.rfl
  refine ⟨?_, ?_, ?_, ?_, fun other below => ?_⟩
  · rw [list]
    split
    · exact good.once.erase index
    · exact good.once
  · rw [count]
    exact fun other present => good.listBound other (sublist other present)
  · rw [count]
    exact good.heldBound
  · rw [count]
    exact fun other present => good.pieceBound other (Multiset.mem_of_mem_erase present)
  · rw [count] at below
    have settled := good.settled other below
    by_cases same : other = index
    · subst same
      have mapped := Block.mapped_clear recorded
      have usage := settled.usage
      have before := settled.released
      rw [if_neg (by omega)] at before
      refine ⟨?_, ?_, fun another present here => ?_, fun anotherSlot addr recordedThere => ?_, ?_⟩
      · rw [block]
        change (dev.block other).usage - 1 = ((dev.block other).write slot none).mapped + _
        omega
      · rw [block, list]
        change _ ↔ ((dev.block other).write slot none).mapped ≠ 0
        by_cases gone : ((dev.block other).write slot none).mapped = 0
        · rw [if_pos gone]
          exact iff_of_false good.once.not_mem_erase (not_not_intro gone)
        · rw [if_neg gone]
          exact iff_of_true listed gone
      · rw [block]
        have different : another.slot ≠ slot := fun sameSlot =>
          last another present ⟨here, sameSlot⟩
        change Function.update (dev.block other).slot slot none another.slot ≠ none
        rw [Function.update_of_ne different]
        exact settled.recorded another (Multiset.mem_of_mem_erase present) here
      · rw [block] at recordedThere
        change Function.update (dev.block other).slot slot none anotherSlot = some addr
          at recordedThere
        have different : anotherSlot ≠ slot := by
          intro equal
          subst equal
          rw [Function.update_self] at recordedThere
          cases recordedThere
        rw [Function.update_of_ne different] at recordedThere
        obtain ⟨another, present, anotherOf, atStart⟩ :=
          settled.front anotherSlot addr recordedThere
        have apart : another ≠ piece := by
          intro equal
          subst equal
          exact different (anotherOf.2.symm.trans of.2)
        exact ⟨another, (Multiset.mem_erase_of_ne apart).mpr present, anotherOf, atStart⟩
      · rw [released, block, before]
    · refine settled.untouched (others other same).1 (listOther other same) (others other same).2
        (fun another here => ?_) rfl
      have apart : another ≠ piece := by
        intro equal
        subst equal
        exact same (here.symm.trans of.1)
      exact Multiset.mem_erase_of_ne apart

/-- A part that begins at no recorded address comes out of its mapping unnoticed. -/
theorem Consistent.carve (good : Consistent dev pieces inFlight) {piece : Piece} {low high : Nat}
    (member : piece ∈ pieces) (inside : piece.start ≤ low)
    (unrecorded : (dev.block piece.block).slot piece.slot ≠ some low) :
    Consistent dev ((piece.remainder low high : Multiset Piece) + pieces.erase piece)
      inFlight := by
  have remains : ∀ part ∈ piece.remainder low high, part.Of piece.block piece.slot := by
    intro part inRemainder
    unfold Piece.remainder at inRemainder
    rcases List.mem_append.mp inRemainder with lower | upper
    · split at lower
      · rw [List.mem_singleton.mp lower]
        exact ⟨rfl, rfl⟩
      · cases lower
    · split at upper
      · rw [List.mem_singleton.mp upper]
        exact ⟨rfl, rfl⟩
      · cases upper
  have mem (part : Piece) : part ∈ (piece.remainder low high : Multiset Piece) + pieces.erase piece ↔
      part ∈ piece.remainder low high ∨ part ∈ pieces.erase piece := by
    rw [Multiset.mem_add, Multiset.mem_coe]
  have origin (part : Piece)
      (present : part ∈ (piece.remainder low high : Multiset Piece) + pieces.erase piece) :
      ∃ whole ∈ pieces, part.Of whole.block whole.slot := by
    rcases (mem part).mp present with cut | kept
    · exact ⟨piece, member, remains part cut⟩
    · exact ⟨part, Multiset.mem_of_mem_erase kept, rfl, rfl⟩
  refine ⟨good.once, good.listBound, good.heldBound, fun part present => ?_, fun index below => ?_⟩
  · obtain ⟨whole, inPieces, of⟩ := origin part present
    rw [of.1]
    exact good.pieceBound whole inPieces
  · have settled := good.settled index below
    refine ⟨settled.usage, settled.listed, fun part present here => ?_,
      fun slot start recorded => ?_, settled.released⟩
    · obtain ⟨whole, inPieces, of⟩ := origin part present
      rw [of.2]
      exact settled.recorded whole inPieces (of.1.symm.trans here)
    · obtain ⟨first, inPieces, of, atStart⟩ := settled.front slot start recorded
      by_cases same : first = piece
      · subst same
        have above : first.start < low := by
          refine Nat.lt_of_le_of_ne inside fun equal => unrecorded ?_
          rw [of.1, of.2, ← equal, atStart]
          exact recorded
        refine ⟨{ first with stop := low }, (mem _).mpr (Or.inl ?_), of, atStart⟩
        unfold Piece.remainder
        rw [if_pos above]
        exact List.mem_append_left _ (List.mem_singleton_self _)
      · exact ⟨first, (mem first).mpr (Or.inr ((Multiset.mem_erase_of_ne same).mpr inPieces)),
          of, atStart⟩

theorem remainder_whole (piece : Piece) : piece.remainder piece.start piece.stop = [] := by
  simp [Piece.remainder]

/-- The close of a part, when it closes the whole of every mapping recorded there. -/
theorem Consistent.munmap (good : Consistent dev pieces inFlight) {piece : Piece} {low high : Nat}
    (member : piece ∈ pieces) (inside : piece.start ≤ low)
    (whole : ∀ index ∈ dev.list, ∀ slot, (dev.block index).slot slot = some low →
      piece.Of index slot ∧ piece.start = low ∧ piece.stop = high ∧
        ∀ other ∈ pieces.erase piece, ¬other.Of index slot) :
    Consistent (dev.sharedVmaClose low)
      ((piece.remainder low high : Multiset Piece) + pieces.erase piece) inFlight := by
  have mapped : ∀ index ∈ dev.list, (dev.block index).mapped ≠ 0 := fun index listed =>
    (good.settled index (good.listBound index listed)).listed.mp listed
  rcases walk (fun index => (dev.slotAt index low).isSome) dev.list with
    missed | ⟨before, index, after, listed, found, others⟩
  · have none : ∀ index ∈ dev.list, dev.slotAt index low = none := by simpa using missed
    rw [Dev.sharedVmaClose, closeLoop_missed mapped none]
    refine good.carve member inside fun recorded => ?_
    have below := good.pieceBound piece member
    have settled := good.settled piece.block below
    have isListed : piece.block ∈ dev.list := by
      rw [settled.listed, ne_eq, Block.mapped_eq_zero]
      intro free
      rw [free] at recorded
      cases recorded
    exact slotAt_none (none piece.block isListed) piece.slot recorded
  · obtain ⟨slot, slotFound⟩ := Option.isSome_iff_exists.mp found
    have isListed : index ∈ dev.list := by
      rw [listed]
      simp
    obtain ⟨of, startsHere, stopsHere, last⟩ := whole index isListed slot (slotAt_some slotFound)
    have earlier : ∀ other ∈ before, other ∈ dev.list := by
      intro other inBefore
      rw [listed]
      exact List.mem_append_left _ inBefore
    have closed : dev.sharedVmaClose low = dev.closeAt index slot :=
      (congrArg (Dev.closeLoop low dev) listed).trans
        (closeLoop_found (fun other inBefore => mapped other (earlier other inBefore))
          (by simpa using others) slotFound)
    have nothing : piece.remainder low high = [] := by
      rw [← startsHere, ← stopsHere]
      exact remainder_whole piece
    rw [closed, nothing, Multiset.coe_nil, zero_add]
    exact good.closeAt isListed (slotAt_some slotFound) member of last

end Steps

end TzDriver.SharedMem
