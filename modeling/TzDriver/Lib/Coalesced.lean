/-
Tilings without mergeable pairs.

Some tiles of a tiling are free and the others are held.  When no two free tiles
are the halves of a block one order up, the free tiles are the largest aligned
blocks without a held cell, so they follow from the held tiles alone.
-/

import TzDriver.Lib.Dyadic

namespace TzDriver.Lib

namespace Block

def buddy (block : Block) : Block := ⟨block.start ^^^ 2 ^ block.order, block.order⟩

def Within (inner outer : Block) : Prop := ∀ cell, inner.Covers cell → outer.Covers cell

theorem covers_iff_div {block : Block} (aligned : block.Aligned) (cell : Nat) :
    block.Covers cell ↔ cell / 2 ^ block.order = block.start / 2 ^ block.order := by
  obtain ⟨index, start⟩ := aligned
  have positive := Nat.two_pow_pos block.order
  rw [Covers, start, Nat.mul_div_cancel_left _ positive, Nat.div_eq_iff positive, Nat.mul_comm index]
  omega

/-- Of two aligned blocks that meet, the one of the larger order holds the other. -/
theorem within_of_meet {small large : Block} (smallAligned : small.Aligned)
    (largeAligned : large.Aligned) (ordered : small.order ≤ large.order) {cell : Nat}
    (inSmall : small.Covers cell) (inLarge : large.Covers cell) : small.Within large := by
  intro other covers
  rw [covers_iff_div smallAligned] at inSmall covers
  rw [covers_iff_div largeAligned] at inLarge ⊢
  have split : 2 ^ large.order = 2 ^ small.order * 2 ^ (large.order - small.order) := by
    rw [← pow_add, Nat.add_sub_cancel' ordered]
  rw [← inLarge, split, ← Nat.div_div_eq_div_mul, ← Nat.div_div_eq_div_mul, covers, inSmall]

theorem order_le_of_within {inner outer : Block} (within : inner.Within outer) :
    inner.order ≤ outer.order := by
  have positive := Nat.two_pow_pos inner.order
  have first := within inner.start inner.covers_start
  have last := within (inner.start + 2 ^ inner.order - 1) ⟨by omega, by omega⟩
  have length : 2 ^ inner.order ≤ 2 ^ outer.order := by
    have low := first.1
    have high := last.2
    omega
  exact (Nat.pow_le_pow_iff_right (by decide)).mp length

theorem eq_of_within {left right : Block} (forth : left.Within right)
    (back : right.Within left) : left = right := by
  have orders : left.order = right.order :=
    Nat.le_antisymm (order_le_of_within forth) (order_le_of_within back)
  have starts : left.start = right.start :=
    Nat.le_antisymm (back _ right.covers_start).1 (forth _ left.covers_start).1
  cases left
  cases right
  simp only at orders starts
  rw [orders, starts]

theorem eq_of_meet {left right : Block} (leftAligned : left.Aligned)
    (rightAligned : right.Aligned) (same : left.order = right.order) {cell : Nat}
    (inLeft : left.Covers cell) (inRight : right.Covers cell) : left = right :=
  eq_of_within (within_of_meet leftAligned rightAligned (Nat.le_of_eq same) inLeft inRight)
    (within_of_meet rightAligned leftAligned (Nat.le_of_eq same.symm) inRight inLeft)

end Block

/-- No two free blocks below the order of the whole are buddies. -/
def Coalesced (whole : Block) (free : Set Block) : Prop :=
  ∀ block ∈ free, block.order < whole.order → block.buddy ∉ free

/-- An aligned part of the whole without a held cell. -/
structure Clear (whole : Block) (held : Set Block) (block : Block) : Prop where
  aligned : block.Aligned
  inside : block.Within whole
  unheld : ∀ cell, block.Covers cell → ∀ other ∈ held, ¬ other.Covers cell

/-- A clear block that no other clear block holds. -/
structure MaximalClear (whole : Block) (held : Set Block) (block : Block) : Prop where
  clear : Clear whole held block
  maximal : ∀ other, Clear whole held other → block.Within other → other = block

theorem not_dvd_sub_of_dvd {start order : Nat} (room : 2 ^ order ≤ start)
    (wide : 2 ^ (order + 1) ∣ start) : ¬ 2 ^ (order + 1) ∣ start - 2 ^ order := by
  intro notWide
  have gap := (Nat.dvd_sub_iff_right room wide).mp notWide
  have short := Nat.le_of_dvd (Nat.two_pow_pos order) gap
  rw [pow_succ] at short
  have positive := Nat.two_pow_pos order
  omega

namespace Coalesced

variable {whole : Block} {free held : Set Block}

theorem subset {fewer : Set Block} (coalesced : Coalesced whole free) (sub : fewer ⊆ free) :
    Coalesced whole fewer :=
  fun block member below other => coalesced block (sub member) below (sub other)

theorem buddy_buddy (block : Block) : block.buddy.buddy = block := by
  rw [Block.buddy, Block.buddy]
  simp only [Nat.xor_assoc, Nat.xor_self, Nat.xor_zero]

/-- Adding a block keeps the free blocks apart when its buddy is not one of them. -/
theorem insert {block : Block} (coalesced : Coalesced whole free) (aligned : block.Aligned)
    (alone : block.order < whole.order → block.buddy ∉ free) :
    Coalesced whole (insert block free) := by
  have moved : block.buddy ≠ block := by
    intro same
    have starts := congrArg Block.start same
    have positive := Nat.two_pow_pos block.order
    simp only [Block.buddy] at starts
    rcases buddy_cases aligned with ⟨_, up⟩ | ⟨_, _, down⟩ <;> omega
  rintro other (rfl | old) below (meets | listed)
  · exact moved meets
  · exact alone below listed
  · have back : block.buddy = other := by
      rw [← meets, buddy_buddy]
    have sameOrder : block.order = other.order := by rw [← meets, Block.buddy]
    exact alone (sameOrder ▸ below) (back ▸ old)
  · exact coalesced other old below listed

/-- The upper halves that are left of a free block have the cut block, or a part of
it, as their buddies. -/
theorem cutFront (coalesced : Coalesced whole free) (tiles : Tiles whole (free ∪ held))
    {start low high : Nat} (member : (⟨start, high⟩ : Block) ∈ free) :
    Coalesced whole (free \ {⟨start, high⟩} ∪ upperHalves start low high) := by
  have aligned : 2 ^ high ∣ start := tiles.aligned _ (Or.inl member)
  have buddyOf {order : Nat} (below : order < high) :
      (⟨start + 2 ^ order, order⟩ : Block).buddy = ⟨start, order⟩ := by
    have wide : 2 ^ (order + 1) ∣ start := Nat.dvd_trans (pow_dvd_pow 2 below) aligned
    have up : start ^^^ 2 ^ order = start + 2 ^ order := by
      rcases buddy_cases (Nat.dvd_trans (pow_dvd_pow 2 (Nat.le_succ order)) wide) with
        ⟨_, up⟩ | ⟨room, notWide, _⟩
      · exact up
      · exact absurd notWide (not_dvd_sub_of_dvd room wide)
    rw [Block.buddy]
    simp only [← up, Nat.xor_assoc, Nat.xor_self, Nat.xor_zero]
  -- a block at the cut start is neither free any more nor an upper half
  have cut {order : Nat} (below : order < high)
      (listed : (⟨start, order⟩ : Block) ∈ free \ {⟨start, high⟩} ∪ upperHalves start low high) :
      False := by
    rcases listed with ⟨old, _⟩ | ⟨half, _, _, same⟩
    · have equal := tiles.start_injective (Or.inl old) (Or.inl member) rfl
      have orders := congrArg Block.order equal
      simp only at orders
      omega
    · have starts := congrArg Block.start same
      have positive := Nat.two_pow_pos half
      simp only at starts
      omega
  rintro block (old | ⟨order, above, below, rfl⟩) small other
  · rcases other with ⟨otherOld, _⟩ | ⟨order, above, below, meets⟩
    · exact coalesced block old.1 small otherOld
    · have back : block = ⟨start, order⟩ := by
        rw [← buddy_buddy block, meets, buddyOf below]
      exact cut below (back ▸ Or.inl old)
  · rw [buddyOf below] at other
    exact cut below other

theorem exists_free (coalesced : Coalesced whole free) (tiles : Tiles whole (free ∪ held))
    {block : Block} (clear : Clear whole held block) : ∃ tile ∈ free, block.Within tile := by
  obtain ⟨start, order⟩ := block
  induction order generalizing start with
  | zero =>
      have here : (⟨start, 0⟩ : Block).Covers start := Block.covers_start _
      obtain ⟨tile, member, covers⟩ := tiles.cover start (clear.inside start here)
      rcases member with isFree | isHeld
      · refine ⟨tile, isFree, ?_⟩
        intro cell given
        obtain ⟨low, high⟩ := given
        simp only [pow_zero] at low high
        have same : cell = start := by omega
        rwa [same]
      · exact absurd covers (clear.unheld start here tile isHeld)
  | succ order ih =>
      have wide : 2 ^ (order + 1) ∣ start := clear.aligned
      have halves := Tiles.halves wide
      have half {part : Block} (isPart : part ∈ ({⟨start, order⟩, ⟨start + 2 ^ order, order⟩} :
          Set Block)) : Clear whole held part := by
        refine ⟨halves.aligned part isPart, ?_, ?_⟩
        · intro cell covers
          exact clear.inside cell (halves.inside part isPart cell covers)
        · intro cell covers
          exact clear.unheld cell (halves.inside part isPart cell covers)
      have lowClear := half (Or.inl rfl)
      have highClear := half (Or.inr rfl)
      obtain ⟨low, lowFree, lowWithin⟩ := ih start lowClear
      obtain ⟨high, highFree, highWithin⟩ := ih (start + 2 ^ order) highClear
      -- a tile that is larger than the half it holds has room for the whole block
      have grown {tile part : Block} (isFree : tile ∈ free) (partOrder : part.order = order)
          (isPart : part ∈ ({⟨start, order⟩, ⟨start + 2 ^ order, order⟩} : Set Block))
          (within : part.Within tile) (larger : tile.order ≠ order) :
          (⟨start, order + 1⟩ : Block).Within tile := by
        have least := Block.order_le_of_within within
        refine Block.within_of_meet wide (tiles.aligned tile (Or.inl isFree)) ?_
          (halves.inside part isPart part.start part.covers_start)
          (within part.start part.covers_start)
        change order + 1 ≤ tile.order
        omega
      by_cases lowSame : low.order = order
      · by_cases highSame : high.order = order
        · have lowIs : low = ⟨start, order⟩ :=
            Block.eq_of_meet (tiles.aligned low (Or.inl lowFree)) lowClear.aligned lowSame
              (lowWithin _ (Block.covers_start _)) (Block.covers_start _)
          have highIs : high = ⟨start + 2 ^ order, order⟩ :=
            Block.eq_of_meet (tiles.aligned high (Or.inl highFree)) highClear.aligned highSame
              (highWithin _ (Block.covers_start _)) (Block.covers_start _)
          have buddies : low.buddy = high := by
            rw [lowIs, highIs, Block.buddy]
            rcases buddy_cases lowClear.aligned with ⟨_, up⟩ | ⟨room, notWide, _⟩
            · rw [up]
            · exact absurd notWide (not_dvd_sub_of_dvd room wide)
          have inWhole := Block.order_le_of_within clear.inside
          have below : low.order < whole.order := by
            change order + 1 ≤ whole.order at inWhole
            omega
          exact absurd (buddies ▸ highFree) (coalesced low lowFree below)
        · exact ⟨high, highFree, grown highFree rfl (Or.inr rfl) highWithin highSame⟩
      · exact ⟨low, lowFree, grown lowFree rfl (Or.inl rfl) lowWithin lowSame⟩

/-- The free tiles are the maximal clear blocks. -/
theorem free_iff (coalesced : Coalesced whole free) (tiles : Tiles whole (free ∪ held))
    (apart : ∀ block ∈ free, block ∉ held) (block : Block) :
    block ∈ free ↔ MaximalClear whole held block := by
  have freeClear {tile : Block} (isFree : tile ∈ free) : Clear whole held tile := by
    refine ⟨tiles.aligned tile (Or.inl isFree), tiles.inside tile (Or.inl isFree), ?_⟩
    intro cell covers other isHeld otherCovers
    have same := tiles.apart tile (Or.inl isFree) other (Or.inr isHeld) cell covers otherCovers
    exact apart tile isFree (same ▸ isHeld)
  constructor
  · intro isFree
    refine ⟨freeClear isFree, ?_⟩
    intro other clear within
    obtain ⟨tile, tileFree, otherWithin⟩ := coalesced.exists_free tiles clear
    have same : block = tile :=
      tiles.apart block (Or.inl isFree) tile (Or.inl tileFree) block.start block.covers_start
        (otherWithin _ (within _ block.covers_start))
    rw [← same] at otherWithin
    exact Block.eq_of_within otherWithin within
  · intro maximal
    obtain ⟨tile, tileFree, within⟩ := coalesced.exists_free tiles maximal.clear
    rw [← maximal.maximal tile (freeClear tileFree) within]
    exact tileFree

end Coalesced

end TzDriver.Lib
