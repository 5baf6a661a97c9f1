/-
Tilings of an aligned power-of-two block by smaller ones.

A block of order `k` is a run of `2 ^ k` cells.  A tiling covers its block
exactly: every cell lies in one tile, no tile leaves the block, and every tile
starts at a multiple of its own length.  Splitting a tile and merging tiles both
keep a tiling, whatever the surrounding tiles are.
-/

import Mathlib.Data.Set.Basic
import Mathlib.Data.Nat.Bitwise
import Mathlib.Tactic.Ring

namespace TzDriver.Lib

structure Block where
  start : Nat
  order : Nat
deriving DecidableEq, Repr

namespace Block

def Covers (block : Block) (cell : Nat) : Prop :=
  block.start ≤ cell ∧ cell < block.start + 2 ^ block.order

instance (block : Block) (cell : Nat) : Decidable (block.Covers cell) :=
  inferInstanceAs (Decidable (_ ∧ _))

def Aligned (block : Block) : Prop := 2 ^ block.order ∣ block.start

theorem covers_start (block : Block) : block.Covers block.start := by
  have positive := Nat.two_pow_pos block.order
  exact ⟨Nat.le_refl _, by omega⟩

end Block

/-- `parts` covers `whole` exactly, by aligned and pairwise disjoint blocks. -/
structure Tiles (whole : Block) (parts : Set Block) : Prop where
  aligned : ∀ part ∈ parts, part.Aligned
  inside : ∀ part ∈ parts, ∀ cell, part.Covers cell → whole.Covers cell
  cover : ∀ cell, whole.Covers cell → ∃ part ∈ parts, part.Covers cell
  apart : ∀ left ∈ parts, ∀ right ∈ parts, ∀ cell,
    left.Covers cell → right.Covers cell → left = right

namespace Tiles

variable {whole : Block} {parts : Set Block}

theorem start_injective (tiles : Tiles whole parts) {left right : Block}
    (leftIn : left ∈ parts) (rightIn : right ∈ parts)
    (same : left.start = right.start) : left = right :=
  tiles.apart left leftIn right rightIn left.start left.covers_start
    (same ▸ right.covers_start)

theorem single {block : Block} (aligned : block.Aligned) : Tiles block {block} := by
  refine ⟨?_, ?_, ?_, ?_⟩
  · intro part same
    subst same
    exact aligned
  · intro part same
    subst same
    intro cell covered
    exact covered
  · intro cell covered
    exact ⟨block, rfl, covered⟩
  · intro left same
    subst same
    intro right equal
    subst equal
    intro cell _ _
    rfl

theorem refine_tile (tiles : Tiles whole parts) {block : Block} {pieces : Set Block}
    (member : block ∈ parts) (split : Tiles block pieces) :
    Tiles whole (parts \ {block} ∪ pieces) := by
  refine ⟨?_, ?_, ?_, ?_⟩
  · intro part either
    rcases either with ⟨old, _⟩ | new
    · exact tiles.aligned part old
    · exact split.aligned part new
  · rintro part (⟨old, _⟩ | new) cell covered
    · exact tiles.inside part old cell covered
    · exact tiles.inside block member cell (split.inside part new cell covered)
  · intro cell covered
    obtain ⟨part, old, covers⟩ := tiles.cover cell covered
    by_cases same : part = block
    · subst part
      obtain ⟨piece, new, pieceCovers⟩ := split.cover cell covers
      exact ⟨piece, Or.inr new, pieceCovers⟩
    · exact ⟨part, Or.inl ⟨old, same⟩, covers⟩
  · rintro left (⟨leftOld, leftNe⟩ | leftNew) right (⟨rightOld, rightNe⟩ | rightNew) cell
      leftCovers rightCovers
    · exact tiles.apart left leftOld right rightOld cell leftCovers rightCovers
    · exact absurd (tiles.apart left leftOld block member cell leftCovers
        (split.inside right rightNew cell rightCovers)) leftNe
    · exact absurd (tiles.apart right rightOld block member cell rightCovers
        (split.inside left leftNew cell leftCovers)) rightNe
    · exact split.apart left leftNew right rightNew cell leftCovers rightCovers

/-- Tiles that tile an aligned block may be replaced by that block. -/
theorem coarsen (tiles : Tiles whole parts) (block : Block) (pieces : Set Block)
    (aligned : block.Aligned) (members : pieces ⊆ parts) (split : Tiles block pieces) :
    Tiles whole (parts \ pieces ∪ {block}) := by
  refine ⟨?_, ?_, ?_, ?_⟩
  · intro part either
    rcases either with ⟨old, _⟩ | rfl
    · exact tiles.aligned part old
    · exact aligned
  · rintro part (⟨old, _⟩ | rfl) cell covered
    · exact tiles.inside part old cell covered
    · obtain ⟨piece, inPieces, covers⟩ := split.cover cell covered
      exact tiles.inside piece (members inPieces) cell covers
  · intro cell covered
    obtain ⟨part, old, covers⟩ := tiles.cover cell covered
    by_cases inPieces : part ∈ pieces
    · exact ⟨block, Or.inr rfl, split.inside part inPieces cell covers⟩
    · exact ⟨part, Or.inl ⟨old, inPieces⟩, covers⟩
  · have outside (part : Block) (old : part ∈ parts) (notPiece : part ∉ pieces)
        (cell : Nat) (covers : part.Covers cell) (inBlock : block.Covers cell) : False := by
      obtain ⟨piece, inPieces, pieceCovers⟩ := split.cover cell inBlock
      exact notPiece (tiles.apart part old piece (members inPieces) cell covers
        pieceCovers ▸ inPieces)
    rintro left (⟨leftOld, leftNot⟩ | rfl) right (⟨rightOld, rightNot⟩ | rfl) cell
      leftCovers rightCovers
    · exact tiles.apart left leftOld right rightOld cell leftCovers rightCovers
    · exact (outside left leftOld leftNot cell leftCovers rightCovers).elim
    · exact (outside right rightOld rightNot cell rightCovers leftCovers).elim
    · rfl

theorem halves {start order : Nat} (aligned : 2 ^ (order + 1) ∣ start) :
    Tiles ⟨start, order + 1⟩ {⟨start, order⟩, ⟨start + 2 ^ order, order⟩} := by
  have positive := Nat.two_pow_pos order
  have double : 2 ^ (order + 1) = 2 ^ order + 2 ^ order := by ring
  have lowAligned : 2 ^ order ∣ start :=
    Nat.dvd_trans (pow_dvd_pow 2 (Nat.le_succ order)) aligned
  refine ⟨?_, ?_, ?_, ?_⟩
  · intro part either
    rcases either with rfl | rfl
    · exact lowAligned
    · exact Nat.dvd_add lowAligned (Nat.dvd_refl _)
  · rintro part (rfl | rfl) cell ⟨low, high⟩ <;>
      simp only at low high <;> exact ⟨by simp only; omega, by simp only; omega⟩
  · intro cell given
    obtain ⟨low, high⟩ := given
    simp only at low high
    by_cases below : cell < start + 2 ^ order
    · exact ⟨⟨start, order⟩, Or.inl rfl, low, below⟩
    · exact ⟨⟨start + 2 ^ order, order⟩, Or.inr rfl, by simp only; omega, by simp only; omega⟩
  · rintro left (rfl | rfl) right (rfl | rfl) cell ⟨lowLeft, highLeft⟩ ⟨lowRight, highRight⟩ <;>
      simp only at lowLeft highLeft lowRight highRight
    · rfl
    · omega
    · omega
    · rfl

end Tiles

/-- What is left of a block of order `high` once a block of order `low` has been
cut from its front: the upper halves, one of each order from `low` up. -/
def upperHalves (start low high : Nat) : Set Block :=
  {block | ∃ order, low ≤ order ∧ order < high ∧ block = ⟨start + 2 ^ order, order⟩}

theorem Tiles.cutFront {start low high : Nat} (ordered : low ≤ high)
    (aligned : 2 ^ high ∣ start) :
    Tiles ⟨start, high⟩ ({⟨start, low⟩} ∪ upperHalves start low high) := by
  induction high, ordered using Nat.le_induction with
  | base =>
      have none : upperHalves start low low = ∅ := by
        ext block
        simp only [upperHalves, Set.mem_ofPred_eq, Set.mem_empty_iff_false, iff_false]
        intro given
        obtain ⟨order, above, below, _⟩ := given
        omega
      rw [none, Set.union_empty]
      exact Tiles.single aligned
  | succ high ordered ih =>
      have positive := Nat.two_pow_pos high
      have lower := ih (Nat.dvd_trans (pow_dvd_pow 2 (Nat.le_succ high)) aligned)
      have both := (Tiles.halves aligned).refine_tile (Or.inl rfl) lower
      have same : ({⟨start, high⟩, ⟨start + 2 ^ high, high⟩} \ {⟨start, high⟩} ∪
          ({⟨start, low⟩} ∪ upperHalves start low high) : Set Block) =
          {⟨start, low⟩} ∪ upperHalves start low (high + 1) := by
        ext block
        simp only [upperHalves, Set.mem_union, Set.mem_sdiff, Set.mem_insert_iff,
          Set.mem_singleton_iff, Set.mem_ofPred_eq]
        constructor
        · intro either
          rcases either with ⟨rfl | rfl, other⟩ | rfl | ⟨order, above, below, rfl⟩
          · exact absurd rfl other
          · exact Or.inr ⟨high, ordered, Nat.lt_succ_self _, rfl⟩
          · exact Or.inl rfl
          · exact Or.inr ⟨order, above, by omega, rfl⟩
        · intro either
          rcases either with rfl | ⟨order, above, below, rfl⟩
          · exact Or.inr (Or.inl rfl)
          · by_cases top : order = high
            · subst order
              refine Or.inl ⟨Or.inr rfl, fun equal => ?_⟩
              have starts := congrArg Block.start equal
              simp only at starts
              omega
            · exact Or.inr (Or.inr ⟨order, above, by omega, rfl⟩)
      rw [← same]
      exact both

/-! ### The buddy of a block -/

/-- Flipping the bit of its own length moves an aligned block by that length,
towards the other half of the block one order up. -/
theorem buddy_cases {start order : Nat} (aligned : 2 ^ order ∣ start) :
    (2 ^ (order + 1) ∣ start ∧ start ^^^ 2 ^ order = start + 2 ^ order) ∨
      (2 ^ order ≤ start ∧ 2 ^ (order + 1) ∣ start - 2 ^ order ∧
        start ^^^ 2 ^ order = start - 2 ^ order) := by
  obtain ⟨index, rfl⟩ := aligned
  have shifted (count : Nat) : 2 ^ order * count = count <<< order := by
    rw [Nat.shiftLeft_eq, Nat.mul_comm]
  have flip : 2 ^ order * index ^^^ 2 ^ order = 2 ^ order * (index ^^^ 1) := by
    rw [shifted, shifted, Nat.shiftLeft_xor_distrib, Nat.one_shiftLeft]
  have double : 2 ^ (order + 1) = 2 ^ order * 2 := by ring
  rcases Nat.even_or_odd' index with ⟨half, rfl | rfl⟩
  · left
    refine ⟨⟨half, by rw [double, Nat.mul_assoc]⟩, ?_⟩
    rw [flip, show (2 * half) ^^^ 1 = 2 * half + 1 by
      rw [Nat.xor_one_of_even (even_two_mul half)]]
    ring
  · right
    refine ⟨Nat.le_mul_of_pos_right _ (Nat.succ_pos _), ⟨half, ?_⟩, ?_⟩
    · rw [double, Nat.mul_assoc, Nat.mul_add, Nat.mul_one, Nat.add_sub_cancel]
    · rw [flip, show (2 * half + 1) ^^^ 1 = 2 * half by
        rw [Nat.xor_one_of_odd (odd_two_mul_add_one half), Nat.add_sub_cancel],
        Nat.mul_add, Nat.mul_one, Nat.add_sub_cancel]

/-- A block and its buddy tile the block one order up that starts at the lower of
the two. -/
theorem Tiles.buddies {start order : Nat} (aligned : 2 ^ order ∣ start) :
    2 ^ (order + 1) ∣ min start (start ^^^ 2 ^ order) ∧
      Tiles ⟨min start (start ^^^ 2 ^ order), order + 1⟩
        {⟨start, order⟩, ⟨start ^^^ 2 ^ order, order⟩} := by
  rcases buddy_cases aligned with ⟨wide, above⟩ | ⟨room, wide, below⟩
  · rw [above, Nat.min_eq_left (Nat.le_add_right _ _)]
    exact ⟨wide, Tiles.halves wide⟩
  · rw [below, Nat.min_eq_right (Nat.sub_le _ _)]
    refine ⟨wide, ?_⟩
    have split := Tiles.halves wide
    rw [Nat.sub_add_cancel room] at split
    rwa [Set.pair_comm]

end TzDriver.Lib
