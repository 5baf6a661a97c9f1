/-
Memories that are read and written in ranges.
-/

import Mathlib.Data.List.Range

namespace TzDriver.Lib

def Memory (Byte : Type) : Type :=
  Nat → Byte

namespace Memory

variable {Byte : Type}

def read (memory : Memory Byte) (start count : Nat) : List Byte :=
  (List.range count).map fun offset => memory (start + offset)

def write (memory : Memory Byte) (start : Nat) (bytes : List Byte) : Memory Byte :=
  fun addr => if start ≤ addr then (bytes[addr - start]?).getD (memory addr) else memory addr

variable {memory other : Memory Byte} {start count : Nat} {bytes : List Byte}

@[simp] theorem length_read (memory : Memory Byte) (start count : Nat) :
    (memory.read start count).length = count := by
  simp [read]

theorem read_congr (same : ∀ addr, start ≤ addr → addr < start + count →
    memory addr = other addr) : memory.read start count = other.read start count := by
  apply List.map_congr_left
  intro offset member
  have bound := List.mem_range.mp member
  exact same (start + offset) (by omega) (by omega)

theorem apply_of_read (same : memory.read start count = other.read start count) {addr : Nat}
    (low : start ≤ addr) (high : addr < start + count) : memory addr = other addr := by
  have inside : addr - start < count := by omega
  have there := congrArg (fun bytes => bytes[addr - start]?) same
  simp only [read, List.getElem?_map, List.getElem?_range inside, Option.map_some,
    Option.some.injEq] at there
  rwa [Nat.add_sub_cancel' low] at there

theorem write_outside {addr : Nat} (outside : addr < start ∨ start + bytes.length ≤ addr) :
    memory.write start bytes addr = memory addr := by
  unfold write
  split
  · next low =>
      have past : bytes.length ≤ addr - start := by omega
      rw [List.getElem?_eq_none past, Option.getD_none]
  · rfl

theorem read_write (memory : Memory Byte) (start : Nat) (bytes : List Byte) :
    (memory.write start bytes).read start bytes.length = bytes := by
  apply List.ext_getElem
  · rw [length_read]
  · intro offset _ inside
    simp [read, write, List.getElem?_eq_getElem inside]

theorem read_write_of_length (memory : Memory Byte) (start : Nat) (size : bytes.length = count) :
    (memory.write start bytes).read start count = bytes := by
  rw [← size, read_write]

theorem read_write_apart {written : Nat}
    (apart : start + count ≤ written ∨ written + bytes.length ≤ start) :
    (memory.write written bytes).read start count = memory.read start count := by
  apply read_congr
  intro addr low high
  apply write_outside
  omega

theorem eq_of_chunks {base size chunks : Nat} (positive : 0 < size)
    (same : ∀ chunk, chunk < chunks →
      memory.read (base + chunk * size) size = other.read (base + chunk * size) size)
    {addr : Nat} (low : base ≤ addr) (high : addr < base + chunks * size) :
    memory addr = other addr := by
  have split := Nat.div_add_mod' (addr - base) size
  have rest := Nat.mod_lt (addr - base) positive
  have inside : (addr - base) / size < chunks := by
    apply (Nat.div_lt_iff_lt_mul positive).mpr
    omega
  apply apply_of_read (same _ inside)
  · omega
  · omega

end Memory

end TzDriver.Lib
