/-
An array of cells, in which one value stands for a vacant cell, used as a queue.

A value goes into the first vacant cell and the first filled cell is emptied.  As
long as values are put in only when the front cells are filled, the array keeps the
order of arrival: what is left is one block of filled cells.
-/

import Mathlib.Data.List.Basic

namespace TzDriver.Lib.Cells

variable {Value : Type} [DecidableEq Value] (vacant : Value)

/-- The index of the first vacant cell, the number of cells where there is none. -/
def firstVacant (cells : List Value) : Nat :=
  cells.findIdx (fun value => decide (value = vacant))

/-- The index of the first filled cell, the number of cells where there is none. -/
def firstFilled (cells : List Value) : Nat :=
  cells.findIdx (fun value => !decide (value = vacant))

def contents (cells : List Value) : List Value :=
  cells.filter (fun value => !decide (value = vacant))

/-- `front` vacant cells, the cells that hold `filled`, and vacant cells behind. -/
structure Block (cells : List Value) (front : Nat) (filled : List Value) : Prop where
  proper : ∀ value, value ∈ filled → value ≠ vacant
  shape : ∃ back, cells =
    List.replicate front vacant ++ (filled ++ List.replicate back vacant)

variable {vacant} {cells filled rest : List Value} {front : Nat} {value : Value}

theorem firstVacant_append (proper : ∀ value, value ∈ filled → value ≠ vacant)
    (behind : List Value) :
    firstVacant vacant (filled ++ vacant :: behind) = filled.length := by
  induction filled with
  | nil => simp [firstVacant, List.findIdx_cons]
  | cons head tail ih =>
      have inTail := ih (fun value member => proper value (List.mem_cons_of_mem head member))
      have headFilled := proper head List.mem_cons_self
      simp only [firstVacant, List.cons_append, List.findIdx_cons, headFilled, decide_false,
        cond_false, List.length_cons] at inTail ⊢
      rw [inTail]

theorem firstVacant_full (proper : ∀ value, value ∈ filled → value ≠ vacant) :
    firstVacant vacant filled = filled.length := by
  apply List.findIdx_eq_length.mpr
  intro value member
  exact decide_eq_false (proper value member)

theorem firstFilled_replicate (behind : List Value) (filledHead : value ≠ vacant) :
    firstFilled vacant (List.replicate front vacant ++ value :: behind) = front := by
  induction front with
  | zero => simp [firstFilled, List.findIdx_cons, filledHead]
  | succ front ih =>
      simp only [firstFilled, List.replicate_succ, List.cons_append, List.findIdx_cons,
        decide_true, Bool.not_true, cond_false] at ih ⊢
      rw [ih]

theorem firstFilled_vacant (count : Nat) :
    firstFilled vacant (List.replicate count vacant) = count := by
  induction count with
  | zero => rfl
  | succ count ih =>
      simp only [firstFilled, List.replicate_succ, List.findIdx_cons, decide_true, Bool.not_true,
        cond_false] at ih ⊢
      rw [ih]

theorem contents_replicate (count : Nat) : contents vacant (List.replicate count vacant) = [] := by
  simp [contents]

namespace Block

omit [DecidableEq Value] in
theorem empty (count : Nat) : Block vacant (List.replicate count vacant) 0 [] where
  proper := by
    intro value member
    cases member
  shape := ⟨count, rfl⟩

theorem contents_eq (block : Block vacant cells front filled) :
    contents vacant cells = filled := by
  obtain ⟨back, shape⟩ := block.shape
  have kept : contents vacant filled = filled := by
    apply List.filter_eq_self.mpr
    intro value member
    simp [block.proper value member]
  rw [shape]
  unfold contents at kept ⊢
  rw [List.filter_append, List.filter_append, kept]
  simp

theorem firstFilled_eq (block : Block vacant cells front (value :: rest)) :
    firstFilled vacant cells = front := by
  obtain ⟨back, shape⟩ := block.shape
  rw [shape, List.cons_append]
  exact firstFilled_replicate _ (block.proper value List.mem_cons_self)

omit [DecidableEq Value] in
theorem lt_length (block : Block vacant cells front (value :: rest)) :
    front < cells.length := by
  obtain ⟨back, shape⟩ := block.shape
  rw [shape]
  simp only [List.length_append, List.length_replicate, List.length_cons]
  omega

omit [DecidableEq Value] in
theorem getElem?_front (block : Block vacant cells front (value :: rest)) :
    cells[front]? = some value := by
  obtain ⟨back, shape⟩ := block.shape
  rw [shape, List.getElem?_append_right (Nat.le_of_eq List.length_replicate)]
  simp

omit [DecidableEq Value] in
theorem take (block : Block vacant cells front (value :: rest)) :
    Block vacant (cells.set front vacant) (front + 1) rest := by
  obtain ⟨back, shape⟩ := block.shape
  constructor
  · intro other member
    exact block.proper other (List.mem_cons_of_mem value member)
  · refine ⟨back, ?_⟩
    rw [shape, List.set_append_right _ _ (Nat.le_of_eq List.length_replicate),
      List.length_replicate, Nat.sub_self, List.cons_append, List.set_cons_zero,
      List.replicate_succ', List.append_assoc, List.singleton_append]

omit [DecidableEq Value] in
theorem all_vacant (block : Block vacant cells front []) :
    cells = List.replicate cells.length vacant := by
  obtain ⟨back, shape⟩ := block.shape
  have joined : cells = List.replicate (front + back) vacant := by
    rw [shape, List.nil_append, List.replicate_append_replicate]
  rw [joined, List.length_replicate]

theorem firstFilled_none (block : Block vacant cells front []) :
    firstFilled vacant cells = cells.length := by
  rw [block.all_vacant, firstFilled_vacant, List.length_replicate]

omit [DecidableEq Value] in
/-- With nothing left, the vacant cells can be counted from the front again. -/
theorem restart (block : Block vacant cells front []) : Block vacant cells 0 [] := by
  rw [block.all_vacant]
  exact empty cells.length

theorem firstVacant_lt (block : Block vacant cells 0 filled)
    (room : firstVacant vacant cells < cells.length) :
    firstVacant vacant cells = filled.length ∧ ∃ back, cells =
      filled ++ vacant :: List.replicate back vacant := by
  obtain ⟨back, shape⟩ := block.shape
  rw [List.replicate_zero, List.nil_append] at shape
  cases back with
  | zero =>
      rw [List.replicate_zero, List.append_nil] at shape
      rw [shape, firstVacant_full block.proper] at room
      exact absurd room (Nat.lt_irrefl _)
  | succ back =>
      rw [List.replicate_succ] at shape
      constructor
      · rw [shape]
        exact firstVacant_append block.proper _
      · exact ⟨back, shape⟩

theorem put (block : Block vacant cells 0 filled) (proper : value ≠ vacant)
    (room : firstVacant vacant cells < cells.length) :
    Block vacant (cells.set (firstVacant vacant cells) value) 0 (filled ++ [value]) := by
  obtain ⟨index, back, shape⟩ := block.firstVacant_lt room
  constructor
  · intro other member
    rcases List.mem_append.mp member with old | new
    · exact block.proper other old
    · rw [List.mem_singleton.mp new]
      exact proper
  · refine ⟨back, ?_⟩
    rw [index, shape, List.set_append_right _ _ (Nat.le_refl _), Nat.sub_self, List.set_cons_zero]
    simp

theorem full (block : Block vacant cells 0 filled)
    (none_ : cells.length ≤ firstVacant vacant cells) : filled.length = cells.length := by
  obtain ⟨back, shape⟩ := block.shape
  rw [List.replicate_zero, List.nil_append] at shape
  cases back with
  | zero => rw [shape, List.replicate_zero, List.append_nil]
  | succ back =>
      have index := firstVacant_append block.proper (List.replicate back vacant)
      rw [← List.replicate_succ, ← shape] at index
      rw [index] at none_
      rw [shape, List.length_append, List.length_replicate] at none_
      omega

end Block

end TzDriver.Lib.Cells
