/-
Stretches of log memory that hold a known sequence of items.

Between the items a stretch may have gaps of 64-byte units that hold no item.  A scan
of a stretch copies its items in order until the user's buffer is full.
-/

import Mathlib.Algebra.BigOperators.Group.List.Basic
import TzDriver.Tlogger.Items

namespace TzDriver.Tlogger

open TzDriver.Lib

structure Placed where
  pos : Nat
  bytes : List UInt8
deriving DecidableEq, Repr

def placedAt (mem : Memory) (pos : Nat) : Placed :=
  ⟨pos, itemBytes mem pos⟩

/-- The items between `start` and `stop`, judged against the end `limit`. -/
inductive Layout (mem : Memory) (limit : Nat) : Nat → List Placed → Nat → Prop where
  | nil {start : Nat} (gap : Nat) :
      (∀ step < gap, ¬ItemOnGrid mem limit start step) → Layout mem limit start [] (start + 64 * gap)
  | cons {start stop : Nat} {rest : List Placed} (gap : Nat) :
      FirstHit (ItemOnGrid mem limit start) gap →
      Layout mem limit (start + 64 * gap + itemLen mem (start + 64 * gap)) rest stop →
        Layout mem limit start (placedAt mem (start + 64 * gap) :: rest) stop

section Basics

variable {mem after : Memory} {limit start stop : Nat} {items : List Placed}

theorem length_itemBytes (mem : Memory) (pos : Nat) : (itemBytes mem pos).length = itemLen mem pos := by
  rw [itemBytes, List.length_map, List.length_range]

theorem Layout.empty (mem : Memory) (limit start : Nat) : Layout mem limit start [] start :=
  .nil 0 fun step below => absurd below (Nat.not_lt_zero step)

theorem Layout.ordered (layout : Layout mem limit start items stop) : start ≤ stop := by
  induction layout with
  | nil gap _ => exact Nat.le_add_right _ _
  | cons gap _ _ ih => omega

theorem Layout.grid (layout : Layout mem limit start items stop) : (stop - start) % 64 = 0 := by
  induction layout with
  | nil gap _ => omega
  | @cons start stop rest gap first layout ih =>
      have aligned := first.here.aligned
      have ordered := layout.ordered
      omega

theorem Layout.snoc (layout : Layout mem limit start items stop) (item : IsItem mem limit stop) :
    Layout mem limit start (items ++ [placedAt mem stop]) (stop + itemLen mem stop) := by
  induction layout with
  | nil gap clean => exact .cons gap ⟨item, clean⟩ (.empty mem limit _)
  | cons gap first _ ih => exact .cons gap first (ih item)

theorem Layout.pad (layout : Layout mem limit start items stop) (gap : Nat)
    (clean : ∀ step < gap, ¬ItemOnGrid mem limit stop step) :
    Layout mem limit start items (stop + 64 * gap) := by
  induction layout with
  | @nil start before cleanBefore =>
      have whole : start + 64 * before + 64 * gap = start + 64 * (before + gap) := by omega
      rw [whole]
      refine .nil _ fun step below item => ?_
      rcases Nat.lt_or_ge step before with early | late
      · exact cleanBefore step early item
      · refine clean (step - before) (by omega) ?_
        unfold ItemOnGrid at item ⊢
        have place : start + 64 * before + 64 * (step - before) = start + 64 * step := by omega
        rw [place]
        exact item
  | cons before first _ ih => exact .cons before first (ih clean)

theorem Layout.bounds (layout : Layout mem limit start items stop) :
    ∀ item ∈ items, start ≤ item.pos ∧ item.pos + item.bytes.length ≤ stop ∧
      128 ≤ item.bytes.length ∧ item.bytes.length ≤ 1024 := by
  induction layout with
  | nil gap _ =>
      intro item member
      cases member
  | @cons start stop rest gap first layout ih =>
      intro item member
      have ordered := layout.ordered
      rcases List.mem_cons.mp member with rfl | later
      · have length : (placedAt mem (start + 64 * gap)).bytes.length = itemLen mem (start + 64 * gap) :=
          length_itemBytes mem _
        rw [length]
        exact ⟨Nat.le_add_right _ _, ordered, first.here.long, first.here.short⟩
      · obtain ⟨after, rest⟩ := ih item later
        exact ⟨by omega, rest⟩

/-- A scan may as well start later, if it passes no item over. -/
theorem Layout.advance (layout : Layout mem limit start items stop) (skip : Nat)
    (onto : start + 64 * skip ≤ stop) (behind : ∀ item ∈ items, start + 64 * skip ≤ item.pos) :
    Layout mem limit (start + 64 * skip) items stop := by
  have shift (step : Nat) (item : ItemOnGrid mem limit (start + 64 * skip) step) :
      ItemOnGrid mem limit start (skip + step) := by
    unfold ItemOnGrid at item ⊢
    rw [Nat.mul_add, ← Nat.add_assoc]
    exact item
  cases layout with
  | nil gap clean =>
      have rest : start + 64 * gap = start + 64 * skip + 64 * (gap - skip) := by omega
      rw [rest]
      exact .nil _ fun step below item => clean (skip + step) (by omega) (shift step item)
  | cons gap first layout =>
      have before : start + 64 * skip ≤ start + 64 * gap := behind _ List.mem_cons_self
      have place : start + 64 * gap = start + 64 * skip + 64 * (gap - skip) := by omega
      have here := first.here
      unfold ItemOnGrid at here
      rw [place] at layout here ⊢
      refine .cons _ ⟨here, fun step below item => ?_⟩ layout
      exact first.before (skip + step) (by omega) (shift step item)

/-! ### What other writes leave alone -/

theorem itemAt_congr {pos other : Nat}
    (same : ∀ offset < 64, after (pos + offset) = mem (other + offset)) :
    itemAt after pos = itemAt mem other := by
  have word (offset : Nat) (below : offset + 1 < 64) :
      u16At after (pos + offset) = u16At mem (other + offset) := by
    unfold u16At
    rw [same offset (by omega), Nat.add_assoc, same (offset + 1) below, ← Nat.add_assoc]
  unfold itemAt u32At
  rw [word 32 (by omega), word 36 (by omega), word 40 (by omega), word 42 (by omega),
    Nat.add_assoc pos 36 2, word 38 (by omega)]

theorem IsItem.congr {pos : Nat}
    (same : ∀ offset < 64, after (pos + offset) = mem (pos + offset)) :
    IsItem after limit pos ↔ IsItem mem limit pos := by
  rw [← check_isItem, ← check_isItem, itemAt_congr same]

theorem itemBytes_congr {pos other : Nat}
    (same : ∀ offset < itemLen mem other, after (pos + offset) = mem (other + offset)) :
    itemBytes after pos = itemBytes mem other := by
  have whole : 64 ≤ itemLen mem other := Nat.le_add_left 64 _
  have length : itemLen after pos = itemLen mem other := by
    rw [itemLen, itemLen, itemAt_congr fun offset below => same offset (by omega)]
  rw [itemBytes, itemBytes, length]
  exact List.map_congr_left fun offset member => same offset (List.mem_range.mp member)

theorem store_inside {mem bytes : Memory} {pos size place : Nat} (above : pos ≤ place)
    (below : place < pos + size) : store mem pos size bytes place = bytes (place - pos) :=
  if_pos ⟨above, below⟩

theorem store_outside {mem bytes : Memory} {pos size place : Nat}
    (outside : place < pos ∨ pos + size ≤ place) : store mem pos size bytes place = mem place :=
  if_neg (by omega)

theorem itemAt_store {bytes : Memory} {pos size : Nat} (inside : 64 ≤ size) :
    itemAt (store mem pos size bytes) pos = itemAt bytes 0 := by
  refine itemAt_congr fun offset below => ?_
  rw [store_inside (Nat.le_add_right _ _) (by omega), Nat.add_sub_cancel_left, Nat.zero_add]

theorem Layout.congr (layout : Layout mem limit start items stop)
    (same : ∀ place, start ≤ place → place < stop → after place = mem place) :
    Layout after limit start items stop := by
  induction layout with
  | nil gap clean =>
      refine .nil gap fun step below item => clean step below ?_
      exact (IsItem.congr fun offset under => same _ (by omega) (by omega)).mp item
  | @cons start stop rest gap first layout ih =>
      have long := first.here.long
      have ordered := layout.ordered
      have unit (step : Nat) (upTo : step ≤ gap) :
          IsItem after limit (start + 64 * step) ↔ IsItem mem limit (start + 64 * step) :=
        IsItem.congr fun offset under => same _ (by omega) (by omega)
      have bytes : itemBytes after (start + 64 * gap) = itemBytes mem (start + 64 * gap) :=
        itemBytes_congr fun offset under => same _ (by omega) (by omega)
      have length : itemLen after (start + 64 * gap) = itemLen mem (start + 64 * gap) := by
        rw [← length_itemBytes, bytes, length_itemBytes]
      have placed : placedAt after (start + 64 * gap) = placedAt mem (start + 64 * gap) := by
        rw [placedAt, bytes, placedAt]
      rw [← placed]
      refine .cons gap ⟨(unit gap (Nat.le_refl gap)).mpr first.here, fun step below item =>
        first.before step below ((unit step (Nat.le_of_lt below)).mp item)⟩ ?_
      rw [length]
      exact ih fun place above under => same place (by omega) under

end Basics

/-! ### Scanning a stretch -/

def totalLen (items : List Placed) : Nat :=
  (items.map fun item => item.bytes.length).sum

theorem totalLen_cons (item : Placed) (items : List Placed) :
    totalLen (item :: items) = item.bytes.length + totalLen items := by
  rw [totalLen, List.map_cons, List.sum_cons, totalLen]

theorem totalLen_append (first second : List Placed) :
    totalLen (first ++ second) = totalLen first + totalLen second := by
  rw [totalLen, List.map_append, List.sum_append, totalLen, totalLen]

theorem length_placedAt (mem : Memory) (pos : Nat) :
    (placedAt mem pos).bytes.length = itemLen mem pos :=
  length_itemBytes mem pos

theorem Layout.total {mem : Memory} {limit start stop : Nat} {items : List Placed}
    (layout : Layout mem limit start items stop) : start + totalLen items ≤ stop := by
  induction layout with
  | nil gap _ =>
      unfold totalLen
      simp
  | cons gap _ _ ih =>
      rw [totalLen_cons, length_placedAt]
      omega

/-- The scan of a stretch `items`: it copies `taken` and leaves `rest`. -/
structure ParsedAs (mem : Memory) (limit start stop endPos bufLeft : Nat) (parsed : Parsed)
    (taken rest : List Placed) : Prop where
  copied : parsed.items.map (placedAt mem) = taken
  room : totalLen taken ≤ bufLeft
  left : parsed.userBufferLeft = true ↔ rest = []
  full : ∀ item more, rest = item :: more → bufLeft < totalLen taken + item.bytes.length
  onward : rest ≠ [] ∨ parsed.readOff ≤ stop → Layout mem limit parsed.readOff rest stop
  beyond : rest = [] → ∀ step, ¬ItemOnGrid mem endPos parsed.readOff step
  notBack : start ≤ parsed.readOff
  grid : (parsed.readOff - start) % 64 = 0
  inside : parsed.readOff ≤ endPos

section Scan

variable {mem : Memory} {limit maxLen start stop endPos : Nat} {items : List Placed}

theorem parseLoop_succ (mem : Memory) (maxLen endPos fuel start bufLeft : Nat) (before : start < endPos) :
    parseLoop mem maxLen endPos (fuel + 1) start bufLeft =
      match getNextLogItem mem maxLen start (endPos - start) start with
      | (none, pos) => ⟨[], pos, true⟩
      | (some item, pos) =>
          if bufLeft < itemLen mem item then ⟨[], pos, false⟩
          else
            let rest := parseLoop mem maxLen endPos fuel (pos + itemLen mem item)
              (bufLeft - itemLen mem item)
            { rest with items := item :: rest.items } := by
  rw [parseLoop]
  exact if_pos before

theorem IsItem.mono {pos : Nat} (item : IsItem mem endPos pos) (longer : endPos ≤ limit) :
    IsItem mem limit pos :=
  ⟨item.sound, item.short, Nat.le_trans item.inside longer⟩

theorem firstHit_shorter {step : Nat} (first : FirstHit (ItemOnGrid mem limit start) step)
    (longer : endPos ≤ limit)
    (inside : start + 64 * step + itemLen mem (start + 64 * step) ≤ endPos) :
    FirstHit (ItemOnGrid mem endPos start) step :=
  ⟨⟨first.here.sound, first.here.short, inside⟩, fun earlier below item =>
    first.before earlier below (item.mono longer)⟩

theorem parsedAs_nothing (fuel bufLeft : Nat) (gap : Nat)
    (clean : ∀ step < gap, ¬ItemOnGrid mem limit start step)
    (none : ∀ step, ¬ItemOnGrid mem endPos start step) (ordered : start ≤ endPos)
    (within : endPos ≤ maxLen) :
    ParsedAs mem limit start (start + 64 * gap) endPos bufLeft
      (parseLoop mem maxLen endPos fuel start bufLeft) [] [] := by
  have stays (readOff step : Nat) (place : readOff = start + 64 * step) :
      (readOff ≤ start + 64 * gap → Layout mem limit readOff [] (start + 64 * gap)) ∧
        ∀ later, ¬ItemOnGrid mem endPos readOff later := by
    subst place
    constructor
    · intro before
      have rest : start + 64 * gap = start + 64 * step + 64 * (gap - step) := by omega
      rw [rest]
      refine .nil _ fun later below item => clean (step + later) (by omega) ?_
      unfold ItemOnGrid at item ⊢
      rw [Nat.mul_add, ← Nat.add_assoc]
      exact item
    · intro later item
      refine none (step + later) ?_
      unfold ItemOnGrid at item ⊢
      rw [Nat.mul_add, ← Nat.add_assoc]
      exact item
  have result (readOff step : Nat) (place : readOff = start + 64 * step) (inside : readOff ≤ endPos) :
      ParsedAs mem limit start (start + 64 * gap) endPos bufLeft ⟨[], readOff, true⟩ [] [] := by
    obtain ⟨onward, beyond⟩ := stays readOff step place
    refine ⟨rfl, Nat.zero_le _, iff_of_true rfl rfl, ?_, ?_, fun _ => beyond, ?_, ?_, inside⟩
    · intro item more same
      cases same
    · intro before
      exact onward (before.resolve_left fun nonempty => nonempty rfl)
    · rw [place]
      exact Nat.le_add_right _ _
    · rw [place]
      simp
  cases fuel with
  | zero => exact result start 0 rfl ordered
  | succ fuel =>
      by_cases before : start < endPos
      · rw [parseLoop_succ _ _ _ _ _ _ before]
        rcases getNextLogItem_spec mem ordered within start with
          ⟨found, first, -⟩ | ⟨-, last, scanned, place⟩
        · exact absurd first.here (none found)
        · rw [scanned]
          rcases place with rfl | ⟨step, place, inside⟩
          · exact result last 0 rfl ordered
          · exact result last step place inside
      · unfold parseLoop
        rw [if_neg before]
        exact result start 0 rfl ordered

/-- A scan of a stretch and of a tail without items copies the items in order until the
next one does not fit. -/
theorem parseLoop_layout (layout : Layout mem limit start items stop) (inside : stop ≤ endPos)
    (within : endPos ≤ maxLen) (longer : endPos ≤ limit)
    (tail : ∀ step, ¬ItemOnGrid mem endPos stop step) :
    ∀ fuel bufLeft, endPos ≤ start + fuel →
      ∃ taken rest, items = taken ++ rest ∧
        ParsedAs mem limit start stop endPos bufLeft (parseLoop mem maxLen endPos fuel start bufLeft)
          taken rest := by
  induction layout with
  | @nil start gap clean =>
      intro fuel bufLeft _
      refine ⟨[], [], rfl, parsedAs_nothing fuel bufLeft gap clean (fun step item => ?_) (by omega)
        within⟩
      rcases Nat.lt_or_ge step gap with early | late
      · exact clean step early (item.mono longer)
      · apply tail (step - gap)
        unfold ItemOnGrid at item ⊢
        have place : start + 64 * gap + 64 * (step - gap) = start + 64 * step := by omega
        rw [place]
        exact item
  | @cons start stop rest gap first layout ih =>
      intro fuel bufLeft enough
      have ordered := layout.ordered
      have long := first.here.long
      have below : start ≤ endPos := by omega
      have firstHere := firstHit_shorter first longer (by omega)
      obtain ⟨fuel, rfl⟩ : ∃ less, fuel = less + 1 :=
        ⟨fuel - 1, by omega⟩
      have found : getNextLogItem mem maxLen start (endPos - start) start =
          (some (start + 64 * gap), start + 64 * gap) := by
        rcases getNextLogItem_spec mem below within start with
          ⟨found, hit, result⟩ | ⟨none, -⟩
        · rw [firstHere.unique hit]
          exact result
        · exact absurd firstHere.here (none gap)
      rw [parseLoop_succ _ _ _ _ _ _ (by omega), found]
      simp only
      by_cases room : bufLeft < itemLen mem (start + 64 * gap)
      · rw [if_pos room]
        refine ⟨[], _, rfl, rfl, Nat.zero_le _, iff_of_false (by simp) (by simp), ?_, ?_, ?_,
          Nat.le_add_right _ _, by simp, ?_⟩
        · intro item more same
          obtain ⟨rfl, -⟩ := List.cons.inj same
          rw [length_placedAt]
          simpa [totalLen] using room
        · intro _
          refine .cons 0 ⟨first.here, fun step below => absurd below (Nat.not_lt_zero step)⟩ ?_
          exact layout
        · intro empty
          cases empty
        · exact Nat.le_trans (Nat.le_add_right _ _) firstHere.here.inside
      · rw [if_neg room]
        obtain ⟨taken, left, split, parsed⟩ := ih inside tail fuel
          (bufLeft - itemLen mem (start + 64 * gap)) (by omega)
        refine ⟨placedAt mem (start + 64 * gap) :: taken, left, by rw [split]; rfl,
          ?_, ?_, parsed.left, ?_, parsed.onward, parsed.beyond, ?_, ?_,
          parsed.inside⟩
        · simp only [List.map_cons, parsed.copied]
        · have fits := parsed.room
          rw [totalLen_cons, length_placedAt]
          omega
        · intro item more same
          have beyond := parsed.full item more same
          rw [totalLen_cons, length_placedAt]
          omega
        · have notBack := parsed.notBack
          dsimp only
          omega
        · have notBack := parsed.notBack
          have grid := parsed.grid
          have aligned := first.here.aligned
          dsimp only
          omega

theorem bytesOf_eq (mem : Memory) (positions : List Nat) :
    bytesOf mem positions = totalLen (positions.map (placedAt mem)) := by
  rw [bytesOf, totalLen, List.map_map]
  congr 1
  exact List.map_congr_left fun pos _ => (length_placedAt mem pos).symm

end Scan

end TzDriver.Tlogger
