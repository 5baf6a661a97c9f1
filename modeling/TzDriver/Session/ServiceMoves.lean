/-
The service side of the book: references of slots and threads, and the session
numbers of a dev_file's slots.
-/

import TzDriver.Session.Book

namespace TzDriver.Session

namespace Book

variable {Dev : Type}

/-! ### Slots that own a reference -/

section Slots

variable [Fintype Dev] {book : Book Dev} {held : Nat → Nat}

theorem mem_owningSlots {service : Nat} {dev : Dev} {index : Fin servicesMaxCount} :
    (dev, index) ∈ book.owningSlots service ↔
      book.slot dev index = some service ∧ (book.phase dev).live index = true := by
  simp [owningSlots]

theorem slotRefs_congr {before after : Book Dev} {service : Nat}
    (same : ∀ place, place ∈ before.owningSlots service ↔ place ∈ after.owningSlots service) :
    after.slotRefs service = before.slotRefs service :=
  congrArg Finset.card (Finset.ext same).symm

theorem slotRefs_insert [DecidableEq Dev] {before after : Book Dev} {service : Nat}
    {place : Dev × Fin servicesMaxCount}
    (same : ∀ other, other ≠ place →
      (other ∈ before.owningSlots service ↔ other ∈ after.owningSlots service))
    (absent : place ∉ before.owningSlots service) (present : place ∈ after.owningSlots service) :
    after.slotRefs service = before.slotRefs service + 1 := by
  have grown : after.owningSlots service = insert place (before.owningSlots service) := by
    ext other
    by_cases at_ : other = place
    · subst at_
      simp only [present, Finset.mem_insert_self]
    · rw [Finset.mem_insert, same other at_, or_iff_right at_]
  rw [slotRefs, grown, Finset.card_insert_of_notMem absent]
  rfl

theorem ServiceCounts.usage_pos_of_slot (counts : ServiceCounts book held) {service : Nat}
    {dev : Dev} {index : Fin servicesMaxCount} (stored : book.slot dev index = some service)
    (live : (book.phase dev).live index = true) : 0 < book.usage service := by
  have member := mem_owningSlots.mpr ⟨stored, live⟩
  have positive : 0 < book.slotRefs service := Finset.card_pos.mpr ⟨_, member⟩
  rw [counts.usage]
  omega

theorem ServiceCounts.alive (counts : ServiceCounts book held) {service : Nat}
    (used : 0 < book.usage service) : book.freed service = false := by
  rw [Bool.eq_false_iff]
  intro freed
  exact ((counts.freed service).mp freed).2 ((counts.listed service).mpr used)

theorem ServiceCounts.lt_serviceCount (counts : ServiceCounts book held) {service : Nat}
    (used : 0 < book.usage service) : service < book.serviceCount :=
  counts.created service ((counts.listed service).mpr used)

end Slots

/-! ### Operations on services -/

section Services

variable [Fintype Dev] {book : Book Dev} {held : Nat → Nat} {service : Nat}

theorem ServiceCounts.getService (counts : ServiceCounts book held)
    (used : 0 < book.usage service) :
    ServiceCounts (book.getService service) (Pi.single service 1 + held) := by
  have stays (other : Nat) : 0 < (book.getService service).usage other ↔ 0 < book.usage other := by
    by_cases same : other = service
    · subst same
      simp [Book.getService, used]
    · simp [Book.getService, same]
  refine ⟨?_, ?_, counts.listedOnce, counts.created, counts.freed, counts.uuidOnce⟩
  · intro other
    change Function.update book.usage service _ other = book.slotRefs other + _
    by_cases same : other = service
    · subst same
      rw [Function.update_self, counts.usage, Pi.add_apply, Pi.single_eq_same]
      omega
    · rw [Function.update_of_ne same, counts.usage, Pi.add_apply, Pi.single_eq_of_ne same]
      omega
  · intro other
    rw [stays other]
    exact counts.listed other

theorem ServiceCounts.newService (counts : ServiceCounts book held) {uuid : Uuid}
    (missing : ∀ other ∈ book.serviceList, book.uuid other ≠ uuid) :
    ServiceCounts (book.newService uuid) (Pi.single book.serviceCount 1 + held) := by
  have unlisted : book.serviceCount ∉ book.serviceList := fun member =>
    Nat.lt_irrefl _ (counts.created _ member)
  have unused : book.usage book.serviceCount = 0 := by
    by_contra used
    exact unlisted ((counts.listed _).mpr (Nat.pos_of_ne_zero used))
  have noShare : book.slotRefs book.serviceCount = 0 ∧ held book.serviceCount = 0 := by
    have balance := counts.usage book.serviceCount
    omega
  have member (other : Nat) : other ∈ (book.newService uuid).serviceList ↔
      other ∈ book.serviceList ∨ other = book.serviceCount := by
    simp [Book.newService]
  have sameUuid (other : Nat) (present : other ∈ book.serviceList) :
      (book.newService uuid).uuid other = book.uuid other :=
    Function.update_of_ne (fun same : other = book.serviceCount => unlisted (same ▸ present)) _ _
  have newUuid : (book.newService uuid).uuid book.serviceCount = uuid := Function.update_self _ _ _
  refine ⟨?_, ?_, ?_, ?_, ?_, ?_⟩
  · intro other
    change Function.update book.usage book.serviceCount 1 other = book.slotRefs other + _
    by_cases same : other = book.serviceCount
    · subst same
      rw [Function.update_self, Pi.add_apply, Pi.single_eq_same]
      omega
    · rw [Function.update_of_ne same, counts.usage, Pi.add_apply, Pi.single_eq_of_ne same]
      omega
  · intro other
    rw [member]
    by_cases same : other = book.serviceCount
    · subst same
      simp [Book.newService]
    · simp [Book.newService, same, counts.listed]
  · exact List.nodup_append.mpr ⟨counts.listedOnce, List.nodup_singleton _, by
      intro first inList second inNew same
      rw [List.mem_singleton] at inNew
      exact unlisted (inNew ▸ same ▸ inList)⟩
  · intro other present
    rcases (member other).mp present with old | new
    · exact Nat.lt_succ_of_lt (counts.created other old)
    · rw [new]
      exact Nat.lt_succ_self _
  · intro other
    rw [member]
    change Function.update book.freed book.serviceCount false other = true ↔
      other < book.serviceCount + 1 ∧ _
    by_cases same : other = book.serviceCount
    · subst same
      simp
    · rw [Function.update_of_ne same, counts.freed]
      constructor
      · intro given
        obtain ⟨created, unlistedOther⟩ := given
        exact ⟨by omega, fun either => either.elim unlistedOther same⟩
      · intro given
        obtain ⟨created, neither⟩ := given
        exact ⟨by omega, fun listed => neither (Or.inl listed)⟩
  · intro first firstIn second secondIn equal
    rcases (member first).mp firstIn with firstOld | firstNew <;>
      rcases (member second).mp secondIn with secondOld | secondNew
    · rw [sameUuid first firstOld, sameUuid second secondOld] at equal
      exact counts.uuidOnce first firstOld second secondOld equal
    · rw [sameUuid first firstOld, secondNew, newUuid] at equal
      exact absurd equal (missing first firstOld)
    · rw [sameUuid second secondOld, firstNew, newUuid] at equal
      exact absurd equal.symm (missing second secondOld)
    · rw [firstNew, secondNew]

theorem ServiceCounts.putService (counts : ServiceCounts book (Pi.single service 1 + held)) :
    ServiceCounts (book.putService service) held := by
  have balance := counts.usage service
  rw [Pi.add_apply, Pi.single_eq_same] at balance
  have others (other : Nat) (different : other ≠ service) :
      book.usage other = book.slotRefs other + held other := by
    rw [counts.usage, Pi.add_apply, Pi.single_eq_of_ne different]
    omega
  -- one reference less balances the count, wherever it stops
  have balanced (left : Nat) (fewer : left + 1 = book.usage service) (other : Nat) :
      Function.update book.usage service left other = book.slotRefs other + held other := by
    by_cases same : other = service
    · subst same
      rw [Function.update_self]
      omega
    · rw [Function.update_of_ne same]
      exact others other same
  unfold Book.putService
  split
  · rename_i last
    have listedHere := (counts.listed service).mpr (by omega)
    have member (other : Nat) : other ∈ book.serviceList.erase service ↔
        other ≠ service ∧ other ∈ book.serviceList :=
      counts.listedOnce.mem_erase_iff
    refine ⟨?_, ?_, counts.listedOnce.erase service, ?_, ?_, ?_⟩
    · intro other
      exact balanced 0 (by omega) other
    · intro other
      rw [member]
      by_cases same : other = service
      · subst same
        simp
      · simp [same, counts.listed]
    · intro other present
      exact counts.created other ((member other).mp present).2
    · intro other
      rw [member]
      change Function.update book.freed service true other = true ↔ _
      by_cases same : other = service
      · subst same
        simp [counts.created other listedHere]
      · simp [same, counts.freed]
    · intro first firstIn second secondIn equal
      exact counts.uuidOnce first ((member first).mp firstIn).2 second
        ((member second).mp secondIn).2 equal
  · rename_i more
    refine ⟨?_, ?_, counts.listedOnce, counts.created, counts.freed, counts.uuidOnce⟩
    · intro other
      exact balanced _ (by omega) other
    · intro other
      change _ ↔ 0 < Function.update book.usage service _ other
      rw [counts.listed]
      by_cases same : other = service
      · subst same
        rw [Function.update_self]
        omega
      · rw [Function.update_of_ne same]

theorem ServiceCounts.reslot (counts : ServiceCounts book held) {moved : Nat → Nat}
    {slot : Dev → Fin servicesMaxCount → Option Nat} {ref : Dev → Fin servicesMaxCount → Nat}
    {phase : Dev → Phase}
    (balance : ∀ service, Book.slotRefs { book with slot := slot, ref := ref, phase := phase }
      service + moved service = book.slotRefs service + held service) :
    ServiceCounts { book with slot := slot, ref := ref, phase := phase } moved := by
  refine ⟨?_, counts.listed, counts.listedOnce, counts.created, counts.freed, counts.uuidOnce⟩
  intro other
  exact (counts.usage other).trans (balance other).symm

end Services

/-! ### Operations on slots -/

section SlotMoves

variable [DecidableEq Dev] {book : Book Dev} {dev : Dev} {index : Fin servicesMaxCount}
  {service : Nat}

theorem setSlot_slot_self (value : Option Nat) : (book.setSlot dev index value).slot dev index =
    value := by
  simp [setSlot]

theorem setSlot_slot_other {other : Dev} {place : Fin servicesMaxCount} (value : Option Nat)
    (different : (other, place) ≠ (dev, index)) :
    (book.setSlot dev index value).slot other place = book.slot other place := by
  by_cases sameDev : other = dev
  · subst sameDev
    have differentIndex : place ≠ index := fun same => different (by rw [same])
    simp [setSlot, differentIndex]
  · simp [setSlot, sameDev]

theorem setSlot_restore (stored : book.slot dev index = some service) :
    ((book.setSlot dev index none).setSlot dev index (some service)).slot = book.slot := by
  funext other place
  by_cases here : (other, place) = (dev, index)
  · obtain ⟨rfl, rfl⟩ := Prod.mk.inj here
    rw [setSlot_slot_self, stored]
  · rw [setSlot_slot_other _ here, setSlot_slot_other _ here]

variable [Fintype Dev]

theorem slotRefs_setSlot (empty : book.slot dev index = none)
    (live : (book.phase dev).live index = true) (other : Nat) :
    (book.setSlot dev index (some service)).slotRefs other =
      book.slotRefs other + Pi.single (M := fun _ => Nat) service 1 other := by
  have same (value : Option Nat) (place : Dev × Fin servicesMaxCount)
      (different : place ≠ (dev, index)) (target : Nat) : place ∈ book.owningSlots target ↔
        place ∈ (book.setSlot dev index value).owningSlots target := by
    obtain ⟨otherDev, otherIndex⟩ := place
    rw [mem_owningSlots, mem_owningSlots, setSlot_slot_other value different]
    rfl
  by_cases equal : other = service
  · subst equal
    rw [Pi.single_eq_same]
    refine slotRefs_insert (fun place different => same _ place different other) ?_ ?_
    · rw [mem_owningSlots, empty]
      simp
    · rw [mem_owningSlots, setSlot_slot_self]
      exact ⟨rfl, live⟩
  · rw [Pi.single_eq_of_ne equal, Nat.add_zero]
    apply slotRefs_congr
    intro place
    by_cases here : place = (dev, index)
    · subst here
      rw [mem_owningSlots, mem_owningSlots, setSlot_slot_self, empty]
      have notHere : ¬some service = some other := fun same => equal (Option.some.inj same).symm
      simp [notHere]
    · exact same _ place here other

theorem slotRefs_clearSlot (stored : book.slot dev index = some service)
    (live : (book.phase dev).live index = true) (other : Nat) :
    (book.setSlot dev index none).slotRefs other + Pi.single (M := fun _ => Nat) service 1 other =
      book.slotRefs other := by
  have filled : ((book.setSlot dev index none).setSlot dev index (some service)).slotRefs other =
      _ := slotRefs_setSlot (setSlot_slot_self none) live other
  rw [← filled]
  apply slotRefs_congr
  intro place
  obtain ⟨otherDev, otherIndex⟩ := place
  rw [mem_owningSlots, mem_owningSlots, setSlot_restore stored]
  rfl

theorem slotRefs_setPhase {phase : Phase}
    (same : ∀ place other, book.slot dev place = some other →
      phase.live place = (book.phase dev).live place) (other : Nat) :
    (book.setPhase dev phase).slotRefs other = book.slotRefs other := by
  apply slotRefs_congr
  intro place
  obtain ⟨otherDev, otherIndex⟩ := place
  rw [mem_owningSlots, mem_owningSlots]
  by_cases sameDev : otherDev = dev
  · subst sameDev
    change _ ↔ book.slot otherDev otherIndex = some other ∧
      (Function.update book.phase otherDev phase otherDev).live otherIndex = true
    rw [Function.update_self]
    constructor
    · intro given
      obtain ⟨stored, live⟩ := given
      exact ⟨stored, (same _ _ stored).trans live⟩
    · intro given
      obtain ⟨stored, live⟩ := given
      exact ⟨stored, (same _ _ stored).symm.trans live⟩
  · simp [setPhase, sameDev]

theorem slotRefs_dropSlot (closing : book.phase dev = .closing index)
    (stored : book.slot dev index = some service) (other : Nat) :
    (book.setPhase dev (.closing (index + 1))).slotRefs other +
      Pi.single (M := fun _ => Nat) service 1 other = book.slotRefs other := by
  have cleared := slotRefs_clearSlot stored
    (show (book.phase dev).live index = true by rw [closing]; simp [Phase.live]) other
  rw [← cleared, Nat.add_right_cancel_iff]
  apply slotRefs_congr
  intro place
  obtain ⟨otherDev, otherIndex⟩ := place
  rw [mem_owningSlots, mem_owningSlots]
  by_cases here : (otherDev, otherIndex) = (dev, index)
  · obtain ⟨rfl, rfl⟩ := Prod.mk.inj here
    rw [setSlot_slot_self]
    simp [setPhase, Phase.live]
  · rw [setSlot_slot_other _ here]
    change _ ↔ book.slot otherDev otherIndex = some other ∧ _
    by_cases sameDev : otherDev = dev
    · subst sameDev
      have differentIndex : otherIndex.val ≠ index.val := fun same =>
        here (by rw [Fin.ext same])
      simp only [setPhase, setSlot, Function.update_self, closing, Phase.live, decide_eq_true_eq]
      constructor
      · intro given
        obtain ⟨kept, live⟩ := given
        exact ⟨kept, by omega⟩
      · intro given
        obtain ⟨kept, live⟩ := given
        exact ⟨kept, by omega⟩
    · simp [setPhase, setSlot, sameDev]

end SlotMoves

/-! ### Operations on the numbers of a slot -/

section SlotNumbers

variable {slot : Fin servicesMaxCount → Option Nat} {ref : Fin servicesMaxCount → Nat}
  {count : Nat → Nat} {index : Fin servicesMaxCount} {service : Nat}

theorem SlotCounts.of_count {other : Nat → Nat} (counts : SlotCounts slot ref count)
    (same : ∀ service, other service = count service) : SlotCounts slot ref other := by
  have equal : other = count := funext same
  rw [equal]
  exact counts

theorem SlotCounts.setRef (counts : SlotCounts slot ref count)
    (once : ∀ other, slot other = some service → other = index)
    (stored : slot index = some service) {number : Nat} {after : Nat → Nat}
    (here : after service = number) (others : ∀ other, other ≠ service → after other = count other)
    (positive : 0 < number) (bounded : number ≤ maxRefCount) :
    SlotCounts slot (Function.update ref index number) after := by
  refine ⟨?_, ?_, ?_, ?_, ?_⟩
  · intro place other occupied
    by_cases same : place = index
    · subst same
      rw [stored] at occupied
      rw [Function.update_self, ← Option.some.inj occupied, here]
    · have different : other ≠ service := fun equal => same (once place (equal ▸ occupied))
      rw [Function.update_of_ne same, others other different]
      exact counts.number place other occupied
  · intro place other occupied
    by_cases same : place = index
    · subst same
      rw [Function.update_self]
      exact positive
    · rw [Function.update_of_ne same]
      exact counts.positive place other occupied
  · intro place
    by_cases same : place = index
    · subst same
      rw [Function.update_self]
      exact bounded
    · rw [Function.update_of_ne same]
      exact counts.bounded place
  · intro place none
    have different : place ≠ index := by
      intro same
      rw [same, stored] at none
      cases none
    rw [Function.update_of_ne different]
    exact counts.empty place none
  · intro other some
    by_cases same : other = service
    · subst same
      exact ⟨index, stored⟩
    · rw [others other same] at some
      exact counts.placed other some

theorem SlotCounts.add (counts : SlotCounts slot ref count) (free : slot index = none)
    (absent : ∀ other, slot other ≠ some service) {after : Nat → Nat}
    (here : after service = 1) (others : ∀ other, other ≠ service → after other = count other) :
    SlotCounts (Function.update slot index (some service)) (Function.update ref index 1)
      after := by
  refine ⟨?_, ?_, ?_, ?_, ?_⟩
  · intro place other occupied
    by_cases same : place = index
    · subst same
      rw [Function.update_self] at occupied ⊢
      rw [← Option.some.inj occupied, here]
    · rw [Function.update_of_ne same] at occupied ⊢
      have different : other ≠ service := fun equal => absent place (equal ▸ occupied)
      rw [others other different]
      exact counts.number place other occupied
  · intro place other occupied
    by_cases same : place = index
    · subst same
      rw [Function.update_self]
      exact Nat.one_pos
    · rw [Function.update_of_ne same] at occupied ⊢
      exact counts.positive place other occupied
  · intro place
    by_cases same : place = index
    · subst same
      rw [Function.update_self]
      decide
    · rw [Function.update_of_ne same]
      exact counts.bounded place
  · intro place none
    by_cases same : place = index
    · subst same
      rw [Function.update_self] at none
      cases none
    · rw [Function.update_of_ne same] at none ⊢
      exact counts.empty place none
  · intro other some
    by_cases same : other = service
    · subst same
      exact ⟨index, Function.update_self _ _ _⟩
    · rw [others other same] at some
      obtain ⟨place, occupied⟩ := counts.placed other some
      have different : place ≠ index := by
        intro equal
        rw [equal, free] at occupied
        cases occupied
      exact ⟨place, (Function.update_of_ne different _ _).trans occupied⟩

theorem SlotCounts.clear (counts : SlotCounts slot ref count)
    (stored : slot index = some service) (once : ∀ other, slot other = some service → other = index)
    {after : Nat → Nat} (here : after service = 0)
    (others : ∀ other, other ≠ service → after other = count other) :
    SlotCounts (Function.update slot index none) (Function.update ref index 0) after := by
  have elsewhere (place : Fin servicesMaxCount) (other : Nat)
      (occupied : Function.update slot index none place = some other) :
      place ≠ index ∧ slot place = some other := by
    by_cases same : place = index
    · subst same
      rw [Function.update_self] at occupied
      cases occupied
    · rw [Function.update_of_ne same] at occupied
      exact ⟨same, occupied⟩
  refine ⟨?_, ?_, ?_, ?_, ?_⟩
  · intro place other occupied
    obtain ⟨different, kept⟩ := elsewhere place other occupied
    have notService : other ≠ service := fun equal => different (once place (equal ▸ kept))
    rw [Function.update_of_ne different, others other notService]
    exact counts.number place other kept
  · intro place other occupied
    obtain ⟨different, kept⟩ := elsewhere place other occupied
    rw [Function.update_of_ne different]
    exact counts.positive place other kept
  · intro place
    by_cases same : place = index
    · subst same
      rw [Function.update_self]
      exact Nat.zero_le _
    · rw [Function.update_of_ne same]
      exact counts.bounded place
  · intro place none
    by_cases same : place = index
    · subst same
      exact Function.update_self _ _ _
    · rw [Function.update_of_ne same] at none ⊢
      exact counts.empty place none
  · intro other some
    have notService : other ≠ service := by
      intro equal
      rw [equal, here] at some
      exact Nat.lt_irrefl _ some
    rw [others other notService] at some
    obtain ⟨place, occupied⟩ := counts.placed other some
    have different : place ≠ index := by
      intro equal
      rw [equal, stored] at occupied
      exact notService (Option.some.inj occupied).symm
    exact ⟨place, (Function.update_of_ne different _ _).trans occupied⟩

end SlotNumbers

section Refs

variable [DecidableEq Dev] {book : Book Dev} {held : Dev × Nat → Nat} {dev : Dev}
  {index : Fin servicesMaxCount} {service : Nat}

theorem RefCounts.congr (counts : RefCounts book held) {after : Book Dev}
    {moved : Dev × Nat → Nat} (slot : after.slot = book.slot) (ref : after.ref = book.ref)
    (phase : after.phase = book.phase)
    (numbers : ∀ dev service,
      after.sessionNumber moved dev service = book.sessionNumber held dev service) :
    RefCounts after moved := by
  refine ⟨?_, ?_, ?_, ?_⟩
  · rw [slot]
    exact counts.slotOnce
  · intro dev opened
    rw [phase] at opened
    rw [slot, ref]
    exact (counts.opened dev opened).of_count (numbers dev)
  · intro dev index service stored live
    rw [slot] at stored
    rw [phase] at live
    rw [ref, numbers]
    exact counts.owning dev index service stored live
  · rw [ref]
    exact counts.bounded

/-- A change to the slots and the numbers of one open dev_file. -/
theorem RefCounts.in_dev (counts : RefCounts book held) {after : Book Dev}
    {moved : Dev × Nat → Nat} (opened : book.phase dev = .opened)
    (once : ∀ dev first second service, after.slot dev first = some service →
      after.slot dev second = some service → first = second)
    (here : SlotCounts (after.slot dev) (after.ref dev) (after.sessionNumber moved dev))
    (phase : after.phase = book.phase)
    (slot : ∀ other ≠ dev, after.slot other = book.slot other)
    (ref : ∀ other ≠ dev, after.ref other = book.ref other)
    (numbers : ∀ other ≠ dev, ∀ service,
      after.sessionNumber moved other service = book.sessionNumber held other service) :
    RefCounts after moved := by
  refine ⟨once, ?_, ?_, ?_⟩
  · intro other otherOpened
    by_cases same : other = dev
    · rw [same]
      exact here
    · rw [slot other same, ref other same]
      rw [phase] at otherOpened
      exact (counts.opened other otherOpened).of_count (numbers other same)
  · intro other index service stored live
    by_cases same : other = dev
    · subst same
      exact here.number index service stored
    · rw [slot other same] at stored
      rw [phase] at live
      rw [ref other same, numbers other same]
      exact counts.owning other index service stored live
  · intro other index
    by_cases same : other = dev
    · rw [same]
      exact here.bounded index
    · rw [ref other same]
      exact counts.bounded other index

theorem sessionNumber_single (other : Dev) (target : Nat) :
    book.sessionNumber (Pi.single (dev, service) 1 + held) other target =
      book.sessionNumber held other target +
        if other = dev ∧ target = service then 1 else 0 := by
  simp only [sessionNumber, Pi.add_apply, Pi.single_apply, Prod.mk.injEq]
  omega

private theorem numbers_elsewhere {other : Dev} (different : other ≠ dev) (target : Nat) :
    book.sessionNumber (Pi.single (dev, service) 1 + held) other target =
      book.sessionNumber held other target := by
  rw [sessionNumber_single, if_neg (fun both => different both.1), Nat.add_zero]

theorem RefCounts.refSlot (counts : RefCounts book held)
    (stored : book.slot dev index = some service) (room : book.ref dev index ≠ maxRefCount)
    (opened : book.phase dev = .opened) :
    RefCounts (book.setRef dev index ((book.ref dev index + 1) % 256))
      (Pi.single (dev, service) 1 + held) := by
  have here := counts.opened dev opened
  have bound := here.bounded index
  have noWrap : (book.ref dev index + 1) % 256 = book.ref dev index + 1 := by
    unfold maxRefCount at bound room
    omega
  rw [noWrap]
  refine counts.in_dev opened counts.slotOnce ?_ rfl (fun _ _ => rfl)
    (fun _ different => Function.update_of_ne different _ _)
    (fun _ different => numbers_elsewhere different)
  change SlotCounts (book.slot dev) (Function.update book.ref dev _ dev) (book.sessionNumber _ dev)
  rw [Function.update_self]
  refine here.setRef (fun place occupied => counts.slotOnce dev place index service occupied
    stored) stored ?_ ?_ (Nat.succ_pos _) (by omega)
  · rw [sessionNumber_single, if_pos ⟨rfl, rfl⟩, here.number index service stored]
  · intro target different
    rw [sessionNumber_single, if_neg (fun both => different both.2), Nat.add_zero]

theorem slotOnce_setSlot (once : ∀ dev first second service, book.slot dev first = some service →
      book.slot dev second = some service → first = second)
    (absent : ∀ place, book.slot dev place ≠ some service) :
    ∀ other first second target,
      (book.setSlot dev index (some service)).slot other first = some target →
      (book.setSlot dev index (some service)).slot other second = some target →
        first = second := by
  intro other first second target atFirst atSecond
  by_cases firstHere : (other, first) = (dev, index)
  · obtain ⟨rfl, rfl⟩ := Prod.mk.inj firstHere
    rw [setSlot_slot_self] at atFirst
    by_contra different
    rw [setSlot_slot_other _ (fun same => different (Prod.mk.inj same).2.symm)] at atSecond
    exact absent second (atSecond.trans atFirst.symm)
  · rw [setSlot_slot_other _ firstHere] at atFirst
    by_cases secondHere : (other, second) = (dev, index)
    · obtain ⟨rfl, rfl⟩ := Prod.mk.inj secondHere
      rw [setSlot_slot_self] at atSecond
      exact absurd (atFirst.trans atSecond.symm) (absent first)
    · rw [setSlot_slot_other _ secondHere] at atSecond
      exact once other first second target atFirst atSecond

theorem slotOnce_clearSlot (once : ∀ dev first second service,
      book.slot dev first = some service → book.slot dev second = some service →
        first = second) :
    ∀ other first second target, (book.setSlot dev index none).slot other first = some target →
      (book.setSlot dev index none).slot other second = some target → first = second := by
  have elsewhere (other : Dev) (place : Fin servicesMaxCount) (target : Nat)
      (occupied : (book.setSlot dev index none).slot other place = some target) :
      book.slot other place = some target := by
    by_cases here : (other, place) = (dev, index)
    · obtain ⟨rfl, rfl⟩ := Prod.mk.inj here
      rw [setSlot_slot_self] at occupied
      cases occupied
    · rwa [setSlot_slot_other _ here] at occupied
  intro other first second target atFirst atSecond
  exact once other first second target (elsewhere other first target atFirst)
    (elsewhere other second target atSecond)

theorem RefCounts.addSlot (counts : RefCounts book held) (free : book.slot dev index = none)
    (absent : ∀ place, book.slot dev place ≠ some service) (opened : book.phase dev = .opened) :
    RefCounts ((book.setSlot dev index (some service)).setRef dev index 1)
      (Pi.single (dev, service) 1 + held) := by
  have here := counts.opened dev opened
  have unnumbered : book.sessionNumber held dev service = 0 := by
    by_contra numbered
    obtain ⟨place, occupied⟩ := here.placed service (Nat.pos_of_ne_zero numbered)
    exact absent place occupied
  refine counts.in_dev opened (slotOnce_setSlot counts.slotOnce absent) ?_ rfl
    (fun _ different => Function.update_of_ne different _ _)
    (fun _ different => Function.update_of_ne different _ _)
    (fun _ different => numbers_elsewhere different)
  change SlotCounts (Function.update book.slot dev _ dev) (Function.update book.ref dev _ dev)
    (book.sessionNumber _ dev)
  rw [Function.update_self, Function.update_self]
  refine here.add free absent ?_ ?_
  · rw [sessionNumber_single, if_pos ⟨rfl, rfl⟩, unnumbered]
  · intro target different
    rw [sessionNumber_single, if_neg (fun both => different both.2), Nat.add_zero]

/-- A thread that gives its number back finds the slot of its service. -/
theorem RefCounts.slot_of_held (counts : RefCounts book (Pi.single (dev, service) 1 + held))
    (opened : book.phase dev = .opened) :
    ∃ place, book.slot dev place = some service ∧
      book.ref dev place = book.sessionNumber held dev service + 1 := by
  have here := counts.opened dev opened
  have number : book.sessionNumber (Pi.single (dev, service) 1 + held) dev service = _ :=
    sessionNumber_single dev service
  rw [if_pos ⟨rfl, rfl⟩] at number
  obtain ⟨place, occupied⟩ := here.placed service (by omega)
  exact ⟨place, occupied, (here.number place service occupied).trans number⟩

theorem RefCounts.unrefSlot (counts : RefCounts book (Pi.single (dev, service) 1 + held))
    (stored : book.slot dev index = some service) (more : book.ref dev index - 1 ≠ 0)
    (opened : book.phase dev = .opened) :
    RefCounts (book.setRef dev index (book.ref dev index - 1)) held := by
  have here := counts.opened dev opened
  have bound := here.bounded index
  refine counts.in_dev opened counts.slotOnce ?_ rfl (fun _ _ => rfl)
    (fun _ different => Function.update_of_ne different _ _)
    (fun _ different target => (numbers_elsewhere different target).symm)
  change SlotCounts (book.slot dev) (Function.update book.ref dev _ dev) (book.sessionNumber _ dev)
  rw [Function.update_self]
  refine here.setRef (fun place occupied => counts.slotOnce dev place index service occupied
    stored) stored ?_ ?_ (Nat.pos_of_ne_zero more) (by omega)
  · rw [here.number index service stored, sessionNumber_single, if_pos ⟨rfl, rfl⟩,
      Nat.add_sub_cancel]
  · intro target different
    rw [sessionNumber_single, if_neg (fun both => different both.2), Nat.add_zero]

theorem RefCounts.clearSlot (counts : RefCounts book (Pi.single (dev, service) 1 + held))
    (stored : book.slot dev index = some service) (last : book.ref dev index - 1 = 0)
    (opened : book.phase dev = .opened) :
    RefCounts ((book.setSlot dev index none).setRef dev index 0) held := by
  have here := counts.opened dev opened
  have number := here.number index service stored
  rw [sessionNumber_single, if_pos ⟨rfl, rfl⟩] at number
  refine counts.in_dev opened (slotOnce_clearSlot counts.slotOnce) ?_ rfl
    (fun _ different => Function.update_of_ne different _ _)
    (fun _ different => Function.update_of_ne different _ _)
    (fun _ different target => (numbers_elsewhere different target).symm)
  change SlotCounts (Function.update book.slot dev _ dev) (Function.update book.ref dev _ dev)
    (book.sessionNumber _ dev)
  rw [Function.update_self, Function.update_self]
  refine here.clear stored (fun place occupied => counts.slotOnce dev place index service
    occupied stored) (by omega) ?_
  intro target different
  rw [sessionNumber_single, if_neg (fun both => different both.2), Nat.add_zero]

theorem RefCounts.setPhase (counts : RefCounts book held) {phase : Phase}
    {moved : Dev × Nat → Nat} (notOpen : phase ≠ .opened)
    (live : ∀ place other, book.slot dev place = some other → phase.live place = true →
      (book.phase dev).live place = true ∧
        book.sessionNumber moved dev other = book.sessionNumber held dev other)
    (numbers : ∀ other ≠ dev, ∀ target,
      book.sessionNumber moved other target = book.sessionNumber held other target) :
    RefCounts (book.setPhase dev phase) moved := by
  refine ⟨counts.slotOnce, ?_, ?_, counts.bounded⟩
  · intro other otherOpened
    change Function.update book.phase dev phase other = .opened at otherOpened
    by_cases same : other = dev
    · subst same
      rw [Function.update_self] at otherOpened
      exact absurd otherOpened notOpen
    · rw [Function.update_of_ne same] at otherOpened
      exact (counts.opened other otherOpened).of_count (numbers other same)
  · intro other place target stored owned
    change (Function.update book.phase dev phase other).live place = true at owned
    change book.ref other place = book.sessionNumber moved other target
    by_cases same : other = dev
    · subst same
      rw [Function.update_self] at owned
      obtain ⟨before, number⟩ := live place target stored owned
      rw [number]
      exact counts.owning other place target stored before
    · rw [Function.update_of_ne same] at owned
      rw [numbers other same]
      exact counts.owning other place target stored owned

theorem sessionNumber_nsmul (closed : Nat) (other : Dev) (target : Nat)
    (elsewhere : (other, target) ≠ (dev, service)) :
    book.sessionNumber (closed • Pi.single (dev, service) 1 + held) other target =
      book.sessionNumber held other target := by
  simp [sessionNumber, Pi.single_eq_of_ne elsewhere]

theorem RefCounts.dropSlot {closed : Nat}
    (counts : RefCounts book (closed • Pi.single (dev, service) 1 + held))
    (closing : book.phase dev = .closing index) (stored : book.slot dev index = some service) :
    RefCounts (book.setPhase dev (.closing (index + 1))) held := by
  refine counts.setPhase Phase.noConfusion ?_ ?_
  · intro place other occupied live
    have above : index.val + 1 ≤ place.val := of_decide_eq_true live
    have different : other ≠ service := by
      intro equal
      subst equal
      have same := counts.slotOnce dev place index other occupied stored
      rw [same] at above
      omega
    constructor
    · rw [closing]
      exact decide_eq_true (by omega)
    · exact (sessionNumber_nsmul closed dev other fun same =>
        different (Prod.mk.inj same).2).symm
  · intro other different target
    exact (sessionNumber_nsmul closed other target fun same =>
      different (Prod.mk.inj same).1).symm

end Refs

end Book

end TzDriver.Session
