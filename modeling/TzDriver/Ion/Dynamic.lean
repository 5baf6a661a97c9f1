/-
Secure memory for trusted applications (`linux/ion/dynamic_ion_mem.c`).

The driver takes a block of secure memory from the kernel, tells the TEE about it and keeps
it under its configid; it takes the block back from the TEE before it gives it back to the
kernel.  `tee` is what the TEE has been told, by its own answers.
-/

import TzDriver.Lib.ListWalk
import TzDriver.Lib.Runs
import TzDriver.Lib.SafeWalk
import TzDriver.Platform
import TzDriver.Types

namespace TzDriver.Ion

open TzDriver.Lib

/-- `enum SEC_SVC` of the secure memory, as far as it is used. -/
inductive SecSvc where
  | secEid
  | secAiIon
  | secDrmTee
deriving DecidableEq, Repr

/-- A `struct sg_table` that `mm_secmem_alloc` returned: which one, its entries and its size. -/
structure SgTable where
  number : Nat
  nents : Int
  len : Nat
deriving DecidableEq, Repr

/-- `struct dynamic_mem_item`; `addr` is where `kzalloc` put it. -/
structure DynamicMemItem where
  addr : Nat
  configid : UInt32
  size : UInt32
  cafd : UInt32
  uuid : Uuid
  ddrSecRegion : SecSvc
  dynSgTable : Option SgTable
deriving DecidableEq

/-- `nextItem` and `nextTable` count the allocations, `live` has the blocks that the driver took
and did not give back, `mailbox` counts the mailbox buffers. -/
structure IonState where
  items : List DynamicMemItem
  nextItem : Nat
  nextTable : Nat
  live : List SgTable
  mailbox : Nat
  tee : List (UInt32 × SgTable)
  /-- a block was given back that the driver did not have -/
  badFree : Bool
deriving DecidableEq

/-- What one command to the TEE meets: the entries of the table, the two mailbox allocations and
`tc_ns_smc`. -/
structure SendWorld where
  sgEntries : Bool
  sglist : Bool
  cmdPack : Bool
  tcNsSmc : Int

structure LoadWorld where
  kzalloc : Bool
  /-- the entries of the table that `mm_secmem_alloc` returns -/
  mmSecmemAlloc : Option Int
  send : SendWorld

inductive DynIonCmd where
  | addDynamicIon
  | delDynamicIon
deriving DecidableEq

def teeSecIdentification1 : Uuid := 0x8780dda1a49e45f49697c7ed9e385e83#128
def teeSecIdentification3 : Uuid := 0x335129cd41fa4b5397975ccb202a52d4#128
def teeServiceAi : Uuid := 0xf4a8816db6fb4d4fa2b97dae573313c0#128
def teeServiceAiTiny : Uuid := 0xc123c6435b5b4c9f9098bb09564d6eda#128
def teeServiceVcodec : Uuid := 0x528822b7fc78466bb57e62093d6034a7#128
def teeServiceUt : Uuid := 0x03030303030303030303030303030303#128
def teeServiceTestDynion : Uuid := 0x7f313b2a68b94e92acf9133ebb54eb56#128

/-- `g_dyn_mem_config`, with and without `DEF_ENG`. -/
def gDynMemConfig (defEng : Bool) : List (Uuid × SecSvc) :=
  (if defEng then [(teeServiceUt, .secEid), (teeServiceTestDynion, .secAiIon)] else []) ++
    [(teeSecIdentification1, .secEid), (teeSecIdentification3, .secEid),
      (teeServiceAi, .secAiIon), (teeServiceAiTiny, .secAiIon), (teeServiceVcodec, .secDrmTee)]

def maxIonNents : Int := 1024
def block64kbSizeMask : Nat := 64 * 1024 - 1

namespace IonState

variable (state : IonState)

/-! ### Commands to the TEE -/

/-- What the TEE keeps after it has accepted a command. -/
def tell (cmd : DynIonCmd) (configid : UInt32) (table : SgTable) : IonState :=
  match cmd with
  | .addDynamicIon => { state with tee := state.tee ++ [(configid, table)] }
  | .delDynamicIon => { state with tee := state.tee.erase (configid, table) }

def mailboxAlloc : IonState := { state with mailbox := state.mailbox + 1 }

def mailboxFree : IonState := { state with mailbox := state.mailbox - 1 }

/-- `get_ion_sglist`, with the table whose entries it copies. -/
def getIonSglist (item : DynamicMemItem) (world : SendWorld) : Except Int SgTable × IonState :=
  match item.dynSgTable with
  | none => (.error (-eInval), state)
  | some table =>
      if table.nents ≤ 0 ∨ maxIonNents < table.nents then (.error (-eInval), state)
      else if world.sgEntries = false then (.error (-eInval), state)
      else if world.sglist = false then (.error (-eNoMem), state)
      else (.ok table, state.mailboxAlloc)

def sendDynIonCmd (item : DynamicMemItem) (cmd : DynIonCmd) (world : SendWorld) :
    Int × IonState :=
  match state.getIonSglist item world with
  | (.error ret, after) => (ret, after)
  | (.ok table, after) =>
      if world.cmdPack = false then (-eNoMem, after.mailboxFree)
      else
        let packed := after.mailboxAlloc
        if world.tcNsSmc ≠ 0 then (-ePerm, packed.mailboxFree.mailboxFree)
        else (0, (packed.tell cmd item.configid table).mailboxFree.mailboxFree)

/-! ### The items -/

def findMemitemByConfigid (configid : UInt32) : Option DynamicMemItem :=
  state.items.find? fun item => item.configid == configid

def findMemitemByUuid (uuid : Uuid) : Option DynamicMemItem :=
  state.items.find? fun item => decide (item.uuid = uuid)

def findDdrSecRegionByUuid (defEng : Bool) (uuid : Uuid) : Option SecSvc :=
  ((gDynMemConfig defEng).find? fun config => decide (config.1 = uuid)).map Prod.snd

def allocDynMemItem (defEng : Bool) (configid cafd : UInt32) (uuid : Uuid) (size : UInt32)
    (kzalloc : Bool) : Option DynamicMemItem × IonState :=
  match findDdrSecRegionByUuid defEng uuid with
  | none => (none, state)
  | some region =>
      if kzalloc = false then (none, state)
      else
        (some ⟨state.nextItem, configid, size, cafd, uuid, region, none⟩,
          { state with nextItem := state.nextItem + 1 })

/-- The 32-bit sum `size + BLOCK_64KB_SIZE_MASK` wraps. -/
def sizeWraps (size : UInt32) : Bool :=
  decide ((size.toNat + block64kbSizeMask) % 2 ^ 32 < size.toNat)

def procAllocDynMem (item : DynamicMemItem) (alloc : Option Int) :
    Except Int DynamicMemItem × IonState :=
  if sizeWraps item.size then (.error (-eInval), state)
  else
    match alloc with
    | none => (.error (-eNoMem), state)
    | some nents =>
        let len := (item.size.toNat + block64kbSizeMask) / (64 * 1024) * (64 * 1024)
        let table : SgTable := ⟨state.nextTable, nents, len⟩
        (.ok { item with dynSgTable := some table },
          { state with nextTable := state.nextTable + 1, live := state.live ++ [table] })

def procFreeDynMem (item : DynamicMemItem) : IonState :=
  match item.dynSgTable with
  | none => state
  | some table =>
      if table ∈ state.live then { state with live := state.live.erase table }
      else { state with badFree := true }

/-- The end of `trans_configid2memid`: a block that the TEE does not accept is given back. -/
def registerToTee (item : DynamicMemItem) (world : SendWorld) : Int × IonState :=
  match state.sendDynIonCmd item .addDynamicIon world with
  | (ret, after) =>
      if ret ≠ 0 then (ret, after.procFreeDynMem item)
      else (0, { after with items := after.items ++ [item] })

/-- `trans_configid2memid`, under `dynamic_mem_lock`. -/
def transConfigid2memid (defEng : Bool) (configid cafd : UInt32) (uuid : Uuid) (size : UInt32)
    (world : LoadWorld) : Int × IonState :=
  match state.findMemitemByConfigid configid with
  | some _ => (-eInval, state)
  | none =>
      match state.allocDynMemItem defEng configid cafd uuid size world.kzalloc with
      | (none, after) => (-eNoMem, after)
      | (some item, after) =>
          match after.procAllocDynMem item world.mmSecmemAlloc with
          | (.error ret, after) => (ret, after)
          | (.ok item, after) => after.registerToTee item world.send

def releaseConfigidMem (configid : UInt32) (world : SendWorld) : IonState :=
  match state.findMemitemByConfigid configid with
  | none => state
  | some item =>
      match state.sendDynIonCmd item .delDynamicIon world with
      | (ret, after) =>
          if ret ≠ 0 then after
          else
            let freed := after.procFreeDynMem item
            { freed with items := freed.items.eraseP fun other => other.addr == item.addr }

/-- `load_image_for_ion` with `load_app_use_configid`; the request that follows a failure,
`GLOBAL_CMD_ID_RELEASE_ION_SRV`, changes nothing here. -/
def loadImageForIon (defEng : Bool) (configid cafd : UInt32) (uuid : Uuid) (ionSize : UInt32)
    (world : LoadWorld) : Int × IonState :=
  if configid ≠ 0 ∧ ionSize ≠ 0 then
    match state.transConfigid2memid defEng configid cafd uuid ionSize world with
    | (ret, after) => if ret ≠ 0 then (-eFault, after) else (0, after)
  else (0, state)

def killIonByUuid (uuid : Uuid) (world : SendWorld) : IonState :=
  match state.findMemitemByUuid uuid with
  | none => state
  | some item => state.releaseConfigidMem item.configid world

def addrs : List Nat := state.items.map DynamicMemItem.addr

/-- One pass of `kill_ion_by_cafd`. -/
def killPass (cafd : UInt32) (worlds : Nat → SendWorld) (addr : Nat) : IonState :=
  match state.items.find? fun item => item.addr == addr with
  | none => state
  | some item =>
      if item.cafd = cafd then state.releaseConfigidMem item.configid (worlds addr) else state

/-- `kill_ion_by_cafd`; `none` where the walk reads an item that was freed. -/
def killIonByCafd (cafd : UInt32) (worlds : Nat → SendWorld) : Option IonState :=
  safeWalk addrs (fun addr state => state.killPass cafd worlds addr) state.addrs.length
    state.addrs.head? state

def initial : IonState := ⟨[], 0, 0, [], 0, [], false⟩

end IonState

/-- The calls of the other files.  `cafd` and the worlds of a walk are by item. -/
inductive IonLabel where
  | loadImageForIon (configid cafd : UInt32) (uuid : Uuid) (ionSize : UInt32) (world : LoadWorld)
  | killIonByUuid (uuid : Uuid) (world : SendWorld)
  | killIonByCafd (cafd : UInt32) (worlds : Nat → SendWorld)

def IonState.exec (defEng : Bool) (state : IonState) : IonLabel → Option IonState
  | .loadImageForIon configid cafd uuid ionSize world =>
      some (state.loadImageForIon defEng configid cafd uuid ionSize world).2
  | .killIonByUuid uuid world => some (state.killIonByUuid uuid world)
  | .killIonByCafd cafd worlds => state.killIonByCafd cafd worlds

def ionMachine (defEng : Bool) : Machine IonState IonLabel :=
  { init := fun state => state = .initial
    step := fun before label after => before.exec defEng label = some after }

/-! ### What the driver and the TEE agree on -/

def blocks (items : List DynamicMemItem) : List SgTable :=
  items.filterMap DynamicMemItem.dynSgTable

/-- What the TEE is to know about the items. -/
def told (items : List DynamicMemItem) : List (UInt32 × SgTable) :=
  items.filterMap fun item => item.dynSgTable.map fun table => (item.configid, table)

/-- Every item has its block and its own configid; the driver has the blocks of the items, each
once, and the TEE knows these under their configids. -/
structure IonInvariant (state : IonState) : Prop where
  tables : ∀ item ∈ state.items, item.dynSgTable.isSome = true
  configids : (state.items.map DynamicMemItem.configid).Nodup
  addrs : state.addrs.Nodup
  addrsBelow : ∀ item ∈ state.items, item.addr < state.nextItem
  live : state.live = blocks state.items
  once : state.live.Nodup
  tablesBelow : ∀ table ∈ state.live, table.number < state.nextTable
  tee : state.tee = told state.items
  mailbox : state.mailbox = 0
  badFree : state.badFree = false

/-- The command for this item gets to the TEE, and the TEE accepts it. -/
def Accepted (item : DynamicMemItem) (world : SendWorld) : Prop :=
  ∃ table, item.dynSgTable = some table ∧ 0 < table.nents ∧ table.nents ≤ maxIonNents ∧
    world.sgEntries = true ∧ world.sglist = true ∧ world.cmdPack = true ∧ world.tcNsSmc = 0

instance (item : DynamicMemItem) (world : SendWorld) : Decidable (Accepted item world) :=
  match has : item.dynSgTable with
  | none => isFalse fun ⟨_, found, _⟩ => nomatch has.symm.trans found
  | some table =>
      decidable_of_iff (0 < table.nents ∧ table.nents ≤ maxIonNents ∧ world.sgEntries = true ∧
          world.sglist = true ∧ world.cmdPack = true ∧ world.tcNsSmc = 0)
        ⟨fun given => ⟨table, has, given⟩, fun ⟨_, found, given⟩ =>
          Option.some.inj (has.symm.trans found) ▸ given⟩

section Commands

variable {state : IonState} {item : DynamicMemItem} {world : SendWorld} {cmd : DynIonCmd}

/-- A command succeeds and the TEE has been told, or it fails and nothing has changed. -/
theorem sendDynIonCmd_cases (state : IonState) (item : DynamicMemItem) (cmd : DynIonCmd)
    (world : SendWorld) :
    (Accepted item world ∧ ∃ table, item.dynSgTable = some table ∧
        state.sendDynIonCmd item cmd world = (0, state.tell cmd item.configid table)) ∨
      ¬Accepted item world ∧
        ∃ ret, ret ≠ 0 ∧ state.sendDynIonCmd item cmd world = (ret, state) := by
  unfold IonState.sendDynIonCmd IonState.getIonSglist
  cases here : item.dynSgTable with
  | none =>
      right
      refine ⟨?_, -eInval, by decide, rfl⟩
      rintro ⟨table, found, _⟩
      rw [here] at found
      cases found
  | some table =>
      dsimp only
      have known {other : SgTable} (found : item.dynSgTable = some other) : other = table := by
        rw [here] at found
        exact (Option.some.inj found).symm
      by_cases size : table.nents ≤ 0 ∨ maxIonNents < table.nents
      · rw [if_pos size]
        right
        refine ⟨?_, -eInval, by decide, rfl⟩
        rintro ⟨other, found, positive, bounded, _⟩
        rw [known found] at positive bounded
        omega
      rw [if_neg size]
      by_cases entries : world.sgEntries = false
      · rw [if_pos entries]
        right
        refine ⟨?_, -eInval, by decide, rfl⟩
        rintro ⟨_, _, _, _, given, _⟩
        rw [entries] at given
        cases given
      rw [if_neg entries]
      by_cases sglist : world.sglist = false
      · rw [if_pos sglist]
        right
        refine ⟨?_, -eNoMem, by decide, rfl⟩
        rintro ⟨_, _, _, _, _, given, _⟩
        rw [sglist] at given
        cases given
      rw [if_neg sglist]
      by_cases cmdPack : world.cmdPack = false
      · right
        refine ⟨?_, -eNoMem, by decide, by simp only [cmdPack, if_true]; rfl⟩
        rintro ⟨_, _, _, _, _, _, given, _⟩
        rw [cmdPack] at given
        cases given
      by_cases answer : world.tcNsSmc = 0
      · left
        simp only [Bool.not_eq_false] at entries sglist cmdPack
        constructor
        · exact ⟨table, here, by omega, by omega, entries, sglist, cmdPack, answer⟩
        · refine ⟨table, rfl, ?_⟩
          simp only [cmdPack, answer, Bool.true_eq_false, if_false, ne_eq, not_true_eq_false]
          cases cmd with
          | addDynamicIon => rfl
          | delDynamicIon => rfl
      · right
        refine ⟨?_, -ePerm, by decide, ?_⟩
        · rintro ⟨_, _, _, _, _, _, _, given⟩
          exact answer given
        · simp only [cmdPack, ne_eq, answer, not_false_eq_true, if_true]
          rfl

theorem blocks_append (before after : List DynamicMemItem) :
    blocks (before ++ after) = blocks before ++ blocks after :=
  List.filterMap_append

theorem told_append (before after : List DynamicMemItem) :
    told (before ++ after) = told before ++ told after :=
  List.filterMap_append

theorem blocks_cons {table : SgTable} (has : item.dynSgTable = some table)
    (rest : List DynamicMemItem) : blocks (item :: rest) = table :: blocks rest := by
  unfold blocks
  rw [List.filterMap_cons_some has]

theorem told_cons {table : SgTable} (has : item.dynSgTable = some table)
    (rest : List DynamicMemItem) : told (item :: rest) = (item.configid, table) :: told rest := by
  unfold told
  rw [List.filterMap_cons_some]
  rw [has]
  rfl

theorem mem_blocks_of_mem_told {items : List DynamicMemItem} {configid : UInt32}
    {table : SgTable} (member : (configid, table) ∈ told items) : table ∈ blocks items := by
  obtain ⟨item, inside, named⟩ := List.mem_filterMap.mp member
  obtain ⟨found, has, same⟩ := Option.map_eq_some_iff.mp named
  cases same
  exact List.mem_filterMap.mpr ⟨item, inside, has⟩

theorem releaseConfigidMem_accepted (invariant : IonInvariant state)
    {before after : List DynamicMemItem} (split : state.items = before ++ item :: after)
    (accepted : Accepted item world) :
    state.releaseConfigidMem item.configid world =
      { state with
        items := before ++ after
        live := blocks before ++ blocks after
        tee := told before ++ told after } := by
  obtain ⟨table, has, _⟩ := id accepted
  have once := invariant.once
  have configids := invariant.configids
  have addrs := invariant.addrs
  rw [invariant.live, split, blocks_append, blocks_cons has] at once
  rw [split, List.map_append, List.map_cons] at configids
  rw [IonState.addrs, split, List.map_append, List.map_cons] at addrs
  have notLive : table ∉ blocks before := fun member =>
    (List.nodup_append.mp once).2.2 table member table List.mem_cons_self rfl
  have others : ∀ other ∈ before, (other.configid == item.configid) = false := by
    intro other member
    apply beq_eq_false_iff_ne.mpr
    exact (List.nodup_append.mp configids).2.2 _ (List.mem_map_of_mem member) _
      List.mem_cons_self
  have addrsApart : ∀ other ∈ before, ¬(other.addr == item.addr) = true := by
    intro other member same
    exact (List.nodup_append.mp addrs).2.2 _ (List.mem_map_of_mem member) _ List.mem_cons_self
      (beq_iff_eq.mp same)
  have found : state.findMemitemByConfigid item.configid = some item := by
    unfold IonState.findMemitemByConfigid
    rw [split]
    exact find?_walk others (beq_self_eq_true item.configid)
  unfold IonState.releaseConfigidMem
  rw [found]
  rcases sendDynIonCmd_cases state item .delDynamicIon world with ⟨_, other, same, sent⟩ | ⟨not, _⟩
  · cases has.symm.trans same
    have isLive : table ∈ state.live := by
      rw [invariant.live, split, blocks_append, blocks_cons has]
      exact List.mem_append_right _ List.mem_cons_self
    have kept : state.live.erase table = blocks before ++ blocks after := by
      rw [invariant.live, split, blocks_append, blocks_cons has,
        List.erase_append_right _ notLive, List.erase_cons_head]
    have untold : (item.configid, table) ∉ told before := fun member =>
      notLive (mem_blocks_of_mem_told member)
    have forgot : state.tee.erase (item.configid, table) = told before ++ told after := by
      rw [invariant.tee, split, told_append, told_cons has, List.erase_append_right _ untold,
        List.erase_cons_head]
    have left : state.items.eraseP (fun other => other.addr == item.addr) = before ++ after := by
      rw [split, List.eraseP_append_right _ addrsApart]
      simp only [List.eraseP_cons, beq_self_eq_true, cond_true]
    simp only [sent, IonState.tell, IonState.procFreeDynMem, has, isLive, if_true, ne_eq,
      not_true_eq_false, if_false, kept, forgot, left]
  · exact absurd accepted not

theorem releaseConfigidMem_refused (found : state.findMemitemByConfigid item.configid = some item)
    (refused : ¬Accepted item world) : state.releaseConfigidMem item.configid world = state := by
  unfold IonState.releaseConfigidMem
  rw [found]
  rcases sendDynIonCmd_cases state item .delDynamicIon world with
    ⟨accepted, _⟩ | ⟨_, ret, failed, sent⟩
  · exact absurd accepted refused
  · simp only [sent, ne_eq, failed, not_false_eq_true, if_true]

end Commands

section Invariant

variable {state before after : IonState} {world : SendWorld} {defEng : Bool}

theorem findMemitemByConfigid_split {configid : UInt32} {item : DynamicMemItem}
    (found : state.findMemitemByConfigid configid = some item) :
    item.configid = configid ∧ ∃ front back, state.items = front ++ item :: back := by
  have named := List.find?_some found
  exact ⟨beq_iff_eq.mp named, List.append_of_mem (List.mem_of_find?_eq_some found)⟩

/-- A release takes the item off, or leaves everything as it is. -/
theorem releaseConfigidMem_cases (invariant : IonInvariant state) (configid : UInt32)
    (world : SendWorld) :
    state.releaseConfigidMem configid world = state ∨
      ∃ front item back, state.items = front ++ item :: back ∧ item.configid = configid ∧
        Accepted item world ∧ state.releaseConfigidMem configid world =
          { state with
            items := front ++ back
            live := blocks front ++ blocks back
            tee := told front ++ told back } := by
  cases found : state.findMemitemByConfigid configid with
  | none =>
      left
      unfold IonState.releaseConfigidMem
      rw [found]
  | some item =>
      obtain ⟨named, front, back, split⟩ := findMemitemByConfigid_split found
      subst named
      by_cases accepted : Accepted item world
      · exact Or.inr ⟨front, item, back, split, rfl, accepted,
          releaseConfigidMem_accepted invariant split accepted⟩
      · exact Or.inl (releaseConfigidMem_refused found accepted)

theorem IonInvariant.without (invariant : IonInvariant state) {front back : List DynamicMemItem}
    {item : DynamicMemItem} (split : state.items = front ++ item :: back) :
    IonInvariant
      { state with
        items := front ++ back
        live := blocks front ++ blocks back
        tee := told front ++ told back } := by
  have kept : (front ++ back).Sublist state.items := by
    rw [split]
    exact (List.sublist_cons_self item back).append_left front
  have fewer : (blocks front ++ blocks back).Sublist state.live := by
    rw [invariant.live, split, blocks_append]
    apply List.Sublist.append_left
    exact (List.sublist_cons_self item back).filterMap _
  constructor
  · exact fun other member => invariant.tables other (kept.subset member)
  · exact invariant.configids.sublist (kept.map _)
  · exact invariant.addrs.sublist (kept.map _)
  · exact fun other member => invariant.addrsBelow other (kept.subset member)
  · exact (blocks_append front back).symm
  · exact invariant.once.sublist fewer
  · exact fun table member => invariant.tablesBelow table (fewer.subset member)
  · exact (told_append front back).symm
  · exact invariant.mailbox
  · exact invariant.badFree

theorem IonInvariant.release (invariant : IonInvariant state) (configid : UInt32)
    (world : SendWorld) : IonInvariant (state.releaseConfigidMem configid world) := by
  rcases releaseConfigidMem_cases invariant configid world with
    same | ⟨front, item, back, split, _, _, released⟩
  · rw [same]
    exact invariant
  · rw [released]
    exact invariant.without split

inductive Loads (state : IonState) (configid : UInt32) : Int × IonState → Prop where
  | failed {nextItem nextTable : Nat} {ret : Int} (error : ret ≠ 0)
      (itemGrows : state.nextItem ≤ nextItem) (tableGrows : state.nextTable ≤ nextTable) :
      Loads state configid (ret, { state with nextItem := nextItem, nextTable := nextTable })
  | listed {item : DynamicMemItem} {table : SgTable} (named : item.configid = configid)
      (addr : item.addr = state.nextItem) (has : item.dynSgTable = some table)
      (number : table.number = state.nextTable)
      (others : ∀ other ∈ state.items, other.configid ≠ configid) :
      Loads state configid
        (0, { state with
          items := state.items ++ [item]
          nextItem := state.nextItem + 1
          nextTable := state.nextTable + 1
          live := state.live ++ [table]
          tee := state.tee ++ [(configid, table)] })

theorem registerToTee_loads (invariant : IonInvariant state) {item : DynamicMemItem}
    {table : SgTable} {configid : UInt32} (named : item.configid = configid)
    (addr : item.addr = state.nextItem) (has : item.dynSgTable = some table)
    (number : table.number = state.nextTable)
    (found : state.findMemitemByConfigid configid = none) (world : SendWorld) :
    Loads state configid
      (IonState.registerToTee
        { state with
          nextItem := state.nextItem + 1
          nextTable := state.nextTable + 1
          live := state.live ++ [table] } item world) := by
  have fresh : table ∉ state.live := by
    intro member
    have below := invariant.tablesBelow table member
    omega
  have others : ∀ other ∈ state.items, other.configid ≠ configid := by
    intro other member same
    have missed := List.find?_eq_none.mp found other member
    rw [same] at missed
    exact missed (beq_self_eq_true configid)
  unfold IonState.registerToTee
  rcases sendDynIonCmd_cases _ item .addDynamicIon world with
    ⟨_, other, same, sent⟩ | ⟨_, ret, error, sent⟩
  · cases has.symm.trans same
    rw [sent, named]
    exact .listed named addr has number others
  · have back : (state.live ++ [table]).erase table = state.live := by
      rw [List.erase_append_right _ fresh, List.erase_cons_head, List.append_nil]
    rw [sent]
    simp only [ne_eq, error, not_false_eq_true, if_true, IonState.procFreeDynMem, has,
      List.mem_append, List.mem_singleton, or_true, back]
    exact .failed error (Nat.le_succ _) (Nat.le_succ _)

theorem transConfigid2memid_loads (invariant : IonInvariant state) (configid cafd : UInt32)
    (uuid : Uuid) (size : UInt32) (world : LoadWorld) :
    Loads state configid
      (state.transConfigid2memid defEng configid cafd uuid size world) := by
  unfold IonState.transConfigid2memid
  cases found : state.findMemitemByConfigid configid with
  | some item => exact .failed (by decide) (Nat.le_refl _) (Nat.le_refl _)
  | none =>
      unfold IonState.allocDynMemItem
      cases IonState.findDdrSecRegionByUuid defEng uuid with
      | none => exact .failed (by decide) (Nat.le_refl _) (Nat.le_refl _)
      | some region =>
          by_cases kzalloc : world.kzalloc = false
          · simp only [kzalloc, if_true]
            exact .failed (by decide) (Nat.le_refl _) (Nat.le_refl _)
          simp only [kzalloc, Bool.true_eq_false, if_false, IonState.procAllocDynMem]
          by_cases wraps : IonState.sizeWraps size = true
          · simp only [wraps, if_true]
            exact .failed (by decide) (Nat.le_succ _) (Nat.le_refl _)
          simp only [wraps, Bool.false_eq_true, if_false]
          cases world.mmSecmemAlloc with
          | none => exact .failed (by decide) (Nat.le_succ _) (Nat.le_refl _)
          | some nents =>
              refine registerToTee_loads invariant ?_ ?_ ?_ ?_ found world.send
              · rfl
              · rfl
              · rfl
              · rfl

theorem IonInvariant.loads {configid : UInt32} {result : Int × IonState}
    (invariant : IonInvariant state) (loads : Loads state configid result) :
    IonInvariant result.2 := by
  cases loads with
  | failed error itemGrows tableGrows =>
      constructor
      · exact invariant.tables
      · exact invariant.configids
      · exact invariant.addrs
      · exact fun item member => Nat.lt_of_lt_of_le (invariant.addrsBelow item member) itemGrows
      · exact invariant.live
      · exact invariant.once
      · exact fun table member => Nat.lt_of_lt_of_le (invariant.tablesBelow table member) tableGrows
      · exact invariant.tee
      · exact invariant.mailbox
      · exact invariant.badFree
  | listed named addr has number others =>
      rename_i item table
      constructor
      · intro other member
        rcases List.mem_append.mp member with old | new
        · exact invariant.tables other old
        · rw [List.mem_singleton.mp new, has]
          rfl
      · rw [List.map_append]
        apply List.Nodup.append invariant.configids (List.nodup_singleton _)
        intro id member same
        obtain ⟨other, inside, named'⟩ := List.mem_map.mp member
        apply others other inside
        rw [named', List.mem_singleton.mp same, named]
      · rw [IonState.addrs, List.map_append]
        apply List.Nodup.append invariant.addrs (List.nodup_singleton _)
        intro place member same
        obtain ⟨other, inside, here⟩ := List.mem_map.mp member
        have below := invariant.addrsBelow other inside
        rw [here, List.mem_singleton.mp same, addr] at below
        exact Nat.lt_irrefl _ below
      · intro other member
        rcases List.mem_append.mp member with old | new
        · exact Nat.lt_succ_of_lt (invariant.addrsBelow other old)
        · rw [List.mem_singleton.mp new, addr]
          exact Nat.lt_succ_self _
      · rw [blocks_append, blocks_cons has, ← invariant.live]
        rfl
      · apply List.Nodup.append invariant.once (List.nodup_singleton _)
        intro other member same
        have below := invariant.tablesBelow other member
        rw [List.mem_singleton.mp same, number] at below
        exact Nat.lt_irrefl _ below
      · intro other member
        rcases List.mem_append.mp member with old | new
        · exact Nat.lt_succ_of_lt (invariant.tablesBelow other old)
        · rw [List.mem_singleton.mp new, number]
          exact Nat.lt_succ_self _
      · rw [told_append, told_cons has, ← invariant.tee, named]
        rfl
      · exact invariant.mailbox
      · exact invariant.badFree

theorem IonInvariant.killPass (invariant : IonInvariant state) (cafd : UInt32)
    (worlds : Nat → SendWorld) (addr : Nat) :
    IonInvariant (state.killPass cafd worlds addr) := by
  unfold IonState.killPass
  split
  · exact invariant
  · split
    · exact invariant.release _ _
    · exact invariant

theorem item_of_configid (invariant : IonInvariant state) {item other : DynamicMemItem}
    (here : item ∈ state.items) (there : other ∈ state.items)
    (same : item.configid = other.configid) : item = other :=
  List.inj_on_of_nodup_map invariant.configids here there same

theorem item_of_addr (invariant : IonInvariant state) {item other : DynamicMemItem}
    (here : item ∈ state.items) (there : other ∈ state.items) (same : item.addr = other.addr) :
    item = other :=
  List.inj_on_of_nodup_map invariant.addrs here there same

theorem findMemitemByConfigid_self (invariant : IonInvariant state) {item : DynamicMemItem}
    (here : item ∈ state.items) : state.findMemitemByConfigid item.configid = some item := by
  cases found : state.findMemitemByConfigid item.configid with
  | none => exact absurd (beq_self_eq_true _) (List.find?_eq_none.mp found item here)
  | some other =>
      obtain ⟨named, front, back, split⟩ := findMemitemByConfigid_split found
      have there : other ∈ state.items := by
        rw [split]
        exact List.mem_append_right _ List.mem_cons_self
      rw [item_of_configid invariant there here named]

theorem killPass_cases (invariant : IonInvariant state) (cafd : UInt32)
    (worlds : Nat → SendWorld) (addr : Nat) :
    (state.killPass cafd worlds addr = state ∧
        ∀ item ∈ state.items, item.addr = addr → item.cafd = cafd →
          ¬Accepted item (worlds addr)) ∨
      ∃ front item back, state.items = front ++ item :: back ∧ item.addr = addr ∧
        item.cafd = cafd ∧ Accepted item (worlds addr) ∧
        state.killPass cafd worlds addr =
          { state with
            items := front ++ back
            live := blocks front ++ blocks back
            tee := told front ++ told back } := by
  unfold IonState.killPass
  cases found : state.items.find? fun item => item.addr == addr with
  | none =>
      left
      refine ⟨rfl, ?_⟩
      intro item member same
      have missed := List.find?_eq_none.mp found item member
      rw [same] at missed
      exact absurd (beq_self_eq_true addr) missed
  | some item =>
      have at_ := List.find?_some found
      rw [beq_iff_eq] at at_
      have here := List.mem_of_find?_eq_some found
      have only {other : DynamicMemItem} (member : other ∈ state.items)
          (same : other.addr = addr) : other = item :=
        item_of_addr invariant member here (same.trans at_.symm)
      dsimp only
      by_cases mine : item.cafd = cafd
      · rw [if_pos mine]
        by_cases accepted : Accepted item (worlds addr)
        · right
          obtain ⟨front, back, split⟩ := List.append_of_mem here
          exact ⟨front, item, back, split, at_, mine, accepted,
            releaseConfigidMem_accepted invariant split accepted⟩
        · left
          constructor
          · rcases releaseConfigidMem_cases invariant item.configid (worlds addr) with
              same | ⟨front, other, back, split, named, given, _⟩
            · exact same
            · have there : other ∈ state.items := by
                rw [split]
                exact List.mem_append_right _ List.mem_cons_self
              rw [item_of_configid invariant there here named] at given
              exact absurd given accepted
          · intro other member same _
            rw [only member same]
            exact accepted
      · rw [if_neg mine]
        left
        refine ⟨rfl, ?_⟩
        intro other member same owned
        rw [only member same] at owned
        exact absurd owned mine

theorem killPass_keepsOthers (cafd : UInt32) (worlds : Nat → SendWorld) :
    KeepsOthers IonInvariant IonState.addrs
      (fun addr state => state.killPass cafd worlds addr) := by
  intro addr state invariant
  refine ⟨invariant.killPass cafd worlds addr, ?_⟩
  dsimp only
  rcases killPass_cases invariant cafd worlds addr with
    ⟨same, _⟩ | ⟨front, item, back, split, at_, _, _, passed⟩
  · rw [same]
    exact Or.inl rfl
  · right
    have addrs := invariant.addrs
    rw [IonState.addrs, split, List.map_append, List.map_cons] at addrs
    have apart : item.addr ∉ front.map DynamicMemItem.addr := fun member =>
      (List.nodup_append.mp addrs).2.2 _ member _ List.mem_cons_self rfl
    rw [passed]
    simp only [IonState.addrs, split, List.map_append, List.map_cons]
    rw [← at_, List.erase_append_right _ apart, List.erase_cons_head]

/-- The walk reads no freed item; it makes its pass for each item that was on the list. -/
theorem killIonByCafd_eq (invariant : IonInvariant state) (cafd : UInt32)
    (worlds : Nat → SendWorld) :
    state.killIonByCafd cafd worlds =
      some (state.addrs.foldl (fun state addr => state.killPass cafd worlds addr) state) :=
  safeWalk_eq (killPass_keepsOthers cafd worlds) invariant invariant.addrs

theorem IonInvariant.killPasses (invariant : IonInvariant state) (cafd : UInt32)
    (worlds : Nat → SendWorld) (addrs : List Nat) :
    IonInvariant (addrs.foldl (fun state addr => state.killPass cafd worlds addr) state) := by
  induction addrs generalizing state with
  | nil => exact invariant
  | cons addr rest ih => exact ih (invariant.killPass cafd worlds addr)

theorem IonInvariant.exec (invariant : IonInvariant before) {label : IonLabel}
    (ran : before.exec defEng label = some after) : IonInvariant after := by
  cases label with
  | loadImageForIon configid cafd uuid ionSize world =>
      cases ran
      unfold IonState.loadImageForIon
      split
      · have loads : Loads before configid
            (before.transConfigid2memid defEng configid cafd uuid ionSize world) :=
          transConfigid2memid_loads invariant ..
        have kept := invariant.loads loads
        dsimp only
        split
        · exact kept
        · exact kept
      · exact invariant
  | killIonByUuid uuid world =>
      cases ran
      unfold IonState.killIonByUuid
      split
      · exact invariant
      · exact invariant.release _ _
  | killIonByCafd cafd worlds =>
      have walked := killIonByCafd_eq invariant cafd worlds
      rw [show before.killIonByCafd cafd worlds = some after from ran] at walked
      cases walked
      exact invariant.killPasses cafd worlds _

theorem ionInvariant_of_reachable (reached : (ionMachine defEng).Reachable state) :
    IonInvariant state := by
  apply reached.invariant
  · rintro start rfl
    constructor
    · exact fun item member => by cases member
    · exact List.nodup_nil
    · exact List.nodup_nil
    · exact fun item member => by cases member
    · rfl
    · exact List.nodup_nil
    · exact fun table member => by cases member
    · rfl
    · rfl
    · rfl
  · intro before label after invariant ran
    exact invariant.exec ran

end Invariant

/-! ### Runs -/

section Runs

variable {state : IonState} {defEng : Bool}

/-- After any loads and kills, whatever fails in them: a configid names one item, the driver holds
the blocks of its items and no others, the TEE knows these blocks under these configids and no
others, no block was given back twice, no mailbox buffer is left behind, and the next walk of
`kill_ion_by_cafd` reads no freed item. -/
theorem ion_blocks_agree (reached : (ionMachine defEng).Reachable state) :
    (state.items.map DynamicMemItem.configid).Nodup ∧ state.live.Nodup ∧
      (∀ table, table ∈ state.live ↔ ∃ item ∈ state.items, item.dynSgTable = some table) ∧
      (∀ configid table, (configid, table) ∈ state.tee ↔
        ∃ item ∈ state.items, item.configid = configid ∧ item.dynSgTable = some table) ∧
      state.badFree = false ∧ state.mailbox = 0 ∧
      ∀ cafd worlds, (state.killIonByCafd cafd worlds).isSome = true := by
  have invariant := ionInvariant_of_reachable reached
  refine ⟨invariant.configids, invariant.once, ?_, ?_, invariant.badFree, invariant.mailbox, ?_⟩
  · intro table
    rw [invariant.live]
    exact List.mem_filterMap
  · intro configid table
    rw [invariant.tee, told, List.mem_filterMap]
    constructor
    · rintro ⟨item, member, named⟩
      obtain ⟨found, has, same⟩ := Option.map_eq_some_iff.mp named
      cases same
      exact ⟨item, member, rfl, has⟩
    · rintro ⟨item, member, named, has⟩
      refine ⟨item, member, ?_⟩
      rw [has, ← named]
      rfl
  · intro cafd worlds
    rw [killIonByCafd_eq invariant]
    rfl

theorem killPasses_items (invariant : IonInvariant state) (cafd : UInt32)
    (worlds : Nat → SendWorld) {done rest : List DynamicMemItem}
    (here : state.items = done ++ rest) :
    ((rest.map DynamicMemItem.addr).foldl
        (fun state addr => state.killPass cafd worlds addr) state).items =
      done ++ rest.filter fun item =>
        !decide (item.cafd = cafd ∧ Accepted item (worlds item.addr)) := by
  induction rest generalizing state done with
  | nil => exact here
  | cons item rest ih =>
      have member : item ∈ state.items := by
        rw [here]
        exact List.mem_append_right _ List.mem_cons_self
      rw [List.map_cons, List.foldl_cons]
      rcases killPass_cases invariant cafd worlds item.addr with
        ⟨same, refused⟩ | ⟨front, other, back, split, at_, mine, accepted, passed⟩
      · have kept : ¬(item.cafd = cafd ∧ Accepted item (worlds item.addr)) :=
          fun ⟨mine, accepted⟩ => refused item member rfl mine accepted
        rw [same, ih invariant (here.trans (List.append_cons done item rest)),
          List.filter_cons_of_pos (by simp [kept]), ← List.append_cons]
      · have there : other ∈ state.items := by
          rw [split]
          exact List.mem_append_right _ List.mem_cons_self
        cases item_of_addr invariant there member at_
        have once := invariant.addrs.of_map
        rw [split, List.nodup_append, List.nodup_cons] at once
        obtain ⟨_, ⟨notBack, _⟩, apart⟩ := once
        have notFront : item ∉ front := fun inside =>
          apart item inside item List.mem_cons_self rfl
        obtain ⟨rfl, _, rfl⟩ :=
          (List.append_cons_inj_of_notMem notFront notBack).mp (split.symm.trans here)
        rw [List.filter_cons_of_neg (by simp [mine, accepted]), passed]
        exact ih (invariant.without split) rfl

/-- Closing a file gives back the blocks of its items that the TEE lets go, and leaves every other
item in its place. -/
theorem kill_ion_by_cafd_items (reached : (ionMachine defEng).Reachable state) (cafd : UInt32)
    (worlds : Nat → SendWorld) :
    (state.killIonByCafd cafd worlds).map IonState.items =
      some (state.items.filter fun item =>
        !decide (item.cafd = cafd ∧ Accepted item (worlds item.addr))) := by
  have invariant := ionInvariant_of_reachable reached
  rw [killIonByCafd_eq invariant, Option.map_some, IonState.addrs,
    killPasses_items invariant cafd worlds (List.nil_append _).symm, List.nil_append]

/-- A kill by uuid, after a crash of the application, leaves nothing of it if and only if it had
one item at most and the TEE lets this go: the second item of an application stays. -/
theorem kill_ion_by_uuid_clears_iff (reached : (ionMachine defEng).Reachable state) (uuid : Uuid)
    (world : SendWorld) :
    (∀ item ∈ (state.killIonByUuid uuid world).items, item.uuid ≠ uuid) ↔
      ∀ item ∈ state.items, item.uuid = uuid →
        Accepted item world ∧ ∀ other ∈ state.items, other.uuid = uuid → other = item := by
  have invariant := ionInvariant_of_reachable reached
  unfold IonState.killIonByUuid
  cases found : state.findMemitemByUuid uuid with
  | none =>
      have absent : ∀ item ∈ state.items, item.uuid ≠ uuid := by
        intro item member same
        exact List.find?_eq_none.mp found item member (decide_eq_true same)
      exact ⟨fun _ item member same => absurd same (absent item member), fun _ => absent⟩
  | some first =>
      have here := List.mem_of_find?_eq_some found
      have matched := List.find?_some found
      have named : first.uuid = uuid := of_decide_eq_true matched
      dsimp only
      by_cases accepted : Accepted first world
      · obtain ⟨front, back, split⟩ := List.append_of_mem here
        have once := invariant.addrs.of_map
        rw [split, List.nodup_append, List.nodup_cons] at once
        obtain ⟨_, ⟨notBack, _⟩, apart⟩ := once
        have notFront : first ∉ front := fun inside =>
          apart first inside first List.mem_cons_self rfl
        rw [releaseConfigidMem_accepted invariant split accepted]
        constructor
        · intro cleared item member same
          have only {other : DynamicMemItem} (listed : other ∈ state.items)
              (its : other.uuid = uuid) : other = first := by
            rw [split] at listed
            rcases List.mem_append.mp listed with before | behind
            · exact absurd its (cleared other (List.mem_append_left _ before))
            · rcases List.mem_cons.mp behind with equal | after
              · exact equal
              · exact absurd its (cleared other (List.mem_append_right _ after))
          rw [only member same]
          exact ⟨accepted, fun other listed its => only listed its⟩
        · intro single item member same
          have listed : item ∈ state.items := by
            rw [split]
            rcases List.mem_append.mp member with before | behind
            · exact List.mem_append_left _ before
            · exact List.mem_append_right _ (List.mem_cons_of_mem _ behind)
          have equal := (single first here named).2 item listed same
          subst equal
          rcases List.mem_append.mp member with before | behind
          · exact notFront before
          · exact notBack behind
      · rw [releaseConfigidMem_refused (findMemitemByConfigid_self invariant here) accepted]
        constructor
        · intro cleared
          exact absurd named (cleared first here)
        · intro single
          exact absurd (single first here named).1 accepted

end Runs

/-! ### Two blocks of one application -/

def grantedSend : SendWorld := ⟨true, true, true, 0⟩

/-- Two loads of one application, with two configids, for one file. -/
def twoLoads : List IonLabel :=
  [.loadImageForIon 7 3 teeServiceAi 4096 ⟨true, some 1, grantedSend⟩,
    .loadImageForIon 8 3 teeServiceAi 4096 ⟨true, some 1, grantedSend⟩]

def loadedItem (addr : Nat) (configid : UInt32) : DynamicMemItem :=
  ⟨addr, configid, 4096, 3, teeServiceAi, .secAiIon, some ⟨addr, 1, 0x10000⟩⟩

def loaded : IonState :=
  ⟨[loadedItem 0 7, loadedItem 1 8], 2, 2, [⟨0, 1, 0x10000⟩, ⟨1, 1, 0x10000⟩], 0,
    [(7, ⟨0, 1, 0x10000⟩), (8, ⟨1, 1, 0x10000⟩)], false⟩

theorem loaded_reachable : (ionMachine false).Reachable loaded := by
  have ran : Machine.replay (IonState.exec false) .initial twoLoads = some loaded := by decide
  exact Machine.Reachable.of_replay (fun _ _ _ same => same) (.start rfl) ran

theorem ion_blocks_agree_two :
    (8, ⟨1, 1, 0x10000⟩) ∈ loaded.tee ∧
      ∃ item ∈ loaded.items, item.configid = 8 ∧ item.dynSgTable = some ⟨1, 1, 0x10000⟩ := by
  have agree := (ion_blocks_agree loaded_reachable).2.2.2.1 8 ⟨1, 1, 0x10000⟩
  have member : (8, ⟨1, 1, 0x10000⟩) ∈ loaded.tee := by decide
  exact ⟨member, agree.mp member⟩

/-- The TEE keeps the second block. -/
theorem kill_ion_by_cafd_items_kept :
    (loaded.killIonByCafd 3 fun addr => ⟨true, true, true, if addr = 1 then 1 else 0⟩).map
      IonState.items = some [loadedItem 1 8] := by
  rw [kill_ion_by_cafd_items loaded_reachable]
  decide

theorem kill_ion_by_uuid_clears_iff_second :
    ¬∀ item ∈ (loaded.killIonByUuid teeServiceAi grantedSend).items, item.uuid ≠ teeServiceAi := by
  rw [kill_ion_by_uuid_clears_iff loaded_reachable]
  decide

end TzDriver.Ion
