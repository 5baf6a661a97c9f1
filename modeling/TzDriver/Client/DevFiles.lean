/-
The ids of the device files (`alloc_dev_bitmap`, `tc_ns_client_open`, `free_dev` and
`tc_find_dev_file` of `linux/core/tc_client_driver.c`).

The TEE and the other files of the driver know an open file by its id.  An id and the place on
the list are taken and given back under two locks, one after the other, by any number of threads.
-/

import Mathlib.Data.List.Nodup
import TzDriver.Lib.Bitmap
import TzDriver.Lib.Runs
import TzDriver.Platform

namespace TzDriver.Client

open TzDriver.Lib

def devFileIdMax : Nat := 32768

inductive FilePlace where
  /-- it has its id and is not yet on the list -/
  | opening
  | listed
  /-- it is off the list and still has its id -/
  | closing
deriving DecidableEq, Repr

/-- `struct tc_ns_dev_file` by its address and its id. -/
structure TcNsDevFile where
  addr : Nat
  devFileId : Nat
  place : FilePlace
deriving DecidableEq, Repr

/-- `bitMap` is `g_dev_bit_map`, `devFileList` the list of `g_tc_ns_dev_list`; `files` has every
structure from its id on. -/
structure DevFiles where
  bitMap : Option (Nat → Bool)
  files : List TcNsDevFile
  devFileList : List Nat
  nextAddr : Nat

namespace DevFiles

variable (devs : DevFiles)

def initial : DevFiles := ⟨none, [], [], 0⟩

def ids : List Nat := devs.files.map TcNsDevFile.devFileId

/-- The places that a file moves between, under the other fields unchanged. -/
def moves (addr : Nat) (place : FilePlace) : List TcNsDevFile :=
  devs.files.map fun file => if file.addr = addr then { file with place := place } else file

def fileAt (addr : Nat) (place : FilePlace) : Option TcNsDevFile :=
  devs.files.find? fun file => file.addr == addr && file.place == place

def allocDevBitmap (bitmapAlloc : Bool) : Int × DevFiles :=
  match devs.bitMap with
  | some _ => (0, devs)
  | none =>
      if bitmapAlloc = false then (-1, devs)
      else (0, { devs with bitMap := some fun _ => false })

/-- `alloc_dev_file_id`, with the bitmap it leaves. -/
def allocDevFileId : Option (Nat × (Nat → Bool)) :=
  match devs.bitMap with
  | none => none
  | some bits =>
      match Bitmap.firstClear bits devFileIdMax 0 with
      | none => none
      | some pos => some (pos, Bitmap.set bits pos true)

/-- `tc_ns_client_open` up to the id. -/
def tcNsClientOpen (kzalloc : Bool) : Int × DevFiles :=
  if kzalloc = false then (-eNoMem, devs)
  else
    match devs.allocDevFileId with
    | none => (-eNoMem, devs)
    | some (devFileId, bits) =>
        (0, { devs with bitMap := some bits
                        files := devs.files ++ [⟨devs.nextAddr, devFileId, .opening⟩]
                        nextAddr := devs.nextAddr + 1 })

def listAddTail (addr : Nat) : DevFiles :=
  { devs with files := devs.moves addr .listed, devFileList := devs.devFileList ++ [addr] }

def delDevNode (addr : Nat) : DevFiles :=
  { devs with files := devs.moves addr .closing, devFileList := devs.devFileList.erase addr }

/-- `free_dev_file_id` and `kfree`. -/
def freeDevFileId (file : TcNsDevFile) : DevFiles :=
  { devs with
    bitMap := devs.bitMap.map fun bits =>
      if file.devFileId < devFileIdMax then Bitmap.set bits file.devFileId false else bits
    files := devs.files.erase file }

/-- What `tc_find_dev_file` reads at an address of the list. -/
def idAt (addr : Nat) : Option Nat :=
  (devs.files.find? fun file => file.addr == addr).map TcNsDevFile.devFileId

def tcFindDevFile (devFileId : Nat) : Option Nat :=
  devs.devFileList.find? fun addr => devs.idAt addr == some devFileId

end DevFiles

inductive DevLabel where
  | allocDevBitmap (bitmapAlloc : Bool)
  | tcNsClientOpen (kzalloc : Bool)
  | listAddTail (addr : Nat)
  | delDevNode (addr : Nat)
  | freeDevFileId (addr : Nat)

def DevFiles.exec (devs : DevFiles) : DevLabel → Option DevFiles
  | .allocDevBitmap bitmapAlloc => some (devs.allocDevBitmap bitmapAlloc).2
  | .tcNsClientOpen kzalloc => some (devs.tcNsClientOpen kzalloc).2
  | .listAddTail addr => (devs.fileAt addr .opening).map fun _ => devs.listAddTail addr
  | .delDevNode addr => (devs.fileAt addr .listed).map fun _ => devs.delDevNode addr
  | .freeDevFileId addr => (devs.fileAt addr .closing).map devs.freeDevFileId

def devMachine : Machine DevFiles DevLabel :=
  { init := fun devs => devs = .initial
    step := fun before label after => before.exec label = some after }

/-! ### Ids and addresses -/

namespace DevFiles

variable {devs after : DevFiles}

structure Sound (devs : DevFiles) : Prop where
  ids : ∀ bits, devs.bitMap = some bits → Bitmap.Out bits devFileIdMax devs.ids
  noBits : devs.bitMap = none → devs.files = []
  addrs : (devs.files.map TcNsDevFile.addr).Nodup
  fresh : ∀ file ∈ devs.files, file.addr < devs.nextAddr
  once : devs.devFileList.Nodup
  listed : ∀ addr, addr ∈ devs.devFileList ↔
    ∃ file ∈ devs.files, file.addr = addr ∧ file.place = .listed

theorem fileAt_some {addr : Nat} {place : FilePlace} {file : TcNsDevFile}
    (found : devs.fileAt addr place = some file) :
    file ∈ devs.files ∧ file.addr = addr ∧ file.place = place := by
  have passes := List.find?_some found
  rw [Bool.and_eq_true, beq_iff_eq, beq_iff_eq] at passes
  exact ⟨List.mem_of_find?_eq_some found, passes⟩

theorem Sound.same_file (sound : devs.Sound) {file other : TcNsDevFile}
    (member : file ∈ devs.files) (otherMember : other ∈ devs.files)
    (same : file.addr = other.addr) : file = other :=
  List.inj_on_of_nodup_map sound.addrs member otherMember same

theorem map_moves {Field : Type} (field : TcNsDevFile → Field) (addr : Nat) (place : FilePlace)
    (kept : ∀ file : TcNsDevFile, field { file with place := place } = field file) :
    (devs.moves addr place).map field = devs.files.map field := by
  unfold moves
  rw [List.map_map]
  apply List.map_congr_left
  intro file _
  rw [Function.comp_apply]
  split
  · exact kept file
  · rfl

theorem mem_moves {addr : Nat} {place : FilePlace} {file : TcNsDevFile} :
    file ∈ devs.moves addr place ↔ ∃ old ∈ devs.files,
      (if old.addr = addr then { old with place := place } else old) = file :=
  List.mem_map

theorem listed_moves {addr other : Nat} {place : FilePlace} {file : TcNsDevFile}
    (member : file ∈ devs.files) (here : file.addr = addr) :
    (∃ moved ∈ devs.moves addr place, moved.addr = other ∧ moved.place = .listed) ↔
      if other = addr then place = .listed
      else ∃ old ∈ devs.files, old.addr = other ∧ old.place = .listed := by
  constructor
  · rintro ⟨moved, inMoves, same, listed⟩
    obtain ⟨old, before, rfl⟩ := mem_moves.mp inMoves
    split at same
    · next own =>
        rw [if_pos own] at listed
        rw [if_pos (same.symm.trans own)]
        exact listed
    · next different =>
        rw [if_neg different] at listed
        rw [if_neg fun own => different (same.trans own)]
        exact ⟨old, before, same, listed⟩
  · split
    · next own =>
        intro listed
        refine ⟨{ file with place := place }, mem_moves.mpr ⟨file, member, if_pos here⟩, ?_, listed⟩
        exact here.trans own.symm
    · next different =>
        rintro ⟨old, before, same, listed⟩
        have elsewhere : ¬old.addr = addr := fun own => different (same.symm.trans own)
        exact ⟨old, mem_moves.mpr ⟨old, before, if_neg elsewhere⟩, same, listed⟩

theorem Sound.moves (sound : devs.Sound) (addr : Nat) (place : FilePlace) (list : List Nat)
    (once : list.Nodup)
    (listed : ∀ other, other ∈ list ↔
      ∃ file ∈ devs.moves addr place, file.addr = other ∧ file.place = .listed) :
    ({ devs with files := devs.moves addr place, devFileList := list } : DevFiles).Sound := by
  have addrs := @map_moves devs _ TcNsDevFile.addr addr place fun _ => rfl
  constructor
  · intro bits same
    have ids := @map_moves devs _ TcNsDevFile.devFileId addr place fun _ => rfl
    rw [DevFiles.ids, ids]
    exact sound.ids bits same
  · intro none
    show devs.files.map _ = []
    rw [sound.noBits none, List.map_nil]
  · show ((devs.moves addr place).map TcNsDevFile.addr).Nodup
    rw [addrs]
    exact sound.addrs
  · intro file member
    have inAddrs : file.addr ∈ devs.files.map TcNsDevFile.addr := by
      rw [← addrs]
      exact List.mem_map_of_mem member
    obtain ⟨old, before, same⟩ := List.mem_map.mp inAddrs
    rw [← same]
    exact sound.fresh old before
  · exact once
  · exact listed

theorem tcNsClientOpen_sound (sound : devs.Sound) (kzalloc : Bool) :
    (devs.tcNsClientOpen kzalloc).2.Sound := by
  unfold tcNsClientOpen
  split
  · exact sound
  · unfold allocDevFileId
    cases map : devs.bitMap with
    | none => exact sound
    | some bits =>
        dsimp only
        cases finds : Bitmap.firstClear bits devFileIdMax 0 with
        | none => exact sound
        | some pos =>
            dsimp only
            have fresh : devs.nextAddr ∉ devs.files.map TcNsDevFile.addr := by
              intro member
              obtain ⟨file, old, same⟩ := List.mem_map.mp member
              have below := sound.fresh file old
              omega
            constructor
            · intro after same
              cases same
              show Bitmap.Out _ _ ((devs.files ++ [_]).map TcNsDevFile.devFileId)
              rw [List.map_append]
              exact (sound.ids bits map).take finds
            · rintro ⟨⟩
            · show ((devs.files ++ [_]).map TcNsDevFile.addr).Nodup
              rw [List.map_append, List.nodup_append_comm]
              exact List.nodup_cons.mpr ⟨fresh, sound.addrs⟩
            · intro file member
              rcases List.mem_append.mp member with old | new
              · exact Nat.lt_succ_of_lt (sound.fresh file old)
              · rw [List.mem_singleton.mp new]
                exact Nat.lt_succ_self _
            · exact sound.once
            · intro addr
              rw [sound.listed addr]
              constructor
              · rintro ⟨file, old, facts⟩
                exact ⟨file, List.mem_append_left _ old, facts⟩
              · rintro ⟨file, member, same, listed⟩
                rcases List.mem_append.mp member with old | new
                · exact ⟨file, old, same, listed⟩
                · rw [List.mem_singleton.mp new] at listed
                  cases listed

theorem listAddTail_sound (sound : devs.Sound) {addr : Nat} {file : TcNsDevFile}
    (found : devs.fileAt addr .opening = some file) : (devs.listAddTail addr).Sound := by
  obtain ⟨member, here, opening⟩ := fileAt_some found
  have absent : addr ∉ devs.devFileList := by
    intro inList
    obtain ⟨other, otherMember, same, listed⟩ := (sound.listed addr).mp inList
    rw [sound.same_file otherMember member (same.trans here.symm), opening] at listed
    cases listed
  apply sound.moves addr .listed
  · rw [List.nodup_append_comm]
    exact List.nodup_cons.mpr ⟨absent, sound.once⟩
  · intro other
    rw [listed_moves member here, List.mem_append, List.mem_singleton, sound.listed other]
    split
    · next own => exact iff_of_true (.inr own) rfl
    · next different => exact ⟨fun either => either.resolve_right different, .inl⟩

theorem delDevNode_sound (sound : devs.Sound) {addr : Nat} {file : TcNsDevFile}
    (found : devs.fileAt addr .listed = some file) : (devs.delDevNode addr).Sound := by
  obtain ⟨member, here, _⟩ := fileAt_some found
  apply sound.moves addr .closing
  · exact sound.once.erase addr
  · intro other
    rw [listed_moves member here, sound.once.mem_erase_iff, sound.listed other]
    split
    · next own => exact iff_of_false (fun both => both.1 own) FilePlace.noConfusion
    · next different => exact ⟨And.right, fun listed => ⟨different, listed⟩⟩

theorem freeDevFileId_sound (sound : devs.Sound) {addr : Nat} {file : TcNsDevFile}
    (found : devs.fileAt addr .closing = some file) : (devs.freeDevFileId file).Sound := by
  obtain ⟨member, _, closing⟩ := fileAt_some found
  have order : devs.files.Perm (file :: devs.files.erase file) := List.perm_cons_erase member
  constructor
  · intro bits same
    obtain ⟨before, map, rfl⟩ := Option.map_eq_some_iff.mp same
    have out := sound.ids before map
    have below : file.devFileId < devFileIdMax :=
      out.below file.devFileId (List.mem_map_of_mem member)
    rw [if_pos below]
    apply out.giveBack.of_perm
    have idsOrder : (devs.ids.erase file.devFileId).Perm
        ((file.devFileId :: (devs.files.erase file).map TcNsDevFile.devFileId).erase
          file.devFileId) := (order.map TcNsDevFile.devFileId).erase file.devFileId
    rw [List.erase_cons_head] at idsOrder
    exact idsOrder
  · intro none
    have empty := sound.noBits (Option.map_eq_none_iff.mp none)
    rw [empty] at member
    cases member
  · exact sound.addrs.sublist (List.erase_sublist.map _)
  · intro other still
    exact sound.fresh other (List.mem_of_mem_erase still)
  · exact sound.once
  · intro other
    show other ∈ devs.devFileList ↔ _
    rw [sound.listed other]
    constructor
    · rintro ⟨old, before, same, listed⟩
      have different : old ≠ file := by
        rintro rfl
        rw [closing] at listed
        cases listed
      exact ⟨old, (List.mem_erase_of_ne different).mpr before, same, listed⟩
    · rintro ⟨old, still, facts⟩
      exact ⟨old, List.mem_of_mem_erase still, facts⟩

theorem allocDevBitmap_sound (sound : devs.Sound) (bitmapAlloc : Bool) :
    (devs.allocDevBitmap bitmapAlloc).2.Sound := by
  unfold allocDevBitmap
  cases map : devs.bitMap with
  | some bits => exact sound
  | none =>
      dsimp only
      split
      · exact sound
      · have empty := sound.noBits map
        constructor
        · rintro bits ⟨⟩
          show Bitmap.Out _ _ (devs.files.map TcNsDevFile.devFileId)
          rw [empty]
          exact .initial devFileIdMax
        · intro _
          exact empty
        · exact sound.addrs
        · exact sound.fresh
        · exact sound.once
        · exact sound.listed

theorem Sound.exec (sound : devs.Sound) {label : DevLabel}
    (taken : devs.exec label = some after) : after.Sound := by
  cases label with
  | allocDevBitmap bitmapAlloc =>
      cases taken
      exact allocDevBitmap_sound sound bitmapAlloc
  | tcNsClientOpen kzalloc =>
      cases taken
      exact tcNsClientOpen_sound sound kzalloc
  | listAddTail addr =>
      obtain ⟨file, found, rfl⟩ := Option.map_eq_some_iff.mp taken
      exact listAddTail_sound sound found
  | delDevNode addr =>
      obtain ⟨file, found, rfl⟩ := Option.map_eq_some_iff.mp taken
      exact delDevNode_sound sound found
  | freeDevFileId addr =>
      obtain ⟨file, found, rfl⟩ := Option.map_eq_some_iff.mp taken
      exact freeDevFileId_sound sound found

theorem initial_sound : initial.Sound := by
  constructor
  · rintro bits ⟨⟩
  · intro _
    rfl
  · exact List.nodup_nil
  · rintro file ⟨⟩
  · exact List.nodup_nil
  · intro addr
    apply iff_of_false List.not_mem_nil
    rintro ⟨file, member, _⟩
    cases member

theorem Sound.of_reachable (reached : devMachine.Reachable devs) : devs.Sound := by
  apply reached.invariant
  · rintro _ rfl
    exact initial_sound
  · intro before label after sound taken
    exact sound.exec taken

/-! ### Looking up a file -/

theorem Sound.idAt (sound : devs.Sound) {file : TcNsDevFile} (member : file ∈ devs.files) :
    devs.idAt file.addr = some file.devFileId := by
  unfold DevFiles.idAt
  cases found : devs.files.find? fun other => other.addr == file.addr with
  | none =>
      have absent := List.find?_eq_none.mp found file member
      rw [beq_self_eq_true] at absent
      exact absurd rfl absent
  | some other =>
      have passes := List.find?_some found
      have same : other.addr = file.addr := beq_iff_eq.mp passes
      rw [sound.same_file (List.mem_of_find?_eq_some found) member same, Option.map_some]

theorem Sound.distinct (sound : devs.Sound) : devs.ids.Nodup := by
  cases map : devs.bitMap with
  | some bits => exact (sound.ids bits map).distinct
  | none =>
      rw [DevFiles.ids, sound.noBits map]
      exact List.nodup_nil

/-- An id leads to the one file on the list that has it. -/
theorem Sound.tcFindDevFile_iff (sound : devs.Sound) (devFileId addr : Nat) :
    devs.tcFindDevFile devFileId = some addr ↔
      ∃ file ∈ devs.files, file.addr = addr ∧ file.place = .listed ∧
        file.devFileId = devFileId := by
  have soundFind : ∀ found, devs.tcFindDevFile devFileId = some found →
      ∃ file ∈ devs.files, file.addr = found ∧ file.place = .listed ∧
        file.devFileId = devFileId := by
    intro found finds
    have inList := List.mem_of_find?_eq_some finds
    obtain ⟨file, member, rfl, listed⟩ := (sound.listed found).mp inList
    have passes := List.find?_some finds
    rw [sound.idAt member, beq_iff_eq] at passes
    exact ⟨file, member, rfl, listed, Option.some.inj passes⟩
  constructor
  · exact soundFind addr
  · rintro ⟨file, member, rfl, listed, rfl⟩
    have inList : file.addr ∈ devs.devFileList :=
      (sound.listed file.addr).mpr ⟨file, member, rfl, listed⟩
    cases finds : devs.tcFindDevFile file.devFileId with
    | none =>
        have absent := List.find?_eq_none.mp finds file.addr inList
        rw [sound.idAt member, beq_self_eq_true] at absent
        exact absurd rfl absent
    | some found =>
        obtain ⟨other, otherMember, rfl, _, sameId⟩ := soundFind found finds
        rw [List.inj_on_of_nodup_map sound.distinct otherMember member sameId]

/-- No id is given out only while there is no bitmap or every id is out. -/
theorem Sound.allocDevFileId_iff (sound : devs.Sound) :
    devs.allocDevFileId = none ↔ devs.bitMap = none ∨ devs.files.length = devFileIdMax := by
  unfold allocDevFileId
  cases map : devs.bitMap with
  | none => exact iff_of_true rfl (.inl rfl)
  | some bits =>
      have full := (sound.ids bits map).full_iff
      rw [DevFiles.ids, List.length_map] at full
      dsimp only
      cases finds : Bitmap.firstClear bits devFileIdMax 0 with
      | none => exact iff_of_true rfl (.inr (full.mp finds))
      | some pos =>
          apply iff_of_false
          · rintro ⟨⟩
          · rintro (impossible | complete)
            · cases impossible
            · rw [full.mpr complete] at finds
              cases finds

end DevFiles

/-- However opens and closes are interleaved: no two files have one id, from before a file is on
the list until after it has left it; an id leads to the file on the list that has it and to no
other; and an open fails for want of an id only before the bitmap exists or while all
`DEV_FILE_ID_MAX` ids are out. -/
theorem dev_file_ids {devs : DevFiles} (reached : devMachine.Reachable devs) :
    devs.ids.Nodup ∧
      (∀ devFileId addr, devs.tcFindDevFile devFileId = some addr ↔
        ∃ file ∈ devs.files, file.addr = addr ∧ file.place = .listed ∧
          file.devFileId = devFileId) ∧
      (devs.allocDevFileId = none ↔
        devs.bitMap = none ∨ devs.files.length = devFileIdMax) := by
  have sound := DevFiles.Sound.of_reachable reached
  exact ⟨sound.distinct, sound.tcFindDevFile_iff, sound.allocDevFileId_iff⟩

/-- Two files are opened, the first one goes, and its id is given out again. -/
def reopenedRun : List DevLabel :=
  [.tcNsClientOpen true, .allocDevBitmap true, .tcNsClientOpen true, .tcNsClientOpen true,
    .listAddTail 1, .listAddTail 0, .delDevNode 0, .freeDevFileId 0, .tcNsClientOpen true,
    .listAddTail 2]

theorem dev_file_ids_reopened :
    ∃ devs : DevFiles, devs.files = [⟨1, 1, .listed⟩, ⟨2, 0, .listed⟩] ∧
      devs.ids.Nodup ∧
        (∀ devFileId addr, devs.tcFindDevFile devFileId = some addr ↔
          ∃ file ∈ devs.files, file.addr = addr ∧ file.place = .listed ∧
            file.devFileId = devFileId) ∧
        (devs.allocDevFileId = none ↔
          devs.bitMap = none ∨ devs.files.length = devFileIdMax) := by
  have sound : ∀ before label after, DevFiles.exec before label = some after →
      devMachine.step before label after := fun _ _ _ ran => ran
  have booted : devMachine.Reachable .initial := .start rfl
  have ran : (Machine.replay DevFiles.exec .initial reopenedRun).map (fun devs =>
      decide (devs.files = [⟨1, 1, .listed⟩, ⟨2, 0, .listed⟩])) = some true := by decide
  obtain ⟨devs, reached, files⟩ := Machine.Reachable.exists_of_replay sound booted ran
  exact ⟨devs, of_decide_eq_true files, dev_file_ids reached⟩

end TzDriver.Client
