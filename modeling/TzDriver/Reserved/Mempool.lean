/-
The reserved memory pool (`linux/core/reserved_mempool.c`), a second buddy
allocator over memory that the device tree sets aside.

As in the mailbox pool, `pages` is the descriptor array and `freeAreas` holds one
list of page indexes per order.  The zone exists: without reserved memory no entry
point is called.  Each call runs under `g_res_lock`, so a call is one step.
-/

import TzDriver.Mailbox.Mempool

namespace TzDriver.Reserved

open TzDriver.Mailbox

/-- `g_res_zone` with `g_res_max_order`, `get_res_page_size()` and
`g_start_vaddr`.  `struct reserved_page_t` has the fields of `struct mb_page_t`. -/
structure Zone where
  resMaxOrder : Nat
  resPageSize : Nat
  startVaddr : Nat
  pages : Nat → MbPage
  freeAreas : Nat → List Nat

namespace Zone

variable (zone : Zone)

def setPage (index : Nat) (page : MbPage) : Zone :=
  { zone with pages := Function.update zone.pages index page }

def setOrder (index : Nat) (order : Int) : Zone :=
  zone.setPage index { order := order, count := (zone.pages index).count }

def setCount (index count : Nat) : Zone :=
  zone.setPage index { order := (zone.pages index).order, count := count }

def listAddTail (area index : Nat) : Zone :=
  { zone with freeAreas :=
      Function.update zone.freeAreas area (zone.freeAreas area ++ [index]) }

def listDel (index : Nat) : Zone :=
  { zone with freeAreas := fun area => (zone.freeAreas area).filter (· != index) }

def pageStart (index : Nat) : Nat :=
  zone.startVaddr + sz4K * index

/-! ### Allocating -/

def splitLoop (zone : Zone) (pos : Nat) : List Nat → Zone
  | [] => zone
  | order :: rest =>
      let newPage := pos + 2 ^ order
      splitLoop ((zone.setPage newPage { order := order, count := 0 }).listAddTail
        order newPage) pos rest

def takeBlock (order area pos : Nat) : Zone :=
  ((zone.setPage pos { order := order, count := 1 }).splitLoop pos
    (List.range' order (area - order))).listDel pos

def searchAreas (order : Nat) : List Nat → Zone × Option Nat
  | [] => (zone, none)
  | area :: rest =>
      match zone.freeAreas area with
      | [] => searchAreas order rest
      | pos :: _ => (zone.takeBlock order area pos, some pos)

/-- `reserved_mem_alloc(size)`; `none` is a NULL result. -/
def reservedMemAlloc (size : Nat) : Zone × Option Nat :=
  let order := getOrder (align4K size)
  if size > 0 ∧ order ≤ zone.resMaxOrder then
    let found := zone.searchAreas order (List.range' order (zone.resMaxOrder + 1 - order))
    (found.1, found.2.map found.1.pageStart)
  else (zone, none)

/-! ### Freeing -/

/-- `get_virt_page_index`; the quotient is cut to an `int`. -/
def getVirtPageIndex (ptr : Nat) : Option Nat :=
  let offset := (ptr + 2 ^ 64 - zone.startVaddr) % 2 ^ 64
  let pgIdx := offset / sz4K % 2 ^ 32
  if pgIdx ≥ zone.resPageSize ∨ pgIdx ≥ 2 ^ 31 then none else some pgIdx

/-- The loop of `buddy_merge` and what follows it.  `last` holds `cur_idx` and
`buddy_idx` of the iteration before, if there was one; the result is `page_index`,
or `none` where the block was released at its own order. -/
def buddyMerge : Nat → Zone → Nat → Nat → Option (Nat × Nat) → Zone × Option Nat
  | 0, zone, vpage, _, none => (zone, some vpage)
  | 0, zone, _, _, some (curIdx, buddyIdx) =>
      (zone, some (if curIdx > buddyIdx then buddyIdx else curIdx))
  | left + 1, zone, curIdx, order, _ =>
      let buddyIdx := curIdx ^^^ 2 ^ order
      let buddy := zone.pages buddyIdx
      let cleared := zone.setCount curIdx 0
      if buddy.order = order ∧ buddy.count = 0 then
        let unlinked := cleared.listDel buddyIdx
        if curIdx > buddyIdx then
          buddyMerge left ((unlinked.setOrder buddyIdx (order + 1)).setOrder curIdx (-1))
            buddyIdx (order + 1) (some (curIdx, buddyIdx))
        else
          buddyMerge left ((unlinked.setOrder curIdx (order + 1)).setOrder buddyIdx (-1))
            curIdx (order + 1) (some (curIdx, buddyIdx))
      else (cleared.listAddTail order curIdx, none)

/-- The end of `reserved_mem_free`: a block of the maximal order is hung back by its
caller. -/
def hangBack : Zone × Option Nat → Zone
  | (after, none) => after
  | (after, some pageIndex) => after.listAddTail after.resMaxOrder pageIndex

def reservedMemFree (ptr : Nat) : Zone :=
  if ptr = 0 then zone
  else
    match zone.getVirtPageIndex ptr with
    | none => zone
    | some selfIdx =>
        let self := zone.pages selfIdx
        if self.count = 0 then zone
        else
          let order := self.order.toNat
          hangBack (buddyMerge (zone.resMaxOrder - order) zone selfIdx order none)

/-- `create_zone` and `zone_init` over `resMemSize` bytes from `startVaddr` on. -/
def zoneInit (resMemSize startVaddr : Nat) : Zone :=
  let maxOrder := getOrder resMemSize
  let heads := (List.range (resMemSize / sz4K / 2 ^ maxOrder)).map (· * 2 ^ maxOrder)
  { resMaxOrder := maxOrder
    resPageSize := resMemSize / sz4K
    startVaddr := startVaddr
    pages := fun index =>
      if index ∈ heads then { order := maxOrder, count := 0 } else { order := -1, count := 0 }
    freeAreas := fun area => if area = maxOrder then heads else [] }

end Zone

end TzDriver.Reserved
