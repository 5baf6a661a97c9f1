/-
The mailbox page pool shared with the TEE (`linux/core/mailbox_mempool.c`).

The pool is a buddy allocator.  `pages` is the descriptor array, `freeAreas` holds
one list of page indexes per order, in list order, and `memory` is the pool's own
bytes by virtual address.  The zone pointer is set: before
`mailbox_mempool_init` succeeds every entry point returns without an effect.
Each call runs under `g_mb_lock`, so a call is one step.
-/

import Mathlib.Data.Nat.Log
import TzDriver.Lib.Dyadic
import TzDriver.Platform

namespace TzDriver.Mailbox

open TzDriver.Lib

/-- `SZ_4K`, which is also the page size (`PAGE_SHIFT` is 12). -/
def sz4K : Nat := 4096

/-- `ALIGN(size, SZ_4K)` on a 64-bit `size_t`. -/
def align4K (size : Nat) : Nat :=
  (size + (sz4K - 1)) % 2 ^ 64 / sz4K * sz4K

def fls64 (word : Nat) : Nat :=
  if word = 0 then 0 else Nat.log2 word + 1

/-- The kernel's `get_order`: `size--; size >>= PAGE_SHIFT; return fls64(size)`. -/
def getOrder (size : Nat) : Nat :=
  fls64 ((size + (2 ^ 64 - 1)) % 2 ^ 64 / sz4K)

/-- `struct mb_page_t`, without its list node and its back pointer. -/
structure MbPage where
  order : Int
  count : Nat
deriving DecidableEq, Repr

/-- `g_m_zone` with `g_max_oder`; `allPages` is the address of page 0. -/
structure Mempool where
  maxOder : Nat
  pageMax : Nat
  allPages : Nat
  pages : Nat → MbPage
  freeAreas : Nat → List Nat
  memory : Nat → UInt8

namespace Mempool

variable (pool : Mempool)

def setPage (index : Nat) (page : MbPage) : Mempool :=
  { pool with pages := Function.update pool.pages index page }

def setOrder (index : Nat) (order : Int) : Mempool :=
  pool.setPage index { order := order, count := (pool.pages index).count }

def setCount (index count : Nat) : Mempool :=
  pool.setPage index { order := (pool.pages index).order, count := count }

def listAddTail (area index : Nat) : Mempool :=
  { pool with freeAreas :=
      Function.update pool.freeAreas area (pool.freeAreas area ++ [index]) }

/-- `list_del` unlinks the node from whichever list it is on. -/
def listDel (index : Nat) : Mempool :=
  { pool with freeAreas := fun area => (pool.freeAreas area).filter (· != index) }

def mailboxPageAddress (index : Nat) : Nat :=
  pool.allPages + sz4K * index

def mailboxVirtToPage (ptr : Nat) : Nat :=
  (ptr - pool.allPages) / sz4K

def isPtrValid (ptr : Nat) : Bool :=
  pool.allPages ≤ ptr && ptr < pool.allPages + sz4K * pool.pageMax

/-! ### Freeing -/

/-- The conversion `(unsigned int)order`. -/
def unsignedOrder (order : Int) : Nat :=
  (order % 2 ^ 32).toNat

def addMaxOrderBlock (idex : Nat) : Mempool :=
  if idex = pool.maxOder then pool.listAddTail pool.maxOder 0 else pool

/-- The merge loop of `mailbox_free`.  `left` counts the iterations up to
`g_max_oder`; `selfIdx` is the page the loop variable `page` points to. -/
def mergeLoop : Nat → Mempool → Nat → Nat → Mempool
  | 0, pool, _, order => pool.addMaxOrderBlock order
  | left + 1, pool, selfIdx, order =>
      let buddyIdx := selfIdx ^^^ 2 ^ order
      let buddy := pool.pages buddyIdx
      let cleared := pool.setCount selfIdx 0
      if unsignedOrder buddy.order = order ∧ buddy.count = 0 then
        let unlinked := cleared.listDel buddyIdx
        if selfIdx > buddyIdx then
          mergeLoop left ((unlinked.setOrder buddyIdx (order + 1)).setOrder selfIdx (-1))
            buddyIdx (order + 1)
        else
          mergeLoop left ((unlinked.setOrder selfIdx (order + 1)).setOrder buddyIdx (-1))
            selfIdx (order + 1)
      else
        cleared.listAddTail order selfIdx

def mailboxFree (ptr : Nat) : Mempool :=
  if ptr = 0 ∨ pool.isPtrValid ptr = false then pool
  else
    let selfIdx := pool.mailboxVirtToPage ptr
    let self := pool.pages selfIdx
    if self.count = 0 then pool
    else
      let order := unsignedOrder self.order
      mergeLoop (pool.maxOder - order) pool selfIdx order

/-! ### Allocating -/

/-- `split and add free list`: hang the upper halves, lowest order first. -/
def splitLoop (pool : Mempool) (pos : Nat) : List Nat → Mempool
  | [] => pool
  | order :: rest =>
      let newPage := pos + 2 ^ order
      splitLoop ((pool.setPage newPage { order := order, count := 0 }).listAddTail
        order newPage) pos rest

/-- The body of the search loop once the free area `area` has a first entry. -/
def takeBlock (order area pos : Nat) : Mempool :=
  ((pool.setPage pos { order := order, count := 1 }).splitLoop pos
    (List.range' order (area - order))).listDel pos

def searchAreas (order : Nat) : List Nat → Mempool × Option Nat
  | [] => (pool, none)
  | area :: rest =>
      match pool.freeAreas area with
      | [] => searchAreas order rest
      | pos :: _ => (pool.takeBlock order area pos, some pos)

/-- `memset_s(addr, len, 0, len)`; `none` is its range error, which writes nothing. -/
def memsetS (addr len : Nat) : Option Mempool :=
  if len = 0 ∨ len > securecMemMaxLen then none
  else some { pool with memory := fun byte =>
    if addr ≤ byte ∧ byte < addr + len then 0 else pool.memory byte }

/-- The search over the free areas and, under `MB_FLAG_ZERO`, the fill of the
block it found.  A failed fill frees the block again. -/
def allocBlock (order length flag : Nat) : Mempool × Option Nat :=
  match pool.searchAreas order (List.range' order (pool.maxOder + 1 - order)) with
  | (after, none) => (after, none)
  | (after, some pos) =>
      if flag % 2 = 1 then
        match after.memsetS (after.mailboxPageAddress pos) length with
        | none => (after.mailboxFree (after.mailboxPageAddress pos), none)
        | some zeroed => (zeroed, some (after.mailboxPageAddress pos))
      else (after, some (after.mailboxPageAddress pos))

/-- `mailbox_alloc(size, flag)`; `none` is a NULL result. -/
def mailboxAlloc (size flag : Nat) : Mempool × Option Nat :=
  if size = 0 then (pool, none)
  else if getOrder (align4K size) > pool.maxOder then (pool, none)
  else pool.allocBlock (getOrder (align4K size)) (align4K size) flag

/-- `mailbox_mempool_init`.  The arguments are what it obtains from elsewhere: the
zone structure, the pages and their contents, and the answer of
`mailbox_register`. -/
def mailboxMempoolInit (poolSize : Nat) (zone : Bool) (allPages : Option Nat)
    (memory : Nat → UInt8) (mailboxRegister : Int) : Except Int Mempool :=
  let maxOder := getOrder poolSize
  if zone = false then .error (-eNoMem)
  else
    match allPages with
    | none => .error (-eNoMem)
    | some base =>
        if mailboxRegister ≠ 0 then .error (-eIo)
        else
          .ok
            { maxOder := maxOder
              pageMax := poolSize / sz4K
              allPages := base
              pages := fun index =>
                if index = 0 then { order := maxOder, count := 0 }
                else { order := -1, count := 0 }
              freeAreas := fun area => if area = maxOder then [0] else []
              memory := memory }

end Mempool

end TzDriver.Mailbox
