/-
What the driver takes from the kernel and from the secure C library: error
numbers, the length rules of the `_s` functions and pointer checks.
-/

import Mathlib.Data.UInt

namespace TzDriver

def ePerm : Int := 1
def eIo : Int := 5
def eNoMem : Int := 12
def eFault : Int := 14
def eNoDev : Int := 19
def eInval : Int := 22
def eRange : Int := 34
def eRestartSys : Int := 512

/-- `ERANGE_AND_RESET` and `EOVERLAP_AND_RESET` of the secure C library. -/
def eRangeAndReset : Int := 162
def eOverlapAndReset : Int := 182

/-- `SECUREC_MEM_MAX_LEN`: the longest area that `memcpy_s` and `memset_s` accept. -/
def securecMemMaxLen : Nat := 0x7fffffff

/-- `memcpy_s(dest, destMax, src, count)` on non-NULL pointers.  Only a zero
result copies, and it copies `count` bytes. -/
def memcpyS (destMax count : Nat) (overlap : Bool) : Int :=
  if destMax = 0 ∨ destMax > securecMemMaxLen then eRange
  else if count > destMax then eRangeAndReset
  else if overlap then eOverlapAndReset
  else 0

theorem memcpyS_eq_zero {destMax count : Nat} {overlap : Bool} :
    memcpyS destMax count overlap = 0 ↔
      0 < destMax ∧ destMax ≤ securecMemMaxLen ∧ count ≤ destMax ∧ overlap = false := by
  unfold memcpyS
  split
  · simp only [show (eRange = 0) = False from by decide, false_iff]
    omega
  split
  · simp only [show (eRangeAndReset = 0) = False from by decide, false_iff]
    omega
  split
  · rename_i clash
    simp only [show (eOverlapAndReset = 0) = False from by decide, false_iff, clash]
    simp
  · rename_i clear
    simp only [true_iff]
    refine ⟨by omega, by omega, by omega, ?_⟩
    simpa using clear

def zeroOrNullPtr (ptr : UInt64) : Bool :=
  ptr ≤ 16

/-- The address mappings of one kernel configuration.  `checksVirtAddr` tells
whether `virt_addr_valid` is compiled in (neither `CONFIG_LIBLINUX` nor
`CONFIG_SHARED_MEM_RESERVED`). -/
structure Platform where
  checksVirtAddr : Bool
  virtAddrValid : UInt64 → Bool
  mailboxVirtToPhys : UInt64 → UInt64
  resMemVirtToPhys : UInt64 → UInt64

/-- A pointer that `mailbox_alloc` returned: a page address of the pool, which the
kernel maps when `virt_addr_valid` is asked. -/
structure MailboxPtr (platform : Platform) where
  addr : UInt64
  proper : zeroOrNullPtr addr = false
  mapped : platform.checksVirtAddr = true → platform.virtAddrValid addr = true

theorem MailboxPtr.addr_ne_zero {platform : Platform} (ptr : MailboxPtr platform) :
    ptr.addr ≠ 0 := by
  intro null
  have proper := ptr.proper
  rw [null] at proper
  revert proper
  decide

end TzDriver
