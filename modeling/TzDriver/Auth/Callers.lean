/-
Who is calling: the path and the uid that a check reads from the calling task
(`linux/auth/auth_base_impl.c`, `linux/core/agent.c`, `linux/whitelist/agent_allowed_ca.c`).

A path is its characters, without the NUL that ends it.
-/

import Mathlib.Data.List.Basic
import TzDriver.Platform

namespace TzDriver.Auth

def eAcces : Int := 13
def checkAccessFail : Int := 0xffff
def checkAccessSucc : Int := 0
def enterBypassChannel : Int := 0xff04
def maxPathSize : Nat := 512
def maxSctxLen : Nat := 128

/-- The calling task: the path of its program, its uid and its security id. -/
structure Caller where
  path : List Char
  uid : UInt32
  sid : UInt32
deriving DecidableEq

/-- What one check gets from `kmalloc`, `get_proc_dpath` and `koadpt_get_task_cred`. -/
structure TaskWorld where
  kmalloc : Bool
  dpath : Bool
  cred : Bool
deriving DecidableEq

structure AuthConfig where
  /-- `CONFIG_TEECD_AUTH`, `CONFIG_CADAEMON_AUTH`, and `CONFIG_SELINUX_AUTH_ENABLE` with
  `CONFIG_SECURITY_SELINUX` -/
  teecdAuth : Bool
  cadaemonAuth : Bool
  selinux : Bool
  teecdPathUidAuthCtx : List Char
  cadaemonPathUidAuthCtx : List Char
  selinuxTeecdLabel : List Char
  selinuxCadaemonLabel : List Char
  securitySecctxToSecid : List Char → Option UInt32
  /-- `agent_allowed_ca.c` is linked, with `CONFIG_TZDRIVER` and `DEF_ENG` -/
  whitelist : Bool
  tzdriver : Bool
  defEng : Bool

/-! ### The daemons -/

def pathUid (path : List Char) (uid : UInt32) : List Char :=
  path ++ ':' :: Nat.toDigits 10 uid.toNat

def checkProcUidPath (authCtx : List Char) (world : TaskWorld) (caller : Caller) : Int :=
  if authCtx.length = 0 ∨ maxPathSize ≤ authCtx.length then checkAccessFail
  else if world.kmalloc = false then checkAccessFail
  else if world.dpath = false then checkAccessFail
  else if world.cred = false then checkAccessFail
  else
    let strPathUid := pathUid caller.path caller.uid
    if maxPathSize ≤ strPathUid.length then checkAccessFail
    else if strPathUid.length ≠ authCtx.length ∨
        strPathUid.take authCtx.length ≠ authCtx.take authCtx.length then enterBypassChannel
    else checkAccessSucc

def checkProcSelinuxAccess (config : AuthConfig) (sCtx : List Char) (caller : Caller) : Int :=
  if config.selinux = false then 0
  else if sCtx.length = 0 ∨ maxSctxLen ≤ sCtx.length then checkAccessFail
  else
    match config.securitySecctxToSecid sCtx with
    | none => checkAccessFail
    | some tid => if caller.sid ≠ tid then checkAccessFail else 0

def checkTeecdAuth (config : AuthConfig) (world : TaskWorld) (caller : Caller) : Int :=
  if config.teecdAuth = false then 0
  else
    let ret := checkProcUidPath config.teecdPathUidAuthCtx world caller
    if ret ≠ 0 then ret
    else if checkProcSelinuxAccess config config.selinuxTeecdLabel caller ≠ 0 then -eAcces
    else checkAccessSucc

def checkCadaemonAuth (config : AuthConfig) (world : TaskWorld) (caller : Caller) : Int :=
  let ret := checkProcUidPath config.cadaemonPathUidAuthCtx world caller
  if ret ≠ 0 then ret
  else if checkProcSelinuxAccess config config.selinuxCadaemonLabel caller ≠ 0 then -eAcces
  else 0

section PathUid

variable {path named : List Char} {uid other : UInt32}

theorem notMem_toDigits (number : Nat) : ':' ∉ Nat.toDigits 10 number := by
  intro member
  have digit := Nat.isDigit_of_mem_toDigits (by decide) (by decide) member
  cases digit

theorem toDigits_inj {number another : Nat}
    (same : Nat.toDigits 10 number = Nat.toDigits 10 another) : number = another := by
  have read := congrArg (fun digits => Nat.ofDigitChars 10 digits 0) same
  simpa only [Nat.ofDigitChars_toDigits (b := 10) (by decide) (by decide)] using read

theorem split_last {entry : Char} {front back front' back' : List Char} (last : entry ∉ back)
    (last' : entry ∉ back') (same : front ++ entry :: back = front' ++ entry :: back') :
    front = front' ∧ back = back' := by
  rcases List.append_eq_append_iff.mp same with ⟨more, longer, rest⟩ | ⟨more, longer, rest⟩
  · cases more with
    | nil =>
        rw [List.append_nil] at longer
        exact ⟨longer.symm, (List.cons.inj rest).2⟩
    | cons first more =>
        exfalso
        apply last
        rw [(List.cons.inj rest).2]
        exact List.mem_append_right _ List.mem_cons_self
  · cases more with
    | nil =>
        rw [List.append_nil] at longer
        exact ⟨longer, (List.cons.inj rest).2.symm⟩
    | cons first more =>
        exfalso
        apply last'
        rw [(List.cons.inj rest).2]
        exact List.mem_append_right _ List.mem_cons_self

/-- The last colon ends the path, so the text names one path and one uid. -/
theorem pathUid_inj : pathUid path uid = pathUid named other ↔ path = named ∧ uid = other := by
  constructor
  · intro same
    obtain ⟨paths, digits⟩ := split_last (notMem_toDigits _) (notMem_toDigits _) same
    exact ⟨paths, UInt32.toNat_inj.mp (toDigits_inj digits)⟩
  · rintro ⟨rfl, rfl⟩
    rfl

theorem checkProcUidPath_eq_zero {world : TaskWorld} {caller : Caller} :
    checkProcUidPath (pathUid named other) world caller = 0 ↔
      (world = ⟨true, true, true⟩ ∧ (pathUid named other).length < maxPathSize) ∧
        caller.path = named ∧ caller.uid = other := by
  have notEmpty : (pathUid named other).length ≠ 0 := by simp [pathUid]
  obtain ⟨kmalloc, dpath, cred⟩ := world
  unfold checkProcUidPath
  rw [← pathUid_inj]
  cases kmalloc <;> cases dpath <;> cases cred
  all_goals try
    simp only [notEmpty, false_or, if_true, ite_self, TaskWorld.mk.injEq, reduceCtorEq, false_and,
      and_false, iff_false]
    decide
  simp only [notEmpty, false_or]
  by_cases long : maxPathSize ≤ (pathUid named other).length
  · simp only [long, if_true, Nat.not_lt.mpr long, and_false, false_and, iff_false]
    decide
  by_cases same : pathUid caller.path caller.uid = pathUid named other
  · simp [same, long, Nat.lt_of_not_le long, checkAccessSucc]
  · simp only [long, if_false, same, and_false, iff_false, Bool.true_eq_false]
    split
    · decide
    split
    · decide
    · next equal =>
        exfalso
        apply same
        simp only [not_or, not_not] at equal
        rw [← List.take_length (l := pathUid caller.path caller.uid), equal.1, equal.2,
          List.take_length]

/-- With `CONFIG_TEECD_AUTH` only the program and the uid of the context are teecd. -/
theorem names_of_checkTeecdAuth {config : AuthConfig} {world : TaskWorld} {caller : Caller}
    (compiled : config.teecdAuth = true)
    (context : config.teecdPathUidAuthCtx = pathUid named other)
    (passed : checkTeecdAuth config world caller = 0) :
    caller.path = named ∧ caller.uid = other := by
  unfold checkTeecdAuth at passed
  rw [compiled, context] at passed
  simp only [Bool.true_eq_false, if_false] at passed
  split at passed
  · next refused => exact absurd passed refused
  · next accepted => exact (checkProcUidPath_eq_zero.mp (not_not.mp accepted)).2

end PathUid

/-! ### The callers of the external agents -/

structure CaInfo where
  path : List Char
  uid : UInt32
  agentId : UInt32
deriving DecidableEq

def getCaPathAndUid (world : TaskWorld) (caller : Caller) : Except Int CaInfo :=
  if world.kmalloc = false then .error (-eNoMem)
  else if world.dpath = false then .error (-eNoMem)
  else if caller.path.length = 0 ∨ maxPathSize ≤ caller.path.length then .error (-eFault)
  else if world.cred = false then .error (-eAcces)
  else .ok ⟨caller.path, caller.uid, 0⟩

def teeSeceAgentId : UInt32 := 0x53656345
def teeFaceAgent1Id : UInt32 := 0x46616365

def gAllowedExtAgentCa (config : AuthConfig) : List CaInfo :=
  (if config.tzdriver then
    [⟨"/vendor/bin/hiaiserver".toList, 3094, teeSeceAgentId⟩,
      ⟨"/vendor/bin/hw/hdf_devhost".toList, 1114, teeFaceAgent1Id⟩]
    else []) ++
  (if config.defEng then [⟨"/vendor/bin/tee_test_agent".toList, 0, teeSeceAgentId⟩] else [])

/-- `is_allowed_agent_ca`, or the weak one of `agent.c`.  `strncmp` compares up to the NUL that
ends the path of the list, this included. -/
def isAllowedAgentCa (config : AuthConfig) (ca : CaInfo) (checkAgentId : Bool) : Int :=
  if config.whitelist = false then -eFault
  else if checkAgentId = false then
    if (gAllowedExtAgentCa config).any fun tmpCa =>
        ca.path == tmpCa.path && ca.uid == tmpCa.uid then 0
    else -eAcces
  else
    if (gAllowedExtAgentCa config).any fun tmpCa =>
        ca.path == tmpCa.path && ca.uid == tmpCa.uid && ca.agentId == tmpCa.agentId then 0
    else -eAcces

def checkExtAgentAccess (config : AuthConfig) (world : TaskWorld) (caller : Caller)
    (agentId : UInt32) : Int :=
  match getCaPathAndUid world caller with
  | .error ret => ret
  | .ok agentCa => isAllowedAgentCa config { agentCa with agentId := agentId } true

def Listed (config : AuthConfig) (caller : Caller) (agentId : UInt32) : Prop :=
  config.whitelist = true ∧ ⟨caller.path, caller.uid, agentId⟩ ∈ gAllowedExtAgentCa config

instance (config : AuthConfig) (caller : Caller) (agentId : UInt32) :
    Decidable (Listed config caller agentId) :=
  inferInstanceAs (Decidable (_ ∧ _))

section Listed

variable {config : AuthConfig} {caller : Caller} {agentId : UInt32}

theorem isAllowedAgentCa_eq_zero {ca : CaInfo} :
    isAllowedAgentCa config ca true = 0 ↔
      config.whitelist = true ∧ ca ∈ gAllowedExtAgentCa config := by
  have found : ((gAllowedExtAgentCa config).any fun tmpCa =>
      ca.path == tmpCa.path && ca.uid == tmpCa.uid && ca.agentId == tmpCa.agentId) = true ↔
      ca ∈ gAllowedExtAgentCa config := by
    rw [List.any_eq_true]
    constructor
    · rintro ⟨tmpCa, member, same⟩
      simp only [Bool.and_eq_true, beq_iff_eq] at same
      obtain ⟨⟨path, uid⟩, agentId⟩ := same
      have equal : ca = tmpCa := by
        cases ca
        cases tmpCa
        simp_all
      exact equal ▸ member
    · intro member
      exact ⟨ca, member, by simp⟩
  unfold isAllowedAgentCa
  cases linked : config.whitelist with
  | false =>
      simp only [if_true, Bool.false_eq_true, false_and, iff_false]
      decide
  | true =>
      simp only [Bool.true_eq_false, if_false, true_and]
      rw [← found]
      split
      · next member => simp [member]
      · next absent =>
          simp only [absent]
          decide

theorem length_of_listed (listed : Listed config caller agentId) :
    ¬(caller.path.length = 0 ∨ maxPathSize ≤ caller.path.length) := by
  have member := listed.2
  unfold gAllowedExtAgentCa at member
  rcases List.mem_append.mp member with here | here
  · split at here
    · simp only [List.mem_cons, CaInfo.mk.injEq, List.not_mem_nil, or_false] at here
      rcases here with ⟨path, _⟩ | ⟨path, _⟩
      · rw [path]
        decide
      · rw [path]
        decide
    · cases here
  · split at here
    · simp only [List.mem_cons, CaInfo.mk.injEq, List.not_mem_nil, or_false] at here
      rw [here.1]
      decide
    · cases here

theorem getCaPathAndUid_cases (world : TaskWorld) (caller : Caller) :
    (world = ⟨true, true, true⟩ ∧ ¬(caller.path.length = 0 ∨ maxPathSize ≤ caller.path.length) ∧
        getCaPathAndUid world caller = .ok ⟨caller.path, caller.uid, 0⟩) ∨
      (world = ⟨true, true, true⟩ → caller.path.length = 0 ∨ maxPathSize ≤ caller.path.length) ∧
        ∃ ret, ret ≠ 0 ∧ getCaPathAndUid world caller = .error ret := by
  obtain ⟨kmalloc, dpath, cred⟩ := world
  unfold getCaPathAndUid
  split
  · next refused =>
      cases refused
      exact Or.inr ⟨nofun, _, by decide, rfl⟩
  split
  · next refused =>
      cases refused
      exact Or.inr ⟨nofun, _, by decide, rfl⟩
  split
  · next bad => exact Or.inr ⟨fun _ => bad, _, by decide, rfl⟩
  split
  · next refused =>
      cases refused
      exact Or.inr ⟨nofun, _, by decide, rfl⟩
  · next gotMemory gotPath long gotCred =>
      left
      simp only [Bool.not_eq_false] at gotMemory gotPath gotCred
      rw [gotMemory, gotPath, gotCred]
      exact ⟨rfl, long, rfl⟩

theorem checkExtAgentAccess_eq_zero {world : TaskWorld} :
    checkExtAgentAccess config world caller agentId = 0 ↔
      world = ⟨true, true, true⟩ ∧ Listed config caller agentId := by
  unfold checkExtAgentAccess
  rcases getCaPathAndUid_cases world caller with ⟨granted, _, got⟩ | ⟨bad, ret, failed, got⟩
  · rw [got]
    simp only [granted, true_and]
    exact isAllowedAgentCa_eq_zero
  · rw [got]
    constructor
    · intro passed
      exact absurd passed failed
    · rintro ⟨granted, listed⟩
      exact absurd (bad granted) (length_of_listed listed)

end Listed

end TzDriver.Auth
