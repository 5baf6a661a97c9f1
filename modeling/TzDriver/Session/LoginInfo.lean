/-
The login information of an open (`set_login_information`, `check_login_method`
in `linux/core/session_manager.c`, `tc_user_param_valid` in `linux/core/gp_ops.c`),
for a build without `CONFIG_AUTH_SUPPORT_UNAME` and `CONFIG_AUTH_HASH`.
-/

import TzDriver.Client.Call

namespace TzDriver.Session

open TzDriver.Client

def teecLoginIdentify : UInt32 := 7
def maxPackageNameLen : UInt32 := 255
def maxPubkeyLen : UInt32 := 1024

/-- How the driver reaches an address. -/
inductive Via where
  | copyFromUser
  | copyToUser
  | getUser
  | memcpy
deriving DecidableEq, Repr

structure Access where
  via : Via
  addr : UInt64
  length : Nat
deriving DecidableEq, Repr

/-- What the checks of an open meet outside the driver; `userSize index` is what
`get_user` gives for the size word of a parameter. -/
structure LoginEnv where
  rebooting : Bool
  accessOk : UInt64 → Nat → Bool
  userSize : Fin 4 → Option UInt32
  caUid : UInt32

/-! ### The client's parameters -/

def isValParam (type : ParamType) : Bool :=
  type == .valueInput || type == .valueOutput || type == .valueInout || type == .ionInput ||
    type == .ionSglistInput

def isMemParam (type : ParamType) : Bool :=
  isTmpMem type || isRefMem type

section Checks

variable (env : LoginEnv) (context : ClientContext) (index : Fin 4)

/-- `is_usr_refmem_valid`.  The result of `get_user` is dropped and a fault leaves
zero in `size`. -/
def isUsrRefmemValid : Bool × List Access :=
  let param := context.params index
  if env.accessOk param.sizeAddress 4 = false then (false, [])
  else
    (env.accessOk param.bufferAddress ((env.userSize index).getD 0).toNat,
      [⟨.getUser, param.sizeAddress, 4⟩])

def isUsrValmemValid : Bool :=
  let param := context.params index
  env.accessOk param.aAddress 4 && env.accessOk param.bAddress 4

def tcUserParamValid : Bool × List Access :=
  let type := teecParamTypeGet context.paramTypes index
  if type = .none then (true, [])
  else if isMemParam type then isUsrRefmemValid env context index
  else if isValParam type then (isUsrValmemValid env context index, [])
  else (false, [])

theorem tcUserParamValid_accesses {access : Access}
    (made : access ∈ (tcUserParamValid env context index).2) :
    access = ⟨.getUser, (context.params index).sizeAddress, 4⟩ := by
  unfold tcUserParamValid at made
  simp only at made
  split at made
  · cases made
  split at made
  · unfold isUsrRefmemValid at made
    simp only at made
    split at made
    · cases made
    · exact List.mem_singleton.mp made
  split at made
  · cases made
  · cases made

end Checks

/-! ### The driver's parameters -/

def pointParam (param : ClientParam) (sizeAddr bufferAddr : UInt64) : ClientParam :=
  { param with
    sizeAddr := sizeAddr.toUInt32
    sizeHAddr := (sizeAddr >>> 32).toUInt32
    buffer := bufferAddr.toUInt32
    bufferHAddr := (bufferAddr >>> 32).toUInt32 }

theorem pointParam_sizeAddress (param : ClientParam) (sizeAddr bufferAddr : UInt64) :
    (pointParam param sizeAddr bufferAddr).sizeAddress = sizeAddr :=
  joinAddr_split sizeAddr

theorem pointParam_bufferAddress (param : ClientParam) (sizeAddr bufferAddr : UInt64) :
    (pointParam param sizeAddr bufferAddr).bufferAddress = bufferAddr :=
  joinAddr_split bufferAddr

/-- `set_login_information_uid`: the uid takes the place of a missing public key. -/
def setLoginInformationUid (file : DevFile) : DevFile :=
  { file with pubKeyLen := 4 }

/-- The types after the login parameters are marked as input buffers. -/
def loginTypes (paramTypes : UInt32) : UInt32 :=
  teecParamTypes fun place =>
    if place = 0 then (teecParamTypeGet paramTypes 0).code
    else if place = 1 then (teecParamTypeGet paramTypes 1).code
    else ParamType.memrefTempInput.code

/-- Two nibbles below the driver's own leave these as they were set. -/
theorem teecParamTypeGet_nibbles : ∀ first second : Fin 16, ∀ index : Fin 4, 2 ≤ index.val →
    teecParamTypeGet (teecParamTypes fun place =>
      if place = 0 then UInt32.ofNat first.val else if place = 1 then UInt32.ofNat second.val
      else ParamType.memrefTempInput.code) index = .memrefTempInput := by
  decide +kernel

theorem teecParamTypeGet_loginTypes (paramTypes : UInt32) {index : Fin 4} (own : 2 ≤ index.val) :
    teecParamTypeGet (loginTypes paramTypes) index = .memrefTempInput := by
  obtain ⟨first, firstCode⟩ := teecParamTypeGet_code paramTypes 0
  obtain ⟨second, secondCode⟩ := teecParamTypeGet_code paramTypes 1
  rw [loginTypes, firstCode, secondCode]
  exact teecParamTypeGet_nibbles first second index own

theorem teecParamTypeGet_nibbles_client : ∀ first second : Fin 16, ∀ index : Fin 4,
    index.val < 2 → (teecParamTypeGet (teecParamTypes fun place =>
      if place = 0 then UInt32.ofNat first.val else if place = 1 then UInt32.ofNat second.val
      else ParamType.memrefTempInput.code) index).code =
        if index = 0 then UInt32.ofNat first.val else UInt32.ofNat second.val := by
  decide +kernel

theorem teecParamTypeGet_loginTypes_client (paramTypes : UInt32) {index : Fin 4}
    (own : index.val < 2) :
    teecParamTypeGet (loginTypes paramTypes) index = teecParamTypeGet paramTypes index := by
  have ofCode (word : UInt32) :
      ParamType.ofNibble (ParamType.ofNibble word).code = ParamType.ofNibble word := by
    rw [ParamType.code_ofNibble]
  obtain ⟨first, firstCode⟩ := teecParamTypeGet_code paramTypes 0
  obtain ⟨second, secondCode⟩ := teecParamTypeGet_code paramTypes 1
  have codes : (teecParamTypeGet (loginTypes paramTypes) index).code =
      (teecParamTypeGet paramTypes index).code := by
    rw [loginTypes, firstCode, secondCode, teecParamTypeGet_nibbles_client first second index own]
    obtain ⟨place, below⟩ := index
    obtain rfl | rfl : place = 0 ∨ place = 1 := by
      change place < 2 at own
      omega
    · exact firstCode.symm
    · exact secondCode.symm
  rw [teecParamTypeGet, ← ofCode, ← teecParamTypeGet, codes, teecParamTypeGet, ofCode]

/-- The context once the package name is in parameter 3. -/
def placeName (file : DevFile) (context : ClientContext) : ClientContext :=
  { context with
    params := Function.update context.params 3
      (pointParam (context.params 3) file.pkgNameLenAddr file.pkgNameAddr) }

/-- The context once the public key is in parameter 2 and the types are set. -/
def placeKey (file : DevFile) (context : ClientContext) : ClientContext :=
  { context with
    params := Function.update context.params 2
      (pointParam (context.params 2) file.pubKeyLenAddr file.pubKeyAddr)
    paramTypes := loginTypes context.paramTypes }

@[simp] theorem placeName_params (file : DevFile) (context : ClientContext) :
    (placeName file context).params = Function.update context.params 3
      (pointParam (context.params 3) file.pkgNameLenAddr file.pkgNameAddr) :=
  rfl

@[simp] theorem placeKey_params (file : DevFile) (context : ClientContext) :
    (placeKey file context).params = Function.update context.params 2
      (pointParam (context.params 2) file.pubKeyLenAddr file.pubKeyAddr) :=
  rfl

def setLoginInformation (env : LoginEnv) (file : DevFile) (context : ClientContext) :
    Int × DevFile × ClientContext :=
  if file.pkgNameLen = 0 then (-eInval, file, context)
  else if file.pubKeyLen = 0 then
    if env.caUid = 0xFFFFFFFF then (-eFault, file, placeName file context)
    else
      (0, setLoginInformationUid file,
        placeKey (setLoginInformationUid file) (placeName file context))
  else (0, file, placeKey file (placeName file context))

/-- An accepted open has both login parameters placed. -/
theorem setLoginInformation_placed {env : LoginEnv} {file : DevFile} {context : ClientContext}
    (placed : (setLoginInformation env file context).1 = 0) :
    ∃ keyed, (keyed = file ∨ keyed = setLoginInformationUid file) ∧
      setLoginInformation env file context =
        (0, keyed, placeKey keyed (placeName file context)) := by
  unfold setLoginInformation at placed ⊢
  split at placed
  · exact absurd placed (show (-eInval : Int) ≠ 0 by decide)
  next named =>
    rw [if_neg named]
    split at placed
    · next keyless =>
        rw [if_pos keyless]
        split at placed
        · exact absurd placed (show (-eFault : Int) ≠ 0 by decide)
        · next uid =>
            rw [if_neg uid]
            exact ⟨_, Or.inr rfl, rfl⟩
    · next keyed =>
        rw [if_neg keyed]
        exact ⟨_, Or.inl rfl, rfl⟩

def clearContextParam (context : ClientContext) : ClientContext :=
  { context with
    params := fun index =>
      if index.val < 2 then context.params index
      else
        { context.params index with
          sizeAddr := 0, sizeHAddr := 0, buffer := 0, bufferHAddr := 0 } }

/-! ### `check_login_method` -/

structure LoginResult where
  ret : Int
  file : DevFile
  context : ClientContext
  flags : UInt8
  accesses : List Access

/-- The check of the client's own parameters; the second one is looked at only
after the first one passed. -/
def userParamsValid (env : LoginEnv) (file : DevFile) (context : ClientContext) :
    Bool × List Access :=
  if file.kernelApi ≠ 0 then (true, [])
  else
    let first := tcUserParamValid env context 0
    if first.1 = false then first
    else
      let second := tcUserParamValid env context 1
      (second.1, first.2 ++ second.2)

def checkLoginMethod (env : LoginEnv) (file : DevFile) (context : ClientContext)
    (flags : UInt8) : LoginResult :=
  if env.rebooting then
    ⟨eFault, file, { context with returnsCode := teeErrorIsDead }, flags, []⟩
  else if context.loginMethod ≠ teecLoginIdentify then ⟨-eInval, file, context, flags, []⟩
  else
    let (valid, accesses) := userParamsValid env file context
    if valid = false then ⟨-eInval, file, context, flags, accesses⟩
    else
      let (ret, keyed, placed) := setLoginInformation env file context
      ⟨ret, keyed, placed, if ret = 0 then flags ||| tcCallLogin else flags, accesses⟩

theorem checkLoginMethod_accepted {env : LoginEnv} {file : DevFile} {context : ClientContext}
    {flags : UInt8} (accepted : (checkLoginMethod env file context flags).ret = 0) :
    ∃ keyed, (keyed = file ∨ keyed = setLoginInformationUid file) ∧
      (checkLoginMethod env file context flags).file = keyed ∧
      (checkLoginMethod env file context flags).context =
        placeKey keyed (placeName file context) ∧
      (checkLoginMethod env file context flags).flags = flags ||| tcCallLogin := by
  unfold checkLoginMethod at accepted ⊢
  split at accepted
  · exact absurd accepted (show (eFault : Int) ≠ 0 by decide)
  next alive =>
    rw [if_neg alive]
    split at accepted
    · exact absurd accepted (show (-eInval : Int) ≠ 0 by decide)
    next method =>
      rw [if_neg method]
      simp only at accepted ⊢
      split at accepted
      · exact absurd accepted (show (-eInval : Int) ≠ 0 by decide)
      next valid =>
        rw [if_neg valid]
        obtain ⟨keyed, kind, result⟩ := setLoginInformation_placed accepted
        rw [result]
        exact ⟨keyed, kind, rfl, rfl, rfl⟩

theorem checkLoginMethod_file (env : LoginEnv) (file : DevFile) (context : ClientContext)
    (flags : UInt8) :
    (checkLoginMethod env file context flags).file = file ∨
      (checkLoginMethod env file context flags).file = setLoginInformationUid file := by
  unfold checkLoginMethod
  split
  · exact Or.inl rfl
  split
  · exact Or.inl rfl
  simp only
  split
  · exact Or.inl rfl
  unfold setLoginInformation
  split
  · exact Or.inl rfl
  split
  · split
    · exact Or.inl rfl
    · exact Or.inr rfl
  · exact Or.inl rfl

end TzDriver.Session
