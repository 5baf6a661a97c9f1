/-
The login of a dev_file in the LiteOS driver (`liteos/core/tc_client_driver.c`) and
the opens that trust its lengths (`set_login_information` in
`liteos/core/session_manager.c`, `alloc_for_tmp_mem` in `liteos/core/gp_ops.c`).

The parsers copy a length into the dev_file and check it there.  A call is one
step: logins hold `login_setup_lock`.
-/

import TzDriver.Client.Operation
import TzDriver.Lib.Runs
import TzDriver.Login.Fields

namespace TzDriver.LiteOs

open TzDriver.Client TzDriver.Lib TzDriver.Login TzDriver.Session

/-! ### The certificate -/

section Parser

variable (fields : LoginFields) (cert : Bytes)

def getPackNameLen : Int × LoginFields :=
  let stored := { fields with pkgNameLen := cert.word 0 }
  if stored.pkgNameLen = 0 ∨ stored.pkgNameLen ≥ maxPackageNameLen then (-eInval, stored)
  else (0, stored)

def getPublicKeyLen : Int × LoginFields :=
  let stored := { fields with pubKeyLen := cert.word 0 }
  if stored.pubKeyLen > maxPubkeyLen then (-eInval, stored) else (0, stored)

def getPublicKey : Int × LoginFields :=
  if fields.pubKeyLen = 0 then (0, fields)
  else if memcpyS maxPubkeyLen.toNat fields.pubKeyLen.toNat false ≠ 0 then (-eInval, fields)
  else (0, { fields with pubKey := fields.pubKey.copy cert fields.pubKeyLen.toNat })

/-- The part of `tc_ns_client_login_func_with_cert` behind `get_pack_name_len`;
`cert` is the pointer moved over the length. -/
def parsePackName : Int × LoginFields :=
  let copied := strncpyS fields.pkgName maxPackageNameLen.toNat cert fields.pkgNameLen.toNat
  let named := { fields with pkgName := copied.2 }
  if copied.1 ≠ 0 then (-eNoMem, named)
  else
    let keyCert := cert.drop fields.pkgNameLen.toNat
    let sized := getPublicKeyLen named keyCert
    if sized.1 ≠ 0 then sized
    else
      let keyed := getPublicKey sized.2 (keyCert.drop 4)
      (keyed.1, { keyed.2 with loginSetup := true })

end Parser

/-- `tc_ns_client_login_func_with_cert` for a buffer that is not NULL. -/
def tcNsClientLoginFuncWithCert (allocated copied : Bool) (cert : Bytes) (fields : LoginFields) :
    Int × LoginFields :=
  if fields.loginSetup then (-eInval, fields)
  else if allocated = false then (-eNoMem, fields)
  else if copied = false then (-eInval, fields)
  else
    let sized := getPackNameLen fields cert
    if sized.1 ≠ 0 then sized else parsePackName sized.2 (cert.drop 4)

/-! ### The path of the process -/

/-- `get_process_path` for a buffer of `MAX_PACKAGE_NAME_LEN` bytes; `none` is a
process without an executable, and a path is given without its final NUL. -/
def getProcessPath (execPath : Option (List UInt8)) : Option Bytes :=
  match execPath with
  | none => none
  | some path =>
      if memcpyS (maxPackageNameLen.toNat - 1) path.length false ≠ 0 then none
      else some (.ofList path)

def tcNsClientLoginFuncWithoutCert (allocated : Bool) (execPath : Option (List UInt8))
    (uid : UInt32) (fields : LoginFields) : Int × LoginFields :=
  if fields.loginSetup then (-eInval, fields)
  else if allocated = false then (-eNoMem, fields)
  else
    match getProcessPath execPath with
    | none => (-eFault, fields)
    | some path =>
        let length := path.strnlen maxPackageNameLen.toNat
        let copied := strncpyS fields.pkgName maxPackageNameLen.toNat path length
        let named :=
          { fields with pkgName := copied.2, pkgNameLen := UInt32.ofNat length }
        if copied.1 ≠ 0 then (-eNoMem, named)
        else
          let keyed := { named with pubKeyLen := 4, pubKey := named.pubKey.copy (.ofWord uid) 4 }
          (0, { keyed with loginSetup := true })

/-! ### Opens -/

/-- What an open meets outside the driver on its way to the login parameters:
`checked` tells that the checks before `set_login_information` passed, `reached`
that the parameters 0 and 1 were prepared. -/
structure OpenEnv where
  checked : Bool
  caUid : UInt32
  reached : Bool
  keyBlock : Bool
  nameBlock : Bool

/-- `set_login_information`, by what it does to the dev_file. -/
def setLoginInformation (caUid : UInt32) (fields : LoginFields) : Int × LoginFields :=
  if fields.pkgNameLen = 0 then (-eInval, fields)
  else if fields.pubKeyLen ≠ 0 then (0, fields)
  else if caUid = 0xFFFFFFFF then (-eFault, fields)
  else (0, { fields with pubKeyLen := 4, pubKey := fields.pubKey.copy (.ofWord caUid) 4 })

/-- `alloc_for_tmp_mem` and `update_input_data` at the parameters 2 and 3: the
length words are read in kernel mode, and as many bytes from the fields. -/
def loginReads (env : OpenEnv) (fields : LoginFields) : List FieldRead :=
  if env.reached = false then []
  else if fields.pubKeyLen > maxSharedSize ∨ env.keyBlock = false then []
  else
    .key fields.pubKeyLen.toNat ::
      if fields.pkgNameLen > maxSharedSize ∨ env.nameBlock = false then []
      else [.name fields.pkgNameLen.toNat]

def openFields (env : OpenEnv) (fields : LoginFields) : LoginFields × List FieldRead :=
  if env.checked = false then (fields, [])
  else
    let placed := setLoginInformation env.caUid fields
    if placed.1 ≠ 0 then (placed.2, []) else (placed.2, loginReads env placed.2)

/-! ### Runs -/

inductive FileCall where
  | loginWithCert (allocated copied : Bool) (cert : Bytes)
  | loginWithoutCert (allocated : Bool) (execPath : Option (List UInt8)) (uid : UInt32)
  | openSession (env : OpenEnv)

def FileCall.run (fields : LoginFields) : FileCall → LoginFields × List FieldRead
  | .loginWithCert allocated copied cert =>
      ((tcNsClientLoginFuncWithCert allocated copied cert fields).2, [])
  | .loginWithoutCert allocated execPath uid =>
      ((tcNsClientLoginFuncWithoutCert allocated execPath uid fields).2, [])
  | .openSession env => openFields env fields

def fileMachine : Machine LoginFields FileCall :=
  { init := fun fields => fields = .opened
    step := fun before call after => after = (call.run before).1 }

/-- The lengths in a certificate that the driver comes to parse are in range. -/
def CertInRange (fields : LoginFields) : FileCall → Prop
  | .loginWithCert allocated copied cert =>
      fields.loginSetup = false → allocated = true → copied = true →
        cert.word 0 < maxPackageNameLen ∧
          (cert.word 0 ≠ 0 → (cert.drop 4).word (cert.word 0).toNat ≤ maxPubkeyLen)
  | .loginWithoutCert _ _ _ => True
  | .openSession _ => True

/-! ### What keeps the lengths -/

section Steps

variable {fields : LoginFields} {cert : Bytes}

theorem getPackNameLen_fit (fit : fields.Fit) (inRange : cert.word 0 < maxPackageNameLen) :
    (getPackNameLen fields cert).2.Fit := by
  unfold getPackNameLen
  simp only
  split
  · exact ⟨inRange, fit.key⟩
  · exact ⟨inRange, fit.key⟩

theorem getPublicKeyLen_fit (fit : fields.Fit) (inRange : cert.word 0 ≤ maxPubkeyLen) :
    (getPublicKeyLen fields cert).2.Fit := by
  unfold getPublicKeyLen
  simp only
  split
  · exact ⟨fit.name, inRange⟩
  · exact ⟨fit.name, inRange⟩

theorem getPublicKey_fit (fit : fields.Fit) : (getPublicKey fields cert).2.Fit := by
  unfold getPublicKey
  split
  · exact fit
  split
  · exact fit
  · exact ⟨fit.name, fit.key⟩

theorem parsePackName_fit (fit : fields.Fit)
    (inRange : cert.word fields.pkgNameLen.toNat ≤ maxPubkeyLen) :
    (parsePackName fields cert).2.Fit := by
  have there : (cert.drop fields.pkgNameLen.toNat).word 0 = cert.word fields.pkgNameLen.toNat := by
    simp only [Bytes.word, Bytes.drop, Nat.zero_add, Nat.add_comm]
  unfold parsePackName
  simp only
  split
  · exact ⟨fit.name, fit.key⟩
  rw [← there] at inRange
  generalize (strncpyS fields.pkgName maxPackageNameLen.toNat cert fields.pkgNameLen.toNat).2 =
    copied
  have named : { fields with pkgName := copied }.Fit := ⟨fit.name, fit.key⟩
  have sized := getPublicKeyLen_fit named inRange
  split
  · exact sized
  · exact ⟨(getPublicKey_fit sized).name, (getPublicKey_fit sized).key⟩

theorem tcNsClientLoginFuncWithCert_fit {allocated copied : Bool} (fit : fields.Fit)
    (inRange : CertInRange fields (.loginWithCert allocated copied cert)) :
    (tcNsClientLoginFuncWithCert allocated copied cert fields).2.Fit := by
  unfold tcNsClientLoginFuncWithCert
  split
  · exact fit
  next fresh =>
    split
    · exact fit
    next given =>
      split
      · exact fit
      next taken =>
        obtain ⟨name, key⟩ := inRange (Bool.eq_false_of_not_eq_true fresh)
          (Bool.eq_true_of_not_eq_false given) (Bool.eq_true_of_not_eq_false taken)
        have sized := getPackNameLen_fit fit name
        simp only
        split
        · exact sized
        next accepted =>
          apply parsePackName_fit sized
          have some_ : cert.word 0 ≠ 0 := by
            intro zero
            apply accepted
            unfold getPackNameLen
            simp only [zero, true_or, if_true]
            decide
          have stored : (getPackNameLen fields cert).2.pkgNameLen = cert.word 0 := by
            unfold getPackNameLen
            simp only
            split
            · rfl
            · rfl
          rw [stored]
          exact key some_

theorem tcNsClientLoginFuncWithoutCert_fit {allocated : Bool} {execPath : Option (List UInt8)}
    {uid : UInt32} (fit : fields.Fit) :
    (tcNsClientLoginFuncWithoutCert allocated execPath uid fields).2.Fit := by
  unfold tcNsClientLoginFuncWithoutCert
  split
  · exact fit
  split
  · exact fit
  split
  · exact fit
  next path given =>
    -- the path is shorter than its buffer, so a NUL follows it there
    have short : path.strnlen maxPackageNameLen.toNat < maxPackageNameLen.toNat := by
      unfold getProcessPath at given
      split at given
      · cases given
      next list =>
        split at given
        · cases given
        next accepted =>
          rw [← Option.some.inj given]
          have fits := (memcpyS_eq_zero.mp (not_not.mp accepted)).2.2.1
          have inside : list.length < maxPackageNameLen.toNat := by
            have positive : 0 < maxPackageNameLen.toNat := by decide
            omega
          refine Nat.lt_of_le_of_lt (Bytes.strnlen_le_of_zero inside ?_) inside
          simp [Bytes.ofList]
    have name : UInt32.ofNat (path.strnlen maxPackageNameLen.toNat) < maxPackageNameLen := by
      rw [UInt32.lt_iff_toNat_lt, UInt32.toNat_ofNat_of_lt']
      · exact short
      · exact Nat.lt_trans short (by decide)
    simp only
    split
    · exact ⟨name, fit.key⟩
    · exact ⟨name, show (4 : UInt32) ≤ maxPubkeyLen by decide⟩

theorem setLoginInformation_fit {caUid : UInt32} (fit : fields.Fit) :
    (setLoginInformation caUid fields).2.Fit := by
  unfold setLoginInformation
  split
  · exact fit
  split
  · exact fit
  split
  · exact fit
  · exact ⟨fit.name, show (4 : UInt32) ≤ maxPubkeyLen by decide⟩

theorem loginReads_inside {env : OpenEnv} (fit : fields.Fit) :
    ∀ read ∈ loginReads env fields, read.Inside := by
  intro read made
  unfold loginReads at made
  split at made
  · cases made
  split at made
  · cases made
  rcases List.mem_cons.mp made with rfl | later
  · exact fit.key_inside
  · split at later
    · cases later
    · rw [List.mem_singleton.mp later]
      exact fit.name_inside

theorem FileCall.run_fit (call : FileCall) (fit : fields.Fit) (inRange : CertInRange fields call) :
    (call.run fields).1.Fit ∧ ∀ read ∈ (call.run fields).2, read.Inside := by
  cases call with
  | loginWithCert allocated copied cert =>
      refine ⟨tcNsClientLoginFuncWithCert_fit fit inRange, ?_⟩
      intro read made
      cases made
  | loginWithoutCert allocated execPath uid =>
      refine ⟨tcNsClientLoginFuncWithoutCert_fit fit, ?_⟩
      intro read made
      cases made
  | openSession env =>
      have placed : (setLoginInformation env.caUid fields).2.Fit := setLoginInformation_fit fit
      change (openFields env fields).1.Fit ∧ ∀ read ∈ (openFields env fields).2, read.Inside
      unfold openFields
      split
      · refine ⟨fit, ?_⟩
        intro read made
        cases made
      simp only
      split
      · refine ⟨placed, ?_⟩
        intro read made
        cases made
      · exact ⟨placed, loginReads_inside placed⟩

end Steps

/-- In every run whose parsed certificates have lengths in range, both lengths fit
and no open reads beyond the login fields. -/
theorem login_lengths_fit {fields : LoginFields}
    (reached : (fileMachine.restrict CertInRange).Reachable fields) :
    fields.Fit ∧ ∀ env, ∀ read ∈ (FileCall.run fields (.openSession env)).2, read.Inside := by
  have fit : fields.Fit := by
    refine Machine.Reachable.invariant ?_ ?_ reached
    · intro first same
      subst same
      exact LoginFields.opened_fit
    · intro before call after fit given
      obtain ⟨inRange, rfl⟩ := given
      exact (call.run_fit fit inRange).1
  exact ⟨fit, fun env => ((FileCall.openSession env).run_fit fit trivial).2⟩

/-! ### Two logins -/

def smallCert : Bytes :=
  .ofList [2, 0, 0, 0, 99, 97, 1, 0, 0, 0, 7]

def longCert : Bytes :=
  .ofList [0, 16, 0, 0]

theorem login_lengths_fit_small :
    ∃ fields : LoginFields, fields.Fit ∧ fields.pkgNameLen = 2 ∧ fields.loginSetup = true := by
  have inRange : CertInRange .opened (.loginWithCert true true smallCert) :=
    fun _ _ _ => ⟨by decide, fun _ => by decide⟩
  have reached : (fileMachine.restrict CertInRange).Reachable
      (FileCall.run .opened (.loginWithCert true true smallCert)).1 :=
    .next (.start rfl) ⟨inRange, rfl⟩
  exact ⟨_, (login_lengths_fit reached).1, by decide, by decide⟩

/-- A refused login leaves its name length behind, and the next open reads that many
bytes from the name. -/
theorem login_length_too_long :
    ∃ fields, fileMachine.Reachable fields ∧ ¬ fields.pkgNameLen < maxPackageNameLen ∧
      FieldRead.name 4096 ∈
        (FileCall.run fields (.openSession ⟨true, 1000, true, true, true⟩)).2 := by
  have reached : fileMachine.Reachable
      (FileCall.run .opened (.loginWithCert true true longCert)).1 :=
    .next (.start rfl) rfl
  exact ⟨_, reached, by decide, by decide⟩

end TzDriver.LiteOs
