/-
The digest in the place of the package name, in a build with `CONFIG_AUTH_HASH` and
without `CONFIG_AUTH_SUPPORT_UNAME` (`set_login_information` in
`linux/core/session_manager.c`, `set_login_information_hash` in
`linux/auth/client_hash_auth.c`, `check_open_sess_params` in
`linux/core/teek_client_api.c`).

The digest overwrites the name it was made of.  Beside the dev_file a run keeps the
login fields as the same calls leave them without any digest; they hold the identity
that was set for an open.
-/

import TzDriver.Login.Once

namespace TzDriver.Login

open TzDriver.Client TzDriver.Lib TzDriver.Session

def Bytes.take (bytes : Bytes) (count : Nat) : List UInt8 :=
  (List.range count).map bytes

def sha256DigestLength : UInt32 := 32

structure Identity where
  name : List UInt8
  key : List UInt8
deriving DecidableEq, Repr

def Identity.bytes (identity : Identity) : List UInt8 :=
  identity.name ++ identity.key

def LoginFields.identity (fields : LoginFields) : Identity :=
  { name := fields.pkgName.take fields.pkgNameLen.toNat
    key := fields.pubKey.take fields.pubKeyLen.toNat }

namespace Bytes

theorem length_take (bytes : Bytes) (count : Nat) : (bytes.take count).length = count := by
  rw [take]
  exact (List.length_map (bytes : Nat → UInt8)).trans List.length_range

theorem take_copy (dest src : Bytes) {count copied : Nat} (short : count ≤ copied) :
    (dest.copy src copied).take count = src.take count := by
  refine List.map_congr_left ?_
  intro position inside
  exact if_pos (Nat.lt_of_lt_of_le (List.mem_range.mp inside) short)

theorem strnlen_copy {dest src : Bytes} {count max : Nat} (ends : dest count = 0)
    (inside : count < max) : (dest.copy src count).strnlen max = src.strnlen count := by
  induction count generalizing dest src max with
  | zero =>
      obtain ⟨rest, rfl⟩ := Nat.exists_eq_succ_of_ne_zero (Nat.pos_iff_ne_zero.mp inside)
      exact if_pos ends
  | succ count ih =>
      obtain ⟨rest, rfl⟩ := Nat.exists_eq_succ_of_ne_zero (Nat.ne_zero_of_lt inside)
      have shifted :
          (dest.copy src (count + 1)).drop 1 = (dest.drop 1).copy (src.drop 1) count := by
        funext position
        exact if_congr Nat.succ_lt_succ_iff rfl rfl
      have first : dest.copy src (count + 1) 0 = src 0 := if_pos (Nat.succ_pos count)
      have rest_ := @ih (dest.drop 1) (src.drop 1) rest ends (Nat.lt_of_succ_lt_succ inside)
      rw [strnlen, strnlen, shifted, first, rest_]

end Bytes

namespace Hash

/-- What an open meets outside the driver.  `prepared` tells that it comes to
`set_login_information`, `digested` is the success of `do_sha256`, and `delivered` tells
that what follows `set_login_information` comes to the SMC. -/
structure Env where
  prepared : Bool
  uid : UInt32
  allocated : Bool
  digested : Bool
  delivered : Bool

structure File where
  fields : LoginFields
  cainfoHashSetup : Bool

/-! ### The parameters of an open -/

/-- `set_login_information` before the digest.  The name field always ends in a NUL, so
`strlen` stops inside it. -/
def setIdentity (uid : UInt32) (fields : LoginFields) : Int × LoginFields :=
  if fields.pkgNameLen = 0 then (-eInval, fields)
  else if fields.pubKeyLen = 0 then
    if uid = 0xFFFFFFFF then (-eFault, fields)
    else
      (0, { fields with
        pubKey := fields.pubKey.copy (.ofWord uid) 4
        pubKeyLen := 4
        pkgNameLen := UInt32.ofNat (fields.pkgName.strnlen maxPackageNameLen.toNat) })
  else (0, fields)

/-- `construct_hashdata` over a buffer of the length of both fields. -/
def constructHashdata (fields : LoginFields) : Option (List UInt8) :=
  let bufLen := fields.pkgNameLen + fields.pubKeyLen
  if memcpyS bufLen.toNat fields.pkgNameLen.toNat false ≠ 0 then none
  else if memcpyS (bufLen - fields.pkgNameLen).toNat fields.pubKeyLen.toNat false ≠ 0 then none
  else some fields.identity.bytes

section Digest

variable (sha256 : List UInt8 → Bytes) (env : Env)

def setLoginInformationHash (file : File) : Int × File :=
  if file.cainfoHashSetup then (0, file)
  else if file.fields.pkgNameLen + file.fields.pubKeyLen = 0 ∨ env.allocated = false then (-1, file)
  else
    match constructHashdata file.fields with
    | none => (-eFault, file)
    | some indata =>
        if env.digested = false then (-1, file)
        else
          (0, { fields :=
                  { file.fields with
                    pkgName :=
                      file.fields.pkgName.copy (sha256 indata) sha256DigestLength.toNat
                    pkgNameLen := sha256DigestLength }
                cainfoHashSetup := true })

def setLoginInformation (file : File) : Int × File :=
  let set := setIdentity env.uid file.fields
  if set.1 ≠ 0 then (set.1, { file with fields := set.2 })
  else
    let hashed := setLoginInformationHash sha256 env { file with fields := set.2 }
    (if hashed.1 ≠ 0 then -eFault else 0, hashed.2)

/-- An open from `check_login_method` on: the package name that `OPEN_SESSION` carries,
where the open comes that far. -/
def openSession (file : File) : Option (List UInt8) × File :=
  if env.prepared = false then (none, file)
  else
    let set := setLoginInformation sha256 env file
    if set.1 = 0 ∧ env.delivered = true then
      (some (set.2.fields.pkgName.take set.2.fields.pkgNameLen.toNat), set.2)
    else (none, set.2)

end Digest

/-! ### The open of a kernel CA -/

/-- The outcomes of the copy of the name and of `teek_check_operation`. -/
structure KernelEnv where
  copied : Bool
  checked : Bool

def checkOpenSessParams (operation : KernelOpen) (env : KernelEnv) (fields : LoginFields) :
    Int × LoginFields :=
  if operation.argsValid = false then (teecErrorBadParameters, fields)
  else
    let sized := { fields with pkgNameLen := operation.nameSize }
    if operation.nameSize > maxPackageNameLen - 1 then (teecErrorBadParameters, sized)
    else
      let cleared := fields.pkgName.copy (.ofList []) maxPackageNameLen.toNat
      if memcpyS maxPackageNameLen.toNat operation.nameSize.toNat (!env.copied) ≠ 0 then
        (teecErrorBadParameters, { sized with pkgName := cleared })
      else
        let stored :=
          { sized with
            pkgName := cleared.copy operation.name operation.nameSize.toNat
            pubKeyLen := 0
            loginSetup := true }
        (if env.checked then 0 else teecErrorBadParameters, stored)

/-! ### Runs -/

/-- What one `OPEN_SESSION` carried, and the identity set for that open. -/
structure Sent where
  name : List UInt8
  identity : Identity
deriving DecidableEq, Repr

/-- A dev_file of a user-mode client or of a kernel CA. -/
structure State where
  kernelApi : Bool
  file : File
  plain : LoginFields
  sent : List Sent

/-- A retry of `teek_open_session` after `TEEC_CLIENT_INTR` is an open of its own. -/
inductive Label where
  | login (attempt : Attempt)
  | userOpen (env : Env)
  | kernelOpen (operation : KernelOpen) (kernelEnv : KernelEnv) (env : Env)

section Machine

variable (sha256 : List UInt8 → Bytes)

/-- The same change of the login fields in both places. -/
def State.store (state : State) (change : LoginFields → LoginFields) : State :=
  { state with
    file := { state.file with fields := change state.file.fields }
    plain := change state.plain }

def State.opens (state : State) (env : Env) : State :=
  let plain := if env.prepared then (setIdentity env.uid state.plain).2 else state.plain
  let result := openSession sha256 env state.file
  { state with
    file := result.2
    plain := plain
    sent :=
      match result.1 with
      | some name => ⟨name, plain.identity⟩ :: state.sent
      | none => state.sent }

def State.exec (state : State) : Label → Option State
  | .login attempt =>
      if state.kernelApi then none
      else some (state.store fun fields => (tcNsClientLoginFunc fields attempt).2)
  | .userOpen env => if state.kernelApi then none else some (state.opens sha256 env)
  | .kernelOpen operation kernelEnv env =>
      if state.kernelApi = false then none
      else
        let stored := state.store fun fields => (checkOpenSessParams operation kernelEnv fields).2
        if (checkOpenSessParams operation kernelEnv state.file.fields).1 = 0 then
          some (stored.opens sha256 env)
        else some stored

def hashMachine : Machine State Label :=
  { init := fun state =>
      state.file = ⟨.opened, false⟩ ∧ state.plain = .opened ∧ state.sent = []
    step := fun before label after => before.exec sha256 label = some after }

end Machine

/-! ### When the name is digested -/

/-- A login that stores a name, when no login has succeeded. -/
def storesName (attempt : Attempt) : Bool :=
  match attempt.parsed with
  | some cert => cert.nameLenOk
  | none => false

/-- A kernel CA's open that goes to the TEE, when the digest is already there. -/
def asks (operation : KernelOpen) (kernelEnv : KernelEnv) (env : Env) : Bool :=
  operation.argsValid && decide (operation.nameSize ≤ maxPackageNameLen - 1) &&
    kernelEnv.copied && kernelEnv.checked && env.prepared && decide (env.uid ≠ 0xFFFFFFFF) &&
    env.delivered

/-- Once the digest was made, no login stores a name and no kernel CA asks the TEE. -/
def KeepsIdentity (state : State) : Label → Prop
  | .login attempt =>
      state.file.cainfoHashSetup = true →
        state.file.fields.loginSetup = true ∨ storesName attempt = false
  | .userOpen _ => True
  | .kernelOpen operation kernelEnv env =>
      state.file.cainfoHashSetup = true → asks operation kernelEnv env = false

instance decidableKeepsIdentity (state : State) (label : Label) :
    Decidable (KeepsIdentity state label) :=
  match label with
  | .login attempt =>
      inferInstanceAs (Decidable (state.file.cainfoHashSetup = true →
        state.file.fields.loginSetup = true ∨ storesName attempt = false))
  | .userOpen _ => .isTrue trivial
  | .kernelOpen operation kernelEnv env =>
      inferInstanceAs (Decidable (state.file.cainfoHashSetup = true →
        asks operation kernelEnv env = false))

def Sent.Digested (sha256 : List UInt8 → Bytes) (sent : Sent) : Prop :=
  sent.name = (sha256 sent.identity.bytes).take sha256DigestLength.toNat

/-! ### One open -/

section Steps

variable {sha256 : List UInt8 → Bytes} {env : Env} {fields : LoginFields} {file : File}

theorem setIdentity_nameless {uid : UInt32} (nameless : fields.pkgNameLen = 0) :
    setIdentity uid fields = (-eInval, fields) :=
  if_pos nameless

theorem setIdentity_keyed {uid : UInt32} (keyed : fields.pubKeyLen ≠ 0) :
    (setIdentity uid fields).2 = fields := by
  unfold setIdentity
  rw [if_neg keyed]
  split
  · rfl
  · rfl

theorem setIdentity_accepted {uid : UInt32} (accepted : (setIdentity uid fields).1 = 0) :
    (setIdentity uid fields).2.pubKeyLen ≠ 0 := by
  unfold setIdentity at accepted ⊢
  split at accepted
  · exact absurd accepted (show (-eInval : Int) ≠ 0 by decide)
  next named =>
    rw [if_neg named]
    split at accepted
    · next keyless =>
        rw [if_pos keyless]
        split at accepted
        · exact absurd accepted (show (-eFault : Int) ≠ 0 by decide)
        · next known =>
            rw [if_neg known]
            exact show (4 : UInt32) ≠ 0 by decide
    · next keyed =>
        rw [if_neg keyed]
        exact keyed

/-- Without a name or without a uid an open is refused. -/
theorem setIdentity_refused {uid : UInt32} (keyless : fields.pubKeyLen = 0)
    (unknown : uid = 0xFFFFFFFF) : (setIdentity uid fields).1 ≠ 0 := by
  unfold setIdentity
  rw [if_pos keyless, if_pos unknown]
  split
  · exact show (-eInval : Int) ≠ 0 by decide
  · exact show (-eFault : Int) ≠ 0 by decide

theorem constructHashdata_identity {indata : List UInt8}
    (constructed : constructHashdata fields = some indata) : indata = fields.identity.bytes := by
  unfold constructHashdata at constructed
  simp only at constructed
  split at constructed
  · cases constructed
  split at constructed
  · cases constructed
  · exact (Option.some.inj constructed).symm

/-- The digest in the dev_file is that of the identity beside it. -/
structure File.Holds (sha256 : List UInt8 → Bytes) (file : File) (plain : LoginFields) :
    Prop where
  name : file.fields.pkgName.take sha256DigestLength.toNat =
    (sha256 plain.identity.bytes).take sha256DigestLength.toNat
  length : file.fields.pkgNameLen = sha256DigestLength
  keyed : file.fields.pubKeyLen ≠ 0
  plainKeyed : plain.pubKeyLen ≠ 0
  flag : plain.loginSetup = file.fields.loginSetup

theorem setLoginInformationHash_again (setup : file.cainfoHashSetup = true) :
    setLoginInformationHash sha256 env file = (0, file) :=
  if_pos setup

/-- The first digest: it is made of what the fields hold, or nothing happens. -/
theorem setLoginInformationHash_first (setup : file.cainfoHashSetup = false)
    (keyed : file.fields.pubKeyLen ≠ 0) :
    ((setLoginInformationHash sha256 env file).1 ≠ 0 ∧
        (setLoginInformationHash sha256 env file).2 = file) ∨
      ((setLoginInformationHash sha256 env file).1 = 0 ∧
        (setLoginInformationHash sha256 env file).2.cainfoHashSetup = true ∧
        (setLoginInformationHash sha256 env file).2.Holds sha256 file.fields) := by
  unfold setLoginInformationHash
  rw [if_neg (by rw [setup]; decide)]
  split
  · exact Or.inl ⟨show (-1 : Int) ≠ 0 by decide, rfl⟩
  split
  · exact Or.inl ⟨show (-eFault : Int) ≠ 0 by decide, rfl⟩
  next indata constructed =>
    split
    · exact Or.inl ⟨show (-1 : Int) ≠ 0 by decide, rfl⟩
    · rw [constructHashdata_identity constructed]
      exact Or.inr ⟨rfl, rfl, Bytes.take_copy _ _ (Nat.le_refl _), rfl, keyed, keyed, rfl⟩

theorem openSession_nameless (nameless : file.fields.pkgNameLen = 0) :
    openSession sha256 env file = (none, file) := by
  unfold openSession
  split
  · rfl
  · unfold setLoginInformation
    rw [setIdentity_nameless nameless]
    rfl

theorem setIdentity_both {uid : UInt32} (named : fields.pkgNameLen ≠ 0)
    (keyed : fields.pubKeyLen ≠ 0) : setIdentity uid fields = (0, fields) := by
  unfold setIdentity
  rw [if_neg named, if_neg keyed]

theorem openSession_again (setup : file.cainfoHashSetup = true) (named : file.fields.pkgNameLen ≠ 0)
    (keyed : file.fields.pubKeyLen ≠ 0) :
    openSession sha256 env file = (none, file) ∨
      openSession sha256 env file =
        (some (file.fields.pkgName.take file.fields.pkgNameLen.toNat), file) := by
  have set : setLoginInformation sha256 env file = (0, file) := by
    unfold setLoginInformation
    rw [setIdentity_both named keyed]
    simp only [ne_eq, not_true_eq_false, if_false, setLoginInformationHash_again setup]
  unfold openSession
  rw [set]
  split
  · exact Or.inl rfl
  simp only
  split
  · exact Or.inr rfl
  · exact Or.inl rfl

theorem openSession_setup (setup : file.cainfoHashSetup = true) :
    (openSession sha256 env file).2.cainfoHashSetup = true := by
  have set : (setLoginInformation sha256 env file).2.cainfoHashSetup = true := by
    unfold setLoginInformation
    simp only
    split
    · exact setup
    · rw [@setLoginInformationHash_again sha256 env
        { file with fields := (setIdentity env.uid file.fields).2 } setup]
      exact setup
  unfold openSession
  split
  · exact setup
  simp only
  split
  · exact set
  · exact set

theorem openSession_refused (keyless : file.fields.pubKeyLen = 0)
    (stops : env.prepared = false ∨ env.uid = 0xFFFFFFFF ∨ env.delivered = false) :
    (openSession sha256 env file).1 = none := by
  unfold openSession
  rcases stops with unprepared | unknown | undelivered
  · rw [if_pos unprepared]
  · have refused := @setIdentity_refused file.fields env.uid keyless unknown
    unfold setLoginInformation
    simp only [if_pos refused]
    split
    · rfl
    · rw [if_neg (fun both => absurd both.1 refused)]
  · split
    · rfl
    · simp only
      rw [if_neg]
      rw [undelivered]
      exact fun both => absurd both.2 (by decide)

end Steps

/-! ### Every run -/

/-- Until the digest is made the dev_file holds the identity itself; from then on a
user-mode dev_file holds its digest or no name at all. -/
structure State.Agrees (sha256 : List UInt8 → Bytes) (state : State) : Prop where
  plain : state.file.cainfoHashSetup = false → state.plain = state.file.fields
  digest : state.file.cainfoHashSetup = true → state.kernelApi = false →
    state.file.fields.pkgNameLen ≠ 0 → state.file.Holds sha256 state.plain
  sent : ∀ sent ∈ state.sent, sent.Digested sha256

section Runs

variable {sha256 : List UInt8 → Bytes} {state : State} {env : Env}

theorem File.Holds.digested {file : File} {plain : LoginFields} (holds : file.Holds sha256 plain) :
    Sent.Digested sha256
      ⟨file.fields.pkgName.take file.fields.pkgNameLen.toNat, plain.identity⟩ := by
  unfold Sent.Digested
  rw [holds.length]
  exact holds.name

theorem State.Agrees.opens_first (agrees : state.Agrees sha256)
    (setup : state.file.cainfoHashSetup = false) : (state.opens sha256 env).Agrees sha256 := by
  have same := agrees.plain setup
  unfold State.opens openSession
  cases prepared : env.prepared with
  | false => exact ⟨fun _ => same, agrees.digest, agrees.sent⟩
  | true =>
      rw [same]
      unfold setLoginInformation
      simp only [if_true, Bool.true_eq_false, if_false]
      by_cases accepted : (setIdentity env.uid state.file.fields).1 = 0
      · have keyed := setIdentity_accepted accepted
        rw [if_neg (not_not.mpr accepted)]
        rcases @setLoginInformationHash_first sha256 env
          { state.file with fields := (setIdentity env.uid state.file.fields).2 } setup keyed
          with ⟨failed, kept⟩ | ⟨made, flag, holds⟩
        · rw [if_pos failed, kept, if_neg]
          · refine ⟨fun _ => rfl, ?_, agrees.sent⟩
            intro impossible
            rw [show _ = false from setup] at impossible
            cases impossible
          · exact fun both => absurd both.1 (show (-eFault : Int) ≠ 0 by decide)
        · rw [if_neg (not_not.mpr made)]
          refine ⟨?_, ?_, ?_⟩
          · intro impossible
            split at impossible
            · rw [flag] at impossible
              cases impossible
            · rw [flag] at impossible
              cases impossible
          · intro _ _ _
            split
            · exact holds
            · exact holds
          · split
            · intro sent member
              rcases List.mem_cons.mp member with rfl | older
              · exact holds.digested
              · exact agrees.sent sent older
            · exact agrees.sent
      · rw [if_pos accepted, if_neg (fun both => absurd both.1 accepted)]
        refine ⟨fun _ => rfl, ?_, agrees.sent⟩
        intro impossible
        rw [show _ = false from setup] at impossible
        cases impossible

theorem State.Agrees.opens_again (agrees : state.Agrees sha256)
    (setup : state.file.cainfoHashSetup = true) (user : state.kernelApi = false) :
    (state.opens sha256 env).Agrees sha256 := by
  unfold State.opens
  cases prepared : env.prepared with
  | false =>
      have idle : openSession sha256 env state.file = (none, state.file) := if_pos prepared
      rw [idle]
      exact ⟨agrees.plain, agrees.digest, agrees.sent⟩
  | true =>
      by_cases nameless : state.file.fields.pkgNameLen = 0
      · rw [openSession_nameless nameless]
        refine ⟨?_, ?_, agrees.sent⟩
        · intro impossible
          rw [show _ = true from setup] at impossible
          cases impossible
        · intro _ _ named
          exact absurd nameless named
      · have holds := agrees.digest setup user nameless
        simp only [if_true]
        rw [setIdentity_keyed holds.plainKeyed]
        rcases @openSession_again sha256 env state.file setup nameless holds.keyed
          with idle | asked
        · rw [idle]
          exact ⟨agrees.plain, agrees.digest, agrees.sent⟩
        · rw [asked]
          refine ⟨agrees.plain, agrees.digest, ?_⟩
          intro sent member
          rcases List.mem_cons.mp member with rfl | older
          · exact holds.digested
          · exact agrees.sent sent older

theorem State.Agrees.opens_unasked (agrees : state.Agrees sha256)
    (setup : state.file.cainfoHashSetup = true) (kernel : state.kernelApi = true)
    (unasked : (openSession sha256 env state.file).1 = none) :
    (state.opens sha256 env).Agrees sha256 := by
  unfold State.opens
  simp only [unasked]
  refine ⟨?_, ?_, agrees.sent⟩
  · intro impossible
    have still : (openSession sha256 env state.file).2.cainfoHashSetup = true :=
      openSession_setup setup
    rw [show _ = true from still] at impossible
    cases impossible
  · intro _ impossible
    rw [show _ = true from kernel] at impossible
    cases impossible

theorem login_hashed {fields plain : LoginFields} {attempt : Attempt}
    (flag : plain.loginSetup = fields.loginSetup)
    (keeps : fields.loginSetup = true ∨ storesName attempt = false) :
    ((tcNsClientLoginFunc fields attempt).2 = fields ∧
        (tcNsClientLoginFunc plain attempt).2 = plain) ∨
      (tcNsClientLoginFunc fields attempt).2.pkgNameLen = 0 := by
  unfold tcNsClientLoginFunc
  rw [flag]
  split
  · exact Or.inl ⟨rfl, rfl⟩
  next authorised =>
    split
    · exact Or.inr rfl
    next cert buffer =>
      split
      · exact Or.inl ⟨rfl, rfl⟩
      next new =>
        split
        · exact Or.inl ⟨rfl, rfl⟩
        next space =>
          split
          · exact Or.inl ⟨rfl, rfl⟩
          next whole =>
            have parsed : attempt.parsed = some cert := by
              unfold Attempt.parsed
              rw [Bool.not_eq_false] at authorised space whole
              rw [authorised, space, whole, buffer]
              rfl
            have stores := keeps.resolve_left new
            unfold storesName at stores
            rw [parsed] at stores
            rw [parseLogin_bad_name stores]
            exact Or.inr rfl

theorem State.Agrees.login {attempt : Attempt} (agrees : state.Agrees sha256)
    (keeps : KeepsIdentity state (.login attempt)) :
    (state.store fun fields => (tcNsClientLoginFunc fields attempt).2).Agrees sha256 := by
  refine ⟨?_, ?_, agrees.sent⟩
  · intro setup
    exact congrArg (fun fields => (tcNsClientLoginFunc fields attempt).2) (agrees.plain setup)
  · intro setup user named
    change (tcNsClientLoginFunc state.file.fields attempt).2.pkgNameLen ≠ 0 at named
    by_cases nameless : state.file.fields.pkgNameLen = 0
    · -- no login gives a name to a dev_file that has lost its digest
      rcases @login_hashed state.file.fields state.file.fields attempt rfl (keeps setup)
        with ⟨same, _⟩ | none_
      · rw [same] at named
        exact absurd nameless named
      · exact absurd none_ named
    · have holds := agrees.digest setup user nameless
      rcases login_hashed holds.flag (keeps setup) with ⟨same, plain⟩ | none_
      · unfold State.store
        simp only [same, plain]
        exact holds
      · exact absurd none_ named

theorem checkOpenSessParams_accepted {operation : KernelOpen} {kernelEnv : KernelEnv}
    {fields : LoginFields} (accepted : (checkOpenSessParams operation kernelEnv fields).1 = 0) :
    (operation.argsValid = true ∧ operation.nameSize ≤ maxPackageNameLen - 1 ∧
        kernelEnv.copied = true ∧ kernelEnv.checked = true) ∧
      (checkOpenSessParams operation kernelEnv fields).2.pubKeyLen = 0 := by
  have refused : teecErrorBadParameters ≠ 0 := by decide
  unfold checkOpenSessParams at accepted ⊢
  split at accepted
  · exact absurd accepted refused
  next valid =>
    rw [if_neg valid]
    simp only at accepted ⊢
    split at accepted
    · exact absurd accepted refused
    next short =>
      rw [if_neg short]
      split at accepted
      · exact absurd accepted refused
      next copied =>
        rw [if_neg copied]
        obtain ⟨_, _, _, apart⟩ := memcpyS_eq_zero.mp (not_not.mp copied)
        refine ⟨⟨Bool.not_eq_false _ ▸ valid, UInt32.not_lt.mp short, ?_, ?_⟩, rfl⟩
        · exact (Bool.not_eq_false' _).mp apart
        · split at accepted
          · next checked => exact checked
          · exact absurd accepted refused

/-- What a kernel CA sets for its open: its name up to a NUL, and the uid. -/
theorem kernel_identity {operation : KernelOpen} {kernelEnv : KernelEnv} {fields : LoginFields}
    {uid : UInt32} (accepted : (checkOpenSessParams operation kernelEnv fields).1 = 0)
    (known : uid ≠ 0xFFFFFFFF) :
    (setIdentity uid (checkOpenSessParams operation kernelEnv fields).2).2.identity =
      { name := operation.name.take (operation.name.strnlen operation.nameSize.toNat)
        key := (Bytes.ofWord uid).take 4 } := by
  obtain ⟨⟨valid, short, copied, checked⟩, _⟩ := checkOpenSessParams_accepted accepted
  have fits : operation.nameSize.toNat ≤ 254 := UInt32.le_iff_toNat_le.mp short
  have bound := strnlen_le operation.name operation.nameSize.toNat
  have small : operation.name.strnlen operation.nameSize.toNat < UInt32.size := by
    rw [UInt32.size]
    omega
  have named : operation.nameSize ≠ 0 := by
    intro none_
    unfold KernelOpen.argsValid KernelOpen.isOperParamValid at valid
    rw [none_] at valid
    simp only [bne_self_eq_false, Bool.and_false, Bool.false_and, Bool.false_eq_true] at valid
  have whole :
      memcpyS maxPackageNameLen.toNat operation.nameSize.toNat (!kernelEnv.copied) = 0 := by
    rw [memcpyS_eq_zero, copied]
    exact ⟨by decide, by decide, Nat.le_succ_of_le fits, rfl⟩
  have cleared : fields.pkgName.copy (.ofList []) maxPackageNameLen.toNat
      operation.nameSize.toNat = 0 := if_pos (Nat.lt_succ_of_le fits)
  have length : ((fields.pkgName.copy (.ofList []) maxPackageNameLen.toNat).copy operation.name
      operation.nameSize.toNat).strnlen maxPackageNameLen.toNat =
        operation.name.strnlen operation.nameSize.toNat :=
    Bytes.strnlen_copy cleared (Nat.lt_succ_of_le fits)
  unfold checkOpenSessParams
  simp only [valid, Bool.true_eq_false, if_false, if_neg (UInt32.not_lt.mpr short), whole, ne_eq,
    not_true_eq_false]
  unfold setIdentity
  simp only [if_neg named, if_true, if_neg known, length]
  unfold LoginFields.identity
  simp only
  rw [UInt32.toNat_ofNat_of_lt' small, Bytes.take_copy _ _ bound]
  exact congrArg (Identity.mk _) (Bytes.take_copy _ _ (Nat.le_refl 4))

theorem State.Agrees.kernelStore {operation : KernelOpen} {kernelEnv : KernelEnv}
    (agrees : state.Agrees sha256) (kernel : state.kernelApi = true) :
    (state.store fun fields =>
      (checkOpenSessParams operation kernelEnv fields).2).Agrees sha256 := by
  refine ⟨?_, ?_, agrees.sent⟩
  · intro setup
    exact congrArg (fun fields => (checkOpenSessParams operation kernelEnv fields).2)
      (agrees.plain setup)
  · intro _ user
    change state.kernelApi = false at user
    rw [kernel] at user
    cases user

theorem State.Agrees.exec {after : State} {label : Label} (agrees : state.Agrees sha256)
    (keeps : KeepsIdentity state label) (ran : state.exec sha256 label = some after) :
    after.Agrees sha256 := by
  cases label with
  | login attempt =>
      rw [State.exec] at ran
      split at ran
      · cases ran
      · cases ran
        exact agrees.login keeps
  | userOpen env =>
      rw [State.exec] at ran
      split at ran
      · cases ran
      next user =>
        cases ran
        rw [Bool.not_eq_true] at user
        cases setup : state.file.cainfoHashSetup with
        | false => exact agrees.opens_first setup
        | true => exact agrees.opens_again setup user
  | kernelOpen operation kernelEnv env =>
      rw [State.exec] at ran
      split at ran
      · cases ran
      next kernel =>
        rw [Bool.not_eq_false] at kernel
        have stored := @State.Agrees.kernelStore sha256 state operation kernelEnv agrees kernel
        simp only at ran
        split at ran
        · next accepted =>
            cases ran
            obtain ⟨⟨valid, short, copied, checked⟩, keyless⟩ :=
              checkOpenSessParams_accepted accepted
            cases setup : state.file.cainfoHashSetup with
            | false => exact stored.opens_first setup
            | true =>
                refine stored.opens_unasked setup kernel (openSession_refused keyless ?_)
                have unasked := keeps setup
                unfold asks at unasked
                rw [valid, decide_eq_true short, copied, checked] at unasked
                by_contra goes
                rw [not_or, not_or, Bool.not_eq_false, Bool.not_eq_false] at goes
                rw [goes.1, decide_eq_true goes.2.1, goes.2.2] at unasked
                cases unasked
        · cases ran
          exact stored

theorem State.Agrees.of_reachable
    (reached : ((hashMachine sha256).restrict KeepsIdentity).Reachable state) :
    state.Agrees sha256 := by
  refine Machine.Reachable.invariant ?_ ?_ reached
  · intro first given
    obtain ⟨file, plain, sent⟩ := given
    refine ⟨?_, ?_, ?_⟩
    · intro _
      rw [file, plain]
    · intro setup
      rw [file] at setup
      cases setup
    · intro entry member
      rw [sent] at member
      cases member
  · intro before label after agrees given
    obtain ⟨keeps, ran⟩ := given
    exact agrees.exec keeps ran

end Runs

/-- In every run that keeps the identity of a digest, each `OPEN_SESSION` carries the
digest of the identity set for that open. -/
theorem sent_name_digested {sha256 : List UInt8 → Bytes} {state : State}
    (reached : ((hashMachine sha256).restrict KeepsIdentity).Reachable state) :
    ∀ sent ∈ state.sent, sent.name = (sha256 sent.identity.bytes).take sha256DigestLength.toNat :=
  (State.Agrees.of_reachable reached).sent

/-! ### Two opens of a kernel CA -/

def newState (kernelApi : Bool) : State :=
  { kernelApi := kernelApi, file := ⟨.opened, false⟩, plain := .opened, sent := [] }

def calmEnv : Env :=
  { prepared := true, uid := 1000, allocated := true, digested := true, delivered := true }

def kernelOpenNamed (name : List UInt8) : Label :=
  .kernelOpen { kernelOpenOf (UInt32.ofNat name.length) with name := .ofList name } ⟨true, true⟩
    calmEnv

/-- The digest of the name `cam` and the uid 1000. -/
def camDigest : List UInt8 :=
  [0x6f, 0xda, 0xa6, 0x05, 0x23, 0xfe, 0x8a, 0x31, 0xd6, 0xc7, 0x43, 0x6b,
    0x2e, 0x5a, 0x7a, 0x27, 0x19, 0x64, 0x14, 0x5a, 0xbc, 0xa6, 0x34, 0x27,
    0x60, 0x0a, 0xcb, 0x5c, 0x95, 0x1d, 0xd3, 0x73]

theorem sent_name_digested_once :
    ∃ state : State, state.sent.map Sent.name = [camDigest] ∧
      ∀ sent ∈ state.sent,
        sent.name = (Bytes.ofList camDigest).take sha256DigestLength.toNat := by
  obtain ⟨state, reached, sent⟩ := Machine.Reachable.exists_of_replay
    (Machine.guarded_sound (fun _ _ _ ran => ran))
    (Machine.Reachable.start ⟨rfl, rfl, rfl⟩ :
      ((hashMachine fun _ => .ofList camDigest).restrict KeepsIdentity).Reachable (newState true))
    (show (Machine.replay (Machine.guarded KeepsIdentity (State.exec fun _ => .ofList camDigest))
      (newState true) [kernelOpenNamed [99, 97, 109]]).map
        (fun state => decide (state.sent.map Sent.name = [camDigest])) = some true by
          decide +kernel)
  exact ⟨state, of_decide_eq_true sent, sent_name_digested reached⟩

/-- The second open of a kernel CA sends its name as it is, which is too short for any
digest. -/
theorem kernel_name_again (sha256 : List UInt8 → Bytes) :
    ∃ state, (hashMachine sha256).Reachable state ∧
      ∃ sent ∈ state.sent,
        sent.name ≠ (sha256 sent.identity.bytes).take sha256DigestLength.toNat := by
  have ran : (Machine.replay (State.exec sha256) (newState true)
      [kernelOpenNamed [99, 97, 109], kernelOpenNamed [99, 97, 109]]).map
        (fun state => state.sent.head?.map Sent.name) = some (some [99, 97, 109]) := rfl
  obtain ⟨state, replayed, named⟩ := Option.map_eq_some_iff.mp ran
  obtain ⟨sent, first, name⟩ := Option.map_eq_some_iff.mp named
  have reached : (hashMachine sha256).Reachable state :=
    Machine.Reachable.of_replay (fun _ _ _ ran => ran) (.start ⟨rfl, rfl, rfl⟩) replayed
  refine ⟨state, reached, sent, List.mem_of_mem_head? first, ?_⟩
  intro digested
  have lengths := congrArg List.length (name.symm.trans digested)
  rw [Bytes.length_take] at lengths
  cases lengths

theorem second_kernel_open_undigested :
    ∃ state, (hashMachine fun _ => .ofList camDigest).Reachable state ∧
      ∃ sent ∈ state.sent,
        sent.name ≠ (Bytes.ofList camDigest).take sha256DigestLength.toNat :=
  kernel_name_again fun _ => .ofList camDigest

end Hash

end TzDriver.Login
