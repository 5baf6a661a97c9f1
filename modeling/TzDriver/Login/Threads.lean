/-
Logins and opens of the Linux driver on one dev_file, store by store
(`tc_ns_client_login_func` in `linux/core/tc_client_driver.c`,
`check_open_sess_params` in `linux/core/teek_client_api.c`,
`set_login_information` in `linux/core/session_manager.c` and the kernel-mode reads
of `alloc_for_tmp_mem` in `linux/core/gp_ops.c`).

A section of a thread makes one access to the login fields; `login_setup_lock` is
held by logins with a buffer only.
-/

import Mathlib.Logic.Function.Basic
import TzDriver.Client.Operation
import TzDriver.Lib.Runs
import TzDriver.Login.Fields

namespace TzDriver.Login

open TzDriver.Client TzDriver.Lib TzDriver.Session

def teecErrorBadParameters : Int := 0xFFFF0006

/-! ### The open of a kernel CA -/

/-- The arguments of `teek_open_session` that the driver looks at; `present` tells
that `context`, `operation`, `destination` and the dev_file are not NULL. -/
structure KernelOpen where
  present : Bool
  connectionMethod : UInt32
  paramTypes : UInt32
  keyBuffer : UInt64
  keySize : UInt32
  nameBuffer : UInt64
  nameSize : UInt32
  name : Bytes

namespace KernelOpen

variable (operation : KernelOpen)

def isOperParamValid : Bool :=
  teecParamTypeGet operation.paramTypes 3 == .memrefTempInput &&
    teecParamTypeGet operation.paramTypes 2 == .memrefTempInput &&
    operation.nameBuffer != 0 && operation.keyBuffer != 0 &&
    operation.nameSize != 0 && operation.keySize != 0

/-- The checks of `check_open_sess_params` before its first store. -/
def argsValid : Bool :=
  operation.present && operation.connectionMethod == teecLoginIdentify &&
    operation.isOperParamValid

end KernelOpen

/-! ### Threads -/

/-- Where a thread stands; each name is the access that comes next. -/
inductive Point where
  | idle
  | clearNameLen
  | clearKeyLen
  | lockLogin (cert : Bytes)
  | testSetup (cert : Bytes)
  | resetNameLen (cert : Bytes)
  | storeNameLen (cert : Bytes)
  | copyName (cert : Bytes)
  | skipName (cert : Bytes)
  | resetKeyLen (cert : Bytes)
  | storeKeyLen (cert : Bytes)
  | testKeyLen (cert : Bytes)
  | copyKey (cert : Bytes)
  | setSetup (ret : Int)
  | unlockLogin (ret : Int)
  -- the checks of a kernel CA's open
  | kernelNameLen (operation : KernelOpen)
  | kernelName (operation : KernelOpen)
  | kernelKeyLen
  | kernelSetup
  -- the login parameters of an open
  | openNameLen
  | openKeyLen
  | copyUid (uid : UInt32)
  | storeUidLen
  | readKeyLen
  | readKey (length : UInt32)
  | readNameLen
  | readName (length : UInt32)
  | asked
  | returned (ret : Int)

/-- What a section meets outside the driver: allocations, copies, the uid of the
caller and the result of `teek_check_operation`. -/
structure Choice where
  allocated : Bool
  copied : Bool
  uid : UInt32
  checked : Bool

structure Shared where
  fields : LoginFields
  lock : Option Nat

section Sections

variable (choice : Choice) (id : Nat) (shared : Shared)

/-- `get_pack_name_len` after its first store. -/
def storeNameLenSection (cert : Bytes) : Shared × Point :=
  let tmpLen := cert.word 0
  if tmpLen = 0 ∨ tmpLen ≥ maxPackageNameLen then (shared, .unlockLogin (-eInval))
  else
    ({ shared with fields := { shared.fields with pkgNameLen := tmpLen } }, .copyName (cert.drop 4))

def copyNameSection (cert : Bytes) : Shared × Point :=
  let copied := strncpyS shared.fields.pkgName maxPackageNameLen.toNat cert
    shared.fields.pkgNameLen.toNat
  ({ shared with fields := { shared.fields with pkgName := copied.2 } },
    if copied.1 ≠ 0 then .unlockLogin (-eNoMem) else .skipName cert)

/-- `get_public_key_len` after its first store. -/
def storeKeyLenSection (cert : Bytes) : Shared × Point :=
  let tmpLen := cert.word 0
  if tmpLen > maxPubkeyLen then (shared, .unlockLogin (-eInval))
  else
    ({ shared with fields := { shared.fields with pubKeyLen := tmpLen } },
      .testKeyLen (cert.drop 4))

/-- The `memcpy_s` of `get_public_key`, with the length read again. -/
def copyKeySection (cert : Bytes) : Shared × Point :=
  let length := shared.fields.pubKeyLen.toNat
  if memcpyS maxPubkeyLen.toNat length false ≠ 0 then (shared, .setSetup (-eInval))
  else
    ({ shared with
        fields := { shared.fields with pubKey := shared.fields.pubKey.copy cert length } },
      .setSetup 0)

/-- `check_open_sess_params` stores the length before it looks at it. -/
def kernelNameLenSection (operation : KernelOpen) : Shared × Point :=
  ({ shared with fields := { shared.fields with pkgNameLen := operation.nameSize } },
    if operation.nameSize > maxPackageNameLen - 1 then .returned teecErrorBadParameters
    else .kernelName operation)

/-- `memset_s` and `memcpy_s` of the name. -/
def kernelNameSection (operation : KernelOpen) : Shared × Point :=
  let cleared := shared.fields.pkgName.copy (.ofList []) maxPackageNameLen.toNat
  if memcpyS maxPackageNameLen.toNat operation.nameSize.toNat (!choice.copied) ≠ 0 then
    ({ shared with fields := { shared.fields with pkgName := cleared } },
      .returned teecErrorBadParameters)
  else
    ({ shared with
        fields :=
          { shared.fields with
            pkgName := cleared.copy operation.name operation.nameSize.toNat } },
      .kernelKeyLen)

/-- The end of a size read of `alloc_for_tmp_mem`: the temporary buffer. -/
def sizedRead (length : UInt32) (next : Point) : Point :=
  if length > maxSharedSize then .returned (-eFault)
  else if choice.allocated = false then .returned (-eNoMem)
  else next

/-- One section of a thread; `none` where it has nothing to do or has to wait. -/
def Point.advance : Point → Option (Shared × Point)
  | .idle => none
  | .clearNameLen =>
      some ({ shared with fields := { shared.fields with pkgNameLen := 0 } }, .clearKeyLen)
  | .clearKeyLen =>
      some ({ shared with fields := { shared.fields with pubKeyLen := 0 } }, .returned 0)
  | .lockLogin cert =>
      if shared.lock = none then some ({ shared with lock := some id }, .testSetup cert) else none
  | .testSetup cert =>
      if shared.fields.loginSetup then some (shared, .unlockLogin (-eInval))
      else if choice.allocated = false then some (shared, .unlockLogin (-eNoMem))
      else if choice.copied = false then some (shared, .unlockLogin (-eInval))
      else some (shared, .resetNameLen cert)
  | .resetNameLen cert =>
      some ({ shared with fields := { shared.fields with pkgNameLen := 0 } }, .storeNameLen cert)
  | .storeNameLen cert => some (storeNameLenSection shared cert)
  | .copyName cert => some (copyNameSection shared cert)
  | .skipName cert => some (shared, .resetKeyLen (cert.drop shared.fields.pkgNameLen.toNat))
  | .resetKeyLen cert =>
      some ({ shared with fields := { shared.fields with pubKeyLen := 0 } }, .storeKeyLen cert)
  | .storeKeyLen cert => some (storeKeyLenSection shared cert)
  | .testKeyLen cert =>
      some (shared, if shared.fields.pubKeyLen = 0 then .setSetup 0 else .copyKey cert)
  | .copyKey cert => some (copyKeySection shared cert)
  | .setSetup ret =>
      some ({ shared with fields := { shared.fields with loginSetup := true } }, .unlockLogin ret)
  | .unlockLogin ret => some ({ shared with lock := none }, .returned ret)
  | .kernelNameLen operation => some (kernelNameLenSection shared operation)
  | .kernelName operation => some (kernelNameSection choice shared operation)
  | .kernelKeyLen =>
      some ({ shared with fields := { shared.fields with pubKeyLen := 0 } }, .kernelSetup)
  | .kernelSetup =>
      some ({ shared with fields := { shared.fields with loginSetup := true } },
        if choice.checked then .openNameLen else .returned teecErrorBadParameters)
  | .openNameLen =>
      some (shared, if shared.fields.pkgNameLen = 0 then .returned (-eInval) else .openKeyLen)
  | .openKeyLen =>
      some (shared,
        if shared.fields.pubKeyLen ≠ 0 then .readKeyLen
        else if choice.uid = 0xFFFFFFFF then .returned (-eFault)
        else .copyUid choice.uid)
  | .copyUid uid =>
      some ({ shared with
        fields := { shared.fields with pubKey := shared.fields.pubKey.copy (.ofWord uid) 4 } },
        .storeUidLen)
  | .storeUidLen =>
      some ({ shared with fields := { shared.fields with pubKeyLen := 4 } }, .readKeyLen)
  | .readKeyLen =>
      some (shared, sizedRead choice shared.fields.pubKeyLen (.readKey shared.fields.pubKeyLen))
  | .readKey _ => some (shared, .readNameLen)
  | .readNameLen =>
      some (shared, sizedRead choice shared.fields.pkgNameLen (.readName shared.fields.pkgNameLen))
  | .readName _ => some (shared, .asked)
  | .asked => none
  | .returned _ => none

end Sections

/-! ### Runs -/

/-- A call on the dev_file; a login has passed `tc_login_check` and an open its
checks of the client's own parameters. -/
inductive Call where
  | login (cert : Option Bytes)
  | kernelOpen (operation : KernelOpen)
  | openSession

def Call.first : Call → Point
  | .login none => .clearNameLen
  | .login (some cert) => .lockLogin cert
  | .kernelOpen operation =>
      if operation.argsValid then .kernelNameLen operation else .returned teecErrorBadParameters
  | .openSession => .openNameLen

inductive Label where
  | begin_ (id : Nat) (call : Call)
  | run (id : Nat) (choice : Choice)

structure State where
  shared : Shared
  threads : Nat → Point

namespace State

def goes (state : State) (id : Nat) (shared : Shared) (point : Point) : State :=
  { shared := shared, threads := Function.update state.threads id point }

/-- A thread takes up a call when it has none. -/
def exec (state : State) : Label → Option State
  | .begin_ id call =>
      match state.threads id with
      | .idle => some (state.goes id state.shared call.first)
      | _ => none
  | .run id choice =>
      ((state.threads id).advance choice id state.shared).map fun next =>
        state.goes id next.1 next.2

end State

def loginMachine : Machine State Label :=
  { init := fun state =>
      state.shared = ⟨.opened, none⟩ ∧ ∀ id, state.threads id = .idle
    step := fun before label after => before.exec label = some after }

/-- A kernel CA whose open comes to the store of its name length has a name that
fits. -/
def NameFits (_ : State) : Label → Prop
  | .begin_ _ (.kernelOpen operation) =>
      operation.argsValid = true → operation.nameSize ≤ maxPackageNameLen - 1
  | _ => True

/-- What a thread at a point may still store or read. -/
def Point.Within : Point → Prop
  | .kernelNameLen operation => operation.nameSize ≤ maxPackageNameLen - 1
  | .readKey length => length ≤ maxPubkeyLen
  | .readName length => length < maxPackageNameLen
  | _ => True

/-! ### One section -/

section Steps

variable {choice : Choice} {id : Nat} {shared : Shared}

theorem LoginFields.Fit.of_lengths {before after : LoginFields} (fit : before.Fit)
    (name : after.pkgNameLen = before.pkgNameLen) (key : after.pubKeyLen = before.pubKeyLen) :
    after.Fit :=
  ⟨name ▸ fit.name, key ▸ fit.key⟩

theorem LoginFields.Fit.setName {fields : LoginFields} (fit : fields.Fit) {length : UInt32}
    (short : length < maxPackageNameLen) : { fields with pkgNameLen := length }.Fit :=
  ⟨short, fit.key⟩

theorem LoginFields.Fit.setKey {fields : LoginFields} (fit : fields.Fit) {length : UInt32}
    (short : length ≤ maxPubkeyLen) : { fields with pubKeyLen := length }.Fit :=
  ⟨fit.name, short⟩

theorem sizedRead_within {length : UInt32} {next : Point} (within : next.Within) :
    (sizedRead choice length next).Within := by
  unfold sizedRead
  split
  · trivial
  split
  · trivial
  · exact within

theorem storeNameLenSection_fit {cert : Bytes} (fit : shared.fields.Fit) :
    (storeNameLenSection shared cert).1.fields.Fit ∧
      (storeNameLenSection shared cert).2.Within := by
  unfold storeNameLenSection
  simp only
  split
  · exact ⟨fit, trivial⟩
  · next inRange =>
      have short : cert.word 0 < maxPackageNameLen := by
        rw [not_or] at inRange
        exact UInt32.not_le.mp inRange.2
      exact ⟨fit.setName short, trivial⟩

theorem copyNameSection_fit {cert : Bytes} (fit : shared.fields.Fit) :
    (copyNameSection shared cert).1.fields.Fit ∧ (copyNameSection shared cert).2.Within := by
  unfold copyNameSection
  refine ⟨fit.of_lengths rfl rfl, ?_⟩
  simp only
  split
  · trivial
  · trivial

theorem storeKeyLenSection_fit {cert : Bytes} (fit : shared.fields.Fit) :
    (storeKeyLenSection shared cert).1.fields.Fit ∧
      (storeKeyLenSection shared cert).2.Within := by
  unfold storeKeyLenSection
  simp only
  split
  · exact ⟨fit, trivial⟩
  · next inRange => exact ⟨fit.setKey (UInt32.not_lt.mp inRange), trivial⟩

theorem copyKeySection_fit {cert : Bytes} (fit : shared.fields.Fit) :
    (copyKeySection shared cert).1.fields.Fit ∧ (copyKeySection shared cert).2.Within := by
  unfold copyKeySection
  simp only
  split
  · exact ⟨fit, trivial⟩
  · exact ⟨fit.of_lengths rfl rfl, trivial⟩

theorem kernelNameLenSection_fit {operation : KernelOpen} (fit : shared.fields.Fit)
    (within : (Point.kernelNameLen operation).Within) :
    (kernelNameLenSection shared operation).1.fields.Fit ∧
      (kernelNameLenSection shared operation).2.Within := by
  have short : operation.nameSize < maxPackageNameLen :=
    UInt32.lt_of_le_of_lt within (by decide)
  unfold kernelNameLenSection
  refine ⟨fit.setName short, ?_⟩
  simp only
  split
  · trivial
  · trivial

theorem kernelNameSection_fit {operation : KernelOpen} (fit : shared.fields.Fit) :
    (kernelNameSection choice shared operation).1.fields.Fit ∧
      (kernelNameSection choice shared operation).2.Within := by
  unfold kernelNameSection
  simp only
  split
  · exact ⟨fit.of_lengths rfl rfl, trivial⟩
  · exact ⟨fit.of_lengths rfl rfl, trivial⟩

/-- Every section of a thread keeps the lengths in their fields. -/
theorem Point.advance_fit {point : Point} {next : Shared × Point} (fit : shared.fields.Fit)
    (within : point.Within) (ran : point.advance choice id shared = some next) :
    next.1.fields.Fit ∧ next.2.Within := by
  cases point with
  | idle => cases ran
  | asked => cases ran
  | returned ret => cases ran
  | clearNameLen =>
      cases ran
      exact ⟨fit.setName (by decide), trivial⟩
  | clearKeyLen =>
      cases ran
      exact ⟨fit.setKey (by decide), trivial⟩
  | lockLogin cert =>
      rw [advance] at ran
      split at ran
      · cases ran
        exact ⟨fit, trivial⟩
      · cases ran
  | testSetup cert =>
      rw [advance] at ran
      split at ran
      · cases ran
        exact ⟨fit, trivial⟩
      split at ran
      · cases ran
        exact ⟨fit, trivial⟩
      split at ran
      · cases ran
        exact ⟨fit, trivial⟩
      · cases ran
        exact ⟨fit, trivial⟩
  | resetNameLen cert =>
      cases ran
      exact ⟨fit.setName (by decide), trivial⟩
  | storeNameLen cert =>
      cases ran
      exact storeNameLenSection_fit fit
  | copyName cert =>
      cases ran
      exact copyNameSection_fit fit
  | skipName cert =>
      cases ran
      exact ⟨fit, trivial⟩
  | resetKeyLen cert =>
      cases ran
      exact ⟨fit.setKey (by decide), trivial⟩
  | storeKeyLen cert =>
      cases ran
      exact storeKeyLenSection_fit fit
  | testKeyLen cert =>
      cases ran
      refine ⟨fit, ?_⟩
      simp only
      split
      · trivial
      · trivial
  | copyKey cert =>
      cases ran
      exact copyKeySection_fit fit
  | setSetup ret =>
      cases ran
      exact ⟨fit.of_lengths rfl rfl, trivial⟩
  | unlockLogin ret =>
      cases ran
      exact ⟨fit, trivial⟩
  | kernelNameLen operation =>
      cases ran
      exact kernelNameLenSection_fit fit within
  | kernelName operation =>
      cases ran
      exact kernelNameSection_fit fit
  | kernelKeyLen =>
      cases ran
      exact ⟨fit.setKey (by decide), trivial⟩
  | kernelSetup =>
      cases ran
      refine ⟨fit.of_lengths rfl rfl, ?_⟩
      simp only
      split
      · trivial
      · trivial
  | openNameLen =>
      cases ran
      refine ⟨fit, ?_⟩
      simp only
      split
      · trivial
      · trivial
  | openKeyLen =>
      cases ran
      refine ⟨fit, ?_⟩
      simp only
      split
      · trivial
      split
      · trivial
      · trivial
  | copyUid uid =>
      cases ran
      exact ⟨fit.of_lengths rfl rfl, trivial⟩
  | storeUidLen =>
      cases ran
      exact ⟨fit.setKey (by decide), trivial⟩
  | readKeyLen =>
      cases ran
      exact ⟨fit, sizedRead_within fit.key⟩
  | readKey length =>
      cases ran
      exact ⟨fit, trivial⟩
  | readNameLen =>
      cases ran
      exact ⟨fit, sizedRead_within fit.name⟩
  | readName length =>
      cases ran
      exact ⟨fit, trivial⟩

end Steps

/-! ### Every run -/

structure State.Bounded (state : State) : Prop where
  fit : state.shared.fields.Fit
  within : ∀ id, (state.threads id).Within

theorem State.Bounded.goes {state : State} (bounded : state.Bounded) {id : Nat} {shared : Shared}
    {point : Point} (fit : shared.fields.Fit) (within : point.Within) :
    (state.goes id shared point).Bounded := by
  refine ⟨fit, ?_⟩
  intro other
  change (Function.update state.threads id point other).Within
  by_cases same : other = id
  · subst same
    rw [Function.update_self]
    exact within
  · rw [Function.update_of_ne same]
    exact bounded.within other

theorem Call.first_within {call : Call}
    (fits : ∀ operation, call = .kernelOpen operation → operation.argsValid = true →
      operation.nameSize ≤ maxPackageNameLen - 1) : call.first.Within := by
  cases call with
  | login cert =>
      cases cert with
      | none => trivial
      | some cert => trivial
  | kernelOpen operation =>
      rw [first]
      split
      · next valid => exact fits operation rfl valid
      · trivial
  | openSession => trivial

theorem State.Bounded.exec {before after : State} {label : Label} (bounded : before.Bounded)
    (fits : NameFits before label) (ran : before.exec label = some after) : after.Bounded := by
  cases label with
  | begin_ id call =>
      rw [State.exec] at ran
      split at ran
      · cases ran
        refine bounded.goes bounded.fit (Call.first_within ?_)
        intro operation same
        subst same
        exact fits
      · cases ran
  | run id choice =>
      obtain ⟨next, ranNext, rfl⟩ := Option.map_eq_some_iff.mp ran
      obtain ⟨fit, within⟩ := Point.advance_fit bounded.fit (bounded.within id) ranNext
      exact bounded.goes fit within

theorem State.Bounded.of_reachable {state : State}
    (reached : (loginMachine.restrict NameFits).Reachable state) : state.Bounded := by
  refine Machine.Reachable.invariant ?_ ?_ reached
  · intro first given
    obtain ⟨shared, idle⟩ := given
    constructor
    · rw [shared]
      exact LoginFields.opened_fit
    · intro id
      rw [idle id]
      trivial
  · intro before label after bounded given
    obtain ⟨fits, ran⟩ := given
    exact bounded.exec fits ran

/-- In every run whose kernel CAs come with names that fit, both lengths fit their
fields at every point, and so does every part of them that an open is reading. -/
theorem concurrent_login_lengths_fit {state : State}
    (reached : (loginMachine.restrict NameFits).Reachable state) :
    state.shared.fields.pkgNameLen < maxPackageNameLen ∧
      state.shared.fields.pubKeyLen ≤ maxPubkeyLen ∧
      ∀ id length,
        (state.threads id = .readName length → (FieldRead.name length.toNat).Inside) ∧
        (state.threads id = .readKey length → (FieldRead.key length.toNat).Inside) := by
  have bounded := State.Bounded.of_reachable reached
  refine ⟨bounded.fit.name, bounded.fit.key, ?_⟩
  intro id length
  have within := bounded.within id
  constructor
  · intro reads
    rw [reads] at within
    exact Nat.le_of_lt (UInt32.lt_iff_toNat_lt.mp within)
  · intro reads
    rw [reads] at within
    exact UInt32.le_iff_toNat_le.mp within

/-- The steps of user-mode clients: no kernel CA has the dev_file. -/
def NoKernelCa (_ : State) : Label → Prop
  | .begin_ _ (.kernelOpen _) => False
  | _ => True

theorem NoKernelCa.nameFits {state : State} {label : Label} (user : NoKernelCa state label) :
    NameFits state label := by
  cases label with
  | begin_ id call =>
      cases call with
      | login cert => trivial
      | kernelOpen operation => exact absurd user (fun none_ => none_)
      | openSession => trivial
  | run id choice => trivial

/-! ### Two opens of a kernel CA -/

def idleState : State :=
  { shared := ⟨.opened, none⟩, threads := fun _ => .idle }

def kernelOpenOf (nameSize : UInt32) : KernelOpen :=
  { present := true, connectionMethod := teecLoginIdentify, paramTypes := 0x5500
    keyBuffer := 0xffff000000300000, keySize := 4, nameBuffer := 0xffff000000300100
    nameSize := nameSize, name := .ofList [99, 97, 109] }

def calmChoice : Choice :=
  { allocated := true, copied := true, uid := 1000, checked := true }

def kernelRun (nameSize : UInt32) (sections : Nat) : Option State :=
  Machine.replay State.exec idleState
    (.begin_ 0 (.kernelOpen (kernelOpenOf nameSize)) :: List.replicate sections (.run 0 calmChoice))

instance (state : State) : (label : Label) → Decidable (NameFits state label)
  | .begin_ _ (.kernelOpen operation) =>
      inferInstanceAs (Decidable
        (operation.argsValid = true → operation.nameSize ≤ maxPackageNameLen - 1))
  | .begin_ _ (.login _) => isTrue trivial
  | .begin_ _ .openSession => isTrue trivial
  | .run _ _ => isTrue trivial

/-- The second open stores the length of its name before the first one reads it. -/
def kernelRuns : List Label :=
  .begin_ 0 (.kernelOpen (kernelOpenOf 3)) :: List.replicate 10 (.run 0 calmChoice) ++
    [.begin_ 1 (.kernelOpen (kernelOpenOf 100)), .run 1 calmChoice, .run 0 calmChoice]

theorem concurrent_login_lengths_fit_kernel :
    ∃ state : State, state.threads 0 = .readName 100 ∧ (FieldRead.name 100).Inside ∧
      state.shared.fields.pkgNameLen < maxPackageNameLen ∧
      state.shared.fields.pubKeyLen ≤ maxPubkeyLen := by
  have stepped : ∀ before label after,
      Machine.guarded NameFits State.exec before label = some after →
        (loginMachine.restrict NameFits).step before label after :=
    Machine.guarded_sound fun _ _ _ ran => ran
  have start : (loginMachine.restrict NameFits).Reachable idleState :=
    .start ⟨rfl, fun _ => rfl⟩
  have ran : (Machine.replay (Machine.guarded NameFits State.exec) idleState kernelRuns).map
      (fun state =>
        match state.threads 0 with
        | .readName length => decide (length = 100)
        | _ => false) = some true := by
    decide +kernel
  obtain ⟨state, reached, reads⟩ := start.exists_of_replay stepped ran
  have place : state.threads 0 = .readName 100 := by
    split at reads
    · next length at_ => rw [at_, of_decide_eq_true reads]
    · cases reads
  have fits := concurrent_login_lengths_fit reached
  exact ⟨state, place, (fits.2.2 0 100).1 place, fits.1, fits.2.1⟩

/-- The refused open of a kernel CA leaves the length of its name in the dev_file. -/
theorem kernel_open_leaves_long_name :
    ∃ state, loginMachine.Reachable state ∧
      ¬ state.shared.fields.pkgNameLen < maxPackageNameLen := by
  have ran : (kernelRun 4096 1).map
      (fun state => decide (¬ state.shared.fields.pkgNameLen < maxPackageNameLen)) =
        some true := by decide
  obtain ⟨state, reached, long⟩ := Machine.Reachable.exists_of_replay
    (fun _ _ _ stepped => stepped)
    (Machine.Reachable.start ⟨rfl, fun _ => rfl⟩ : loginMachine.Reachable idleState) ran
  exact ⟨state, reached, of_decide_eq_true long⟩

end TzDriver.Login
