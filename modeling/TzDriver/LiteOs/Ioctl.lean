/-
The session ioctls of the LiteOS driver (`liteos/core/session_manager.c`), each run
without interruption by another.

The tables are those of the Linux driver.  The context is copied back as the open left
it: `set_login_information` writes addresses of the dev_file into it, and nothing takes
them out again.
-/

import TzDriver.LiteOs.Call
import TzDriver.LiteOs.LoadImage
import TzDriver.LiteOs.Login
import TzDriver.Session.Ioctl

namespace TzDriver.LiteOs

open TzDriver.Client TzDriver.Session

/-! ### The dev_file in memory -/

/-- Where the login fields of a dev_file lie; `base` is the address of `pkg_name_len`,
and the other three follow it in the struct. -/
structure Location where
  base : UInt32
  inMemory : 0 < base.toNat ∧ base.toNat + 1288 ≤ 2 ^ 32

/-- A dev_file at a place. -/
def Location.place (location : Location) (file : DevFile) : DevFile :=
  { file with
    pkgNameLenAddr := location.base.toUInt64
    pkgNameAddr := (location.base + 4).toUInt64
    pubKeyLenAddr := (location.base + 260).toUInt64
    pubKeyAddr := (location.base + 264).toUInt64 }

/-! ### The login -/

def pointWords (param : ClientParam) (sizeAddr bufferAddr : UInt64) : ClientParam :=
  { param with sizeAddr := sizeAddr.toUInt32, buffer := bufferAddr.toUInt32 }

def setParam (context : ClientContext) (index : Fin 4) (sizeAddr bufferAddr : UInt64) :
    ClientContext :=
  { context with
    params := Function.update context.params index
      (pointWords (context.params index) sizeAddr bufferAddr) }

/-- `set_login_information`, with the context it writes.  Without a uid the package
name stays in parameter 3. -/
def setLoginContext (caUid : UInt32) (file : DevFile) (context : ClientContext) :
    Int × DevFile × ClientContext :=
  if file.pkgNameLen = 0 then (-eInval, file, context)
  else
    let named := setParam context 3 file.pkgNameLenAddr file.pkgNameAddr
    let keyed := setParam named 2 file.pubKeyLenAddr file.pubKeyAddr
    let typed := { keyed with paramTypes := loginTypes context.paramTypes }
    if file.pubKeyLen ≠ 0 then (0, file, typed)
    else if caUid = 0xFFFFFFFF then (-eFault, file, named)
    else (0, { file with pubKeyLen := 4 }, typed)

/-- The two accounts of `set_login_information` agree on the result and on the dev_file. -/
theorem setLoginContext_fields {caUid : UInt32} {file : DevFile} {context : ClientContext}
    {fields : Login.LoginFields} (name : file.pkgNameLen = fields.pkgNameLen)
    (key : file.pubKeyLen = fields.pubKeyLen) :
    (setLoginContext caUid file context).1 = (setLoginInformation caUid fields).1 ∧
      (setLoginContext caUid file context).2.1.pubKeyLen =
        (setLoginInformation caUid fields).2.pubKeyLen := by
  unfold setLoginContext setLoginInformation
  rw [name, key]
  split
  · exact ⟨rfl, key⟩
  dsimp only
  split
  · exact ⟨rfl, key⟩
  split
  · exact ⟨rfl, key⟩
  · exact ⟨rfl, rfl⟩

/-- `tc_user_param_valid` for the parameters 0 and 1 of a user-mode client. -/
def loginParamsValid (env : LoginEnv) (file : DevFile) (context : ClientContext) : Bool :=
  (userParamsValid env file
    { context with params := fun index => lowWords (context.params index) }).1

structure LoginResult where
  ret : Int
  file : DevFile
  context : ClientContext
  flags : UInt8

def checkLoginMethod (env : LoginEnv) (file : DevFile) (context : ClientContext)
    (flags : UInt8) : LoginResult :=
  if context.loginMethod ≠ teecLoginIdentify then ⟨-eInval, file, context, flags⟩
  else if loginParamsValid env file context = false then ⟨-eInval, file, context, flags⟩
  else
    let (ret, keyed, placed) := setLoginContext env.caUid file context
    ⟨ret, keyed, placed, if ret = 0 then flags ||| tcCallLogin else flags⟩

/-! ### The session calls -/

/-- What one session ioctl meets outside the driver. -/
structure SessionEnv (platform : Platform) where
  userContext : Option ClientContext
  contextWrite : Bool
  login : LoginEnv
  serviceAlloc : Bool
  sessionAlloc : Bool
  authHash : Bool
  load : LoadEnv
  task : Option ProcessMode
  call : SettledEnv platform

/-- In a login call the size words of parameters 2 and 3 are the dev_file's own. -/
def loginEnv {platform : Platform} (env : SettledEnv platform) (file : DevFile) :
    SettledEnv platform :=
  { toCallEnv := loginCallEnv env.toCallEnv file, settled := env.settled }

/-- How a session call returns; `sent` is the exchange of its own command. -/
structure Outcome (Dev : Type) where
  ret : Int
  tables : Tables Dev
  context : ClientContext
  sent : Option Exchange

section Calls

variable {platform : Platform} {Dev : Type} [DecidableEq Dev] (env : SessionEnv platform)
  (tables : Tables Dev) (dev : Dev) (file : DevFile) (context : ClientContext)

/-- `load_ta_image` for an open: its result, and the context with the origin of an
error that came from the TEE. -/
def loadContext : Int × ClientContext :=
  let load := loadTaImage env.load env.task context.fileAddr.toUInt64 context.fileSize
  (load.ret,
    if load.ret ≠ 0 ∧ load.origin ≠ teecOriginComms then
      { context with returnsOrigin := load.origin }
    else context)

def procOpenSession (service : Nat) (flags : UInt8) : Outcome Dev :=
  let (loaded, loadedContext) := loadContext env context
  if loaded ≠ 0 then ⟨loaded, tables, loadedContext, none⟩
  else
    let result := tcClientCall (loginEnv env.call file) ⟨file, loadedContext, .opening, flags⟩
    if result.ret ≠ 0 then ⟨result.ret, tables, result.context, result.sent⟩
    else
      ⟨0, tables.initNewSessNode dev service result.context.sessionId, result.context,
        result.sent⟩

/-- `tc_ns_open_session` once a service is referenced. -/
def openWithService (service : Nat) (flags : UInt8) : Outcome Dev :=
  if env.sessionAlloc = false then ⟨-eNoMem, tables.dropService dev service, context, none⟩
  else if env.authHash = false then ⟨-eFault, tables.dropService dev service, context, none⟩
  else
    let opened := procOpenSession env tables dev file context service flags
    if opened.ret = 0 then opened
    else { opened with tables := opened.tables.dropService dev service }

def tcNsOpenSession : Outcome Dev :=
  let login := checkLoginMethod env.login file context tcCallGlobal
  if login.ret ≠ 0 then ⟨login.ret, tables, login.context, none⟩
  else
    let asked := { login.context with cmdId := globalCmdIdOpenSession }
    match tables.findService env.serviceAlloc dev asked.uuid with
    | (after, none) => ⟨-eNoMem, after, asked, none⟩
    | (after, some service) => openWithService env after dev login.file asked service login.flags

def getServiceSession : Tables Dev × Option (Nat × Option Nat) :=
  match tables.tcFindServiceInDev dev context.uuid with
  | (touched, none) => (touched, none)
  | (touched, some service) =>
      let (looked, session) :=
        (touched.getServiceStruct service).getSession service context.sessionId dev
      (looked, some (service, session))

def closeSession (uuid : Uuid) (sessionId : UInt32) : CallResult :=
  tcClientCall env.call ⟨file, closeContext uuid sessionId, .opened, tcCallGlobal ||| tcCallSync⟩

/-- `tc_ns_close_session`.  The result of the TEE call is dropped. -/
def tcNsCloseSession : Outcome Dev :=
  match getServiceSession tables dev context with
  | (touched, none) => ⟨-eInval, touched, context, none⟩
  | (looked, some (service, none)) => ⟨-eInval, looked.putServiceStruct service, context, none⟩
  | (looked, some (service, some session)) =>
      let result := closeSession env file context.uuid context.sessionId
      let unlinked := looked.unlinkSession service session
      let put := (unlinked.putSessionStruct session).putSessionStruct session
      ⟨0, (put.dropService dev service).putServiceStruct service, context, result.sent⟩

def tcNsSendCmd : Outcome Dev :=
  match getServiceSession tables dev context with
  | (touched, none) => ⟨-eInval, touched, context, none⟩
  | (looked, some (service, none)) => ⟨-eInval, looked.putServiceStruct service, context, none⟩
  | (looked, some (service, some session)) =>
      let result := tcClientCall env.call ⟨file, context, .opened, 0⟩
      ⟨result.ret, (looked.putServiceStruct service).putSessionStruct session, result.context,
        result.sent⟩

end Calls

/-! ### `tc_client_session_ioctl` -/

/-- `restart_syscall`, which LiteOS does not support. -/
def restartSyscall : Int := 0

/-- How an ioctl returns; `copiedBack` is the context it hands to `copy_to_user`. -/
structure IoctlResult (Dev : Type) where
  ret : Int
  tables : Tables Dev
  sent : Option Exchange
  copiedBack : Option ClientContext

section Ioctl

variable {platform : Platform} {Dev : Type} [DecidableEq Dev] (env : SessionEnv platform)
  (tables : Tables Dev) (dev : Dev) (file : DevFile) (argp : UInt32)

def ioctlRet (cmd : IoctlCmd) (ret : Int) : Int :=
  if ret = -eRestartSys then
    if cmd = .sesCloseReq then -eIntr else restartSyscall
  else ret

/-- The end of an ioctl that writes the context back, whatever its result. -/
def copyBack (cmd : IoctlCmd) (outcome : Outcome Dev) : IoctlResult Dev :=
  { ret :=
      ioctlRet cmd
        (if env.contextWrite = false ∧ outcome.ret = 0 then -eFault else outcome.ret)
    tables := outcome.tables
    sent := outcome.sent
    copiedBack := some outcome.context }

def tcClientSessionIoctl (cmd : IoctlCmd) : IoctlResult Dev :=
  if argp = 0 then ⟨-eInval, tables, none, none⟩
  else
    match env.userContext with
    | none => ⟨-eFault, tables, none, none⟩
    | some user =>
        let context := { user with returnsOrigin := teecOriginComms }
        match cmd with
        | .sesOpenReq => copyBack env cmd (tcNsOpenSession env tables dev file context)
        | .sendCmdReq => copyBack env cmd (tcNsSendCmd env tables dev file context)
        | .sesCloseReq =>
            let outcome := tcNsCloseSession env tables dev file context
            ⟨ioctlRet cmd outcome.ret, outcome.tables, outcome.sent, none⟩
        | .unknown => ⟨-eInval, tables, none, none⟩

end Ioctl

end TzDriver.LiteOs
