/-
The session ioctls from their argument to their return
(`linux/core/session_manager.c`), each run without interruption by another.

The tables are those of the interleaved threads; here one call goes through all
of its sections, with the TEE call and the client's memory in between.
-/

import TzDriver.Session.LoadImage
import TzDriver.Session.Threads

namespace TzDriver.Session

open TzDriver.Client

def eIntr : Int := 4
def eRestartNoIntr : Int := 513

def contextSize : Nat := 160

/-- `TEE_ERROR_IS_DEAD` as an `int`. -/
def teeErrorIsDeadRet : Int := -21589

/-! ### Services -/

namespace Tables

variable {Dev : Type} [DecidableEq Dev] (tables : Tables Dev)

/-- The part of `find_service` behind the label `add_service`. -/
def addService (dev : Dev) (service : Nat) : Tables Dev × Option Nat :=
  match tables.addServiceToDev dev service with
  | some after => (after, some service)
  | none => (tables.putServiceStruct service, none)

def findService (serviceAlloc : Bool) (dev : Dev) (uuid : Uuid) : Tables Dev × Option Nat :=
  match tables.tcRefServiceInDev dev uuid with
  | (after, .found service) => (after, some service)
  | (after, .full) => (after, none)
  | (after, .missing) =>
      let touched := after.touchServices after.serviceList
      match touched.tcFindServiceFromAll uuid with
      | some service => (touched.getServiceStruct service).addService dev service
      | none =>
          if serviceAlloc then
            let (made, service) := touched.tcNsServiceInit uuid
            made.addService dev service
          else (touched, none)

/-- The whole of `del_service_from_dev`. -/
def dropService (dev : Dev) (service : Nat) : Tables Dev :=
  match tables.delServiceFromDev dev service with
  | (after, true) => after.putServiceStruct service
  | (after, false) => after

end Tables

/-! ### Outside the driver -/

/-- What one session ioctl meets outside the driver. -/
structure IoctlEnv (platform : Platform) where
  userContext : Option ClientContext
  contextWrite : Bool
  login : LoginEnv
  serviceAlloc : Bool
  sessionAlloc : Bool
  authHash : Int
  load : LoadEnv
  call : CallEnv platform

/-- In a login call the size words of parameters 2 and 3 are the dev_file's own. -/
def loginCallEnv {platform : Platform} (env : CallEnv platform) (file : DevFile) :
    CallEnv platform :=
  { env with
    entrySize := fun index =>
      if index = 2 then some file.pubKeyLen
      else if index = 3 then some file.pkgNameLen
      else env.entrySize index }

/-- What a call accesses at the addresses it was given. -/
def eventAccess : Event → Option Access
  | .fromClient .user _ _ addr length => some ⟨.copyFromUser, addr, length⟩
  | .fromClient .kernel _ _ addr length => some ⟨.memcpy, addr, length⟩
  | .toClient .user _ _ addr length => some ⟨.copyToUser, addr, length⟩
  | .toClient .kernel _ _ addr length => some ⟨.memcpy, addr, length⟩
  | _ => none

def callAccesses (events : List Event) : List Access :=
  events.filterMap eventAccess

/-- How a session call returns; `events` are those of its TEE call. -/
structure Outcome (Dev : Type) where
  ret : Int
  tables : Tables Dev
  file : DevFile
  context : ClientContext
  accesses : List Access
  events : List Event

section Calls

variable {platform : Platform} {Dev : Type} [DecidableEq Dev] (env : IoctlEnv platform)
  (tables : Tables Dev) (dev : Dev) (file : DevFile) (context : ClientContext)

/-! ### `tc_ns_open_session` -/

/-- The end of `proc_open_session`: an accepted open gets its session node. -/
def finishOpen (service : Nat) (accesses : List Access) (result : CallResult) : Outcome Dev :=
  { ret := result.ret
    tables :=
      if result.ret ≠ 0 then tables
      else tables.initNewSessNode dev service result.context.sessionId
    file := file
    context := result.context
    accesses := accesses ++ callAccesses result.events
    events := result.events }

def procOpenSession (service : Nat) (flags : UInt8) : Option (Outcome Dev) :=
  let (loaded, loadedContext, accesses) := loadTaImage env.load file context
  if loaded ≠ 0 then some ⟨loaded, tables, file, loadedContext, accesses, []⟩
  else
    (tcClientCall (loginCallEnv env.call file) ⟨file, loadedContext, .opening, flags⟩).map
      (finishOpen tables dev file service accesses)

/-- `tc_ns_open_session` once a service is referenced. -/
def openWithService (service : Nat) (flags : UInt8) : Option (Outcome Dev) :=
  if env.sessionAlloc = false then
    some ⟨-eNoMem, tables.dropService dev service, file, context, [], []⟩
  else if env.authHash ≠ 0 then
    some ⟨env.authHash, tables.dropService dev service, file, context, [], []⟩
  else
    (procOpenSession env tables dev file context service flags).map fun opened =>
      if opened.ret = 0 then opened
      else { opened with tables := opened.tables.dropService dev service }

/-- The part of `tc_ns_open_session` before the label `err_clear_param`. -/
def openBeforeClear : Option (Outcome Dev) :=
  let login := checkLoginMethod env.login file context tcCallGlobal
  if login.ret ≠ 0 then
    some ⟨login.ret, tables, login.file, login.context, login.accesses, []⟩
  else
    let asked := { login.context with cmdId := globalCmdIdOpenSession }
    match tables.findService env.serviceAlloc dev asked.uuid with
    | (after, none) => some ⟨-eNoMem, after, login.file, asked, login.accesses, []⟩
    | (after, some service) =>
        (openWithService env after dev login.file asked service login.flags).map fun opened =>
          { opened with accesses := login.accesses ++ opened.accesses }

def tcNsOpenSession : Option (Outcome Dev) :=
  (openBeforeClear env tables dev file context).map fun opened =>
    { opened with context := clearContextParam opened.context }

/-! ### `tc_ns_close_session` -/

/-- The context that `close_session` fills in. -/
def closeContext (uuid : Uuid) (sessionId : UInt32) : ClientContext :=
  { emptyContext with
    uuid := uuid, sessionId := sessionId, cmdId := globalCmdIdCloseSession }

def closeSession (uuid : Uuid) (sessionId : UInt32) : Option CallResult :=
  tcClientCall env.call
    ⟨file, closeContext uuid sessionId, .opened, tcCallGlobal ||| tcCallSync⟩

/-- `tc_ns_close_session` after the session was found.  Its result does not depend
on that of the TEE call. -/
def closeFound (service session : Nat) : Option (Outcome Dev) :=
  (closeSession env file context.uuid context.sessionId).map fun result =>
    let unlinked := tables.unlinkSession service session
    let put := (unlinked.putSessionStruct session).putSessionStruct session
    { ret := 0
      tables := (put.dropService dev service).putServiceStruct service
      file := file
      context := context
      accesses := callAccesses result.events
      events := result.events }

def tcNsCloseSession : Option (Outcome Dev) :=
  if env.login.rebooting then
    some ⟨teeErrorIsDeadRet, tables, file, { context with returnsCode := teeErrorIsDead }, [], []⟩
  else
    match tables.tcFindServiceInDev dev context.uuid with
    | (touched, none) => some ⟨-eInval, touched, file, context, [], []⟩
    | (touched, some service) =>
        match (touched.getServiceStruct service).getSession service context.sessionId dev with
        | (looked, none) =>
            some ⟨-eInval, looked.putServiceStruct service, file, context, [], []⟩
        | (looked, some session) => closeFound env looked dev file context service session

/-! ### `tc_ns_send_cmd` -/

def tcNsSendCmd : Option (Outcome Dev) :=
  if env.login.rebooting then
    some ⟨eFault, tables, file, { context with returnsCode := teeErrorIsDead }, [], []⟩
  else
    match tables.tcFindServiceInDev dev context.uuid with
    | (touched, none) => some ⟨-eInval, touched, file, context, [], []⟩
    | (touched, some service) =>
        match (touched.getServiceStruct service).getSession service context.sessionId dev with
        | (looked, none) =>
            some ⟨-eInval, looked.putServiceStruct service, file, context, [], []⟩
        | (looked, some session) =>
            (tcClientCall env.call ⟨file, context, .opened, 0⟩).map fun result =>
              { ret := result.ret
                tables := (looked.putServiceStruct service).putSessionStruct session
                file := file
                context := result.context
                accesses := callAccesses result.events
                events := result.events }

end Calls

/-! ### `tc_client_session_ioctl` -/

inductive IoctlCmd where
  | sesOpenReq
  | sesCloseReq
  | sendCmdReq
  | unknown
deriving DecidableEq, Repr

/-- How an ioctl returns; `copiedBack` is the context it writes to the client. -/
structure IoctlResult (Dev : Type) where
  ret : Int
  tables : Tables Dev
  file : DevFile
  accesses : List Access
  copiedBack : Option ClientContext

section Ioctl

variable {platform : Platform} {Dev : Type} [DecidableEq Dev] (env : IoctlEnv platform)
  (tables : Tables Dev) (dev : Dev) (file : DevFile) (argp : UInt64)

/-- `-ERESTARTSYS` does not reach the client. -/
def ioctlRet (cmd : IoctlCmd) (ret : Int) : Int :=
  if ret = -eRestartSys then
    if cmd = .sesCloseReq then -eIntr else -eRestartNoIntr
  else ret

/-- The end of an ioctl that writes the context back, whatever its result. -/
def copyBack (cmd : IoctlCmd) (outcome : Outcome Dev) : IoctlResult Dev :=
  { ret :=
      ioctlRet cmd
        (if outcome.ret = 0 ∧ env.contextWrite = false then -eFault else outcome.ret)
    tables := outcome.tables
    file := outcome.file
    accesses := outcome.accesses ++ [⟨.copyToUser, argp, contextSize⟩]
    copiedBack := some outcome.context }

def dispatchIoctl (cmd : IoctlCmd) (context : ClientContext) : Option (IoctlResult Dev) :=
  match cmd with
  | .sesOpenReq =>
      (tcNsOpenSession env tables dev file context).map (copyBack env argp .sesOpenReq)
  | .sendCmdReq =>
      (tcNsSendCmd env tables dev file context).map (copyBack env argp .sendCmdReq)
  | .sesCloseReq =>
      (tcNsCloseSession env tables dev file context).map fun outcome =>
        ⟨ioctlRet .sesCloseReq outcome.ret, outcome.tables, outcome.file, outcome.accesses, none⟩
  | .unknown => some ⟨-eInval, tables, file, [], none⟩

def tcClientSessionIoctl (cmd : IoctlCmd) : Option (IoctlResult Dev) :=
  if argp = 0 then some ⟨-eInval, tables, file, [], none⟩
  else
    match env.userContext with
    | none => some ⟨-eFault, tables, file, [⟨.copyFromUser, argp, contextSize⟩], none⟩
    | some context =>
        (dispatchIoctl env tables dev file argp cmd
          { context with returnsOrigin := teecOriginComms }).map fun result =>
            { result with accesses := ⟨.copyFromUser, argp, contextSize⟩ :: result.accesses }

end Ioctl

end TzDriver.Session
