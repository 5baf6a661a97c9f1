/-
What a client of the LiteOS driver learns from a session ioctl: the context that is
copied back, and the return value.
-/

import TzDriver.LiteOs.Ioctl
import TzDriver.Session.Lookups

namespace TzDriver.LiteOs

open TzDriver.Client TzDriver.Session

/-! ### The addresses in the context -/

section Params

variable {platform : Platform} {Dev : Type} [DecidableEq Dev] (env : SessionEnv platform)
  (tables : Tables Dev) (dev : Dev) (file : DevFile) (context : ClientContext)

theorem tcClientCall_params (call : SettledEnv platform) (params : CallParams) :
    (tcClientCall call params).context.params = params.context.params := by
  unfold tcClientCall
  split
  · rfl
  · rfl
  · dsimp only
    split
    · rfl
    split
    · rfl
    · rfl

theorem loadContext_params : (loadContext env context).2.params = context.params := by
  unfold loadContext
  dsimp only
  split <;> rfl

omit [DecidableEq Dev] in
theorem procOpenSession_params (service : Nat) (flags : UInt8) :
    (procOpenSession env tables dev file context service flags).context.params =
      context.params := by
  have loaded := loadContext_params env context
  unfold procOpenSession
  dsimp only
  split
  · exact loaded
  split
  · exact (tcClientCall_params _ _).trans loaded
  · exact (tcClientCall_params _ _).trans loaded

theorem openWithService_params (service : Nat) (flags : UInt8) :
    (openWithService env tables dev file context service flags).context.params =
      context.params := by
  unfold openWithService
  split
  · rfl
  split
  · rfl
  dsimp only
  split
  · exact procOpenSession_params env tables dev file context service flags
  · exact procOpenSession_params env tables dev file context service flags

theorem tcNsOpenSession_params :
    (tcNsOpenSession env tables dev file context).context.params =
      (checkLoginMethod env.login file context tcCallGlobal).context.params := by
  unfold tcNsOpenSession
  dsimp only
  split
  · rfl
  split
  · rfl
  · exact openWithService_params _ _ _ _ _ _ _

/-- A package name is in parameter 3 even if the uid is missing. -/
theorem setLoginContext_named {caUid : UInt32} {file : DevFile} {context : ClientContext}
    (named : file.pkgNameLen ≠ 0) :
    ((setLoginContext caUid file context).2.2.params 3).sizeAddr =
      file.pkgNameLenAddr.toUInt32 := by
  unfold setLoginContext
  rw [if_neg named]
  dsimp only
  split
  · rfl
  split
  · rfl
  · rfl

end Params

section Hidden

variable {platform : Platform} {Dev : Type} [DecidableEq Dev] (env : SessionEnv platform)
  (tables : Tables Dev) (dev : Dev) (file : DevFile) (argp : UInt32)

/-- The open copies back the same context wherever the dev_file lies. -/
def HidesLocation : Prop :=
  ∀ here there : Location,
    (tcClientSessionIoctl env tables dev (here.place file) argp .sesOpenReq).copiedBack =
      (tcClientSessionIoctl env tables dev (there.place file) argp .sesOpenReq).copiedBack

/-- The open does not come to write an address: it has no argument, it is refused for
its login method or for its parameters, or the dev_file has no package name. -/
def LoginNotPlaced : Prop :=
  argp = 0 ∨ file.pkgNameLen = 0 ∨
    ∀ context, env.userContext = some context →
      context.loginMethod ≠ teecLoginIdentify ∨ loginParamsValid env.login file context = false

variable {env tables dev file argp}

/-- An open that comes to the login tells where the dev_file lies. -/
theorem copiedBack_tells {context : ClientContext} (argument : argp ≠ 0)
    (copied : env.userContext = some context) (named : file.pkgNameLen ≠ 0)
    (identify : context.loginMethod = teecLoginIdentify)
    (valid : loginParamsValid env.login file context = true) (location : Location) :
    (tcClientSessionIoctl env tables dev (location.place file) argp .sesOpenReq).copiedBack.map
      (fun back => (back.params 3).sizeAddr) = some location.base := by
  have placed : (location.place file).pkgNameLen ≠ 0 := named
  have login (asked : ClientContext) (method : asked.loginMethod = teecLoginIdentify)
      (accepted : loginParamsValid env.login (location.place file) asked = true) :
      ((checkLoginMethod env.login (location.place file) asked tcCallGlobal).context.params
        3).sizeAddr = location.base := by
    unfold checkLoginMethod
    rw [if_neg (not_not_intro method), if_neg (by rw [accepted]; exact Bool.noConfusion)]
    exact (setLoginContext_named placed).trans (UInt32.toUInt32_toUInt64 _)
  unfold tcClientSessionIoctl
  rw [if_neg argument, copied]
  dsimp only
  rw [copyBack, Option.map_some, tcNsOpenSession_params]
  exact congrArg some (login _ identify valid)

theorem checkLoginMethod_unplaced {login : LoginEnv} {context : ClientContext} {flags : UInt8}
    (unplaced : file.pkgNameLen = 0 ∨ context.loginMethod ≠ teecLoginIdentify ∨
      loginParamsValid login file context = false) :
    (checkLoginMethod login file context flags).ret = -eInval ∧
      (checkLoginMethod login file context flags).context = context := by
  unfold checkLoginMethod
  split
  · exact ⟨rfl, rfl⟩
  next identify =>
    split
    · exact ⟨rfl, rfl⟩
    next valid =>
      rcases unplaced with unnamed | method | invalid
      · rw [setLoginContext, if_pos unnamed]
        exact ⟨rfl, rfl⟩
      · exact absurd method identify
      · exact absurd invalid valid

theorem not_hidesLocation {context : ClientContext} (argument : argp ≠ 0)
    (copied : env.userContext = some context) (named : file.pkgNameLen ≠ 0)
    (identify : context.loginMethod = teecLoginIdentify)
    (valid : loginParamsValid env.login file context = true) :
    ¬HidesLocation env tables dev file argp := by
  intro hides
  have told (location : Location) : (tcClientSessionIoctl env tables dev (location.place file)
      argp .sesOpenReq).copiedBack.map (fun back => (back.params 3).sizeAddr) =
        some location.base :=
    copiedBack_tells argument copied named identify valid location
  have same := hides ⟨0x40000000, by decide⟩ ⟨0x40001000, by decide⟩
  have bases := (told _).symm.trans ((congrArg _ same).trans (told _))
  exact absurd bases (by decide)

end Hidden

def quietSession : SessionEnv flatPlatform :=
  { userContext := some { emptyContext with loginMethod := teecLoginIdentify }
    contextWrite := true
    login :=
      { rebooting := false, accessOk := fun _ _ => true, userSize := fun _ => some 0
        caUid := 1000 }
    serviceAlloc := true, sessionAlloc := true, authHash := true
    load :=
      { needPack := true, needParam := true, needAnswer := 0, needLoad := 0
        loadMem := fun _ => true, loadPack := true, uuidReturn := true
        frameCopy := fun _ => true, frameAnswer := fun _ => ⟨0, .zeroed⟩ }
    task := some .user
    call := { toCallEnv := calmEnv, settled := rfl } }

def loggedIn : DevFile :=
  { userDev with pkgNameLen := 3, pubKeyLen := 4 }

section Image

variable (env : LoadEnv) (task : Option ProcessMode) (fileBuffer : UInt64)

theorem loadImageByFrame_own (fileSize mbLoadSize : Nat) (type : SecfileType)
    (remaining index loadedSize : Nat) :
    OwnResult (loadImageByFrame env task fileBuffer fileSize mbLoadSize type remaining index
      loadedSize).ret := by
  induction remaining generalizing index loadedSize with
  | zero => exact ownResult_zero
  | succ remaining ih =>
      unfold loadImageByFrame
      dsimp only
      generalize (if remaining = 0 then fileSize - loadedSize
        else mbLoadSize - loadFlagSize) = loadSize
      split
      · exact ownResult_eInval
      split
      · exact ownResult_eFault
      split
      · exact ownResult_eFault
      · exact ih _ _

theorem tcNsLoadImage_own (fileSize : UInt32) (type : SecfileType) :
    OwnResult (tcNsLoadImage env task fileBuffer fileSize type).ret := by
  unfold tcNsLoadImage
  split
  · exact ownResult_eInval
  split
  · exact ownResult_eInval
  split
  · exact ownResult_eNoMem
  split
  · exact ownResult_eNoMem
  · exact loadImageByFrame_own _ _ _ _ _ _ _ _ _

/-- Only the TEE's own word can make the load look like an interrupted call. -/
theorem loadTaImage_restarts_iff (fileSize : UInt32) :
    (loadTaImage env task fileBuffer fileSize).ret = -eRestartSys ↔
      tcNsNeedLoadImage env = -eRestartSys := by
  unfold loadTaImage
  dsimp only
  split
  · rfl
  next needed =>
    have asked : tcNsNeedLoadImage env = 1 := not_not.mp needed
    rw [asked]
    refine iff_of_false ?_ (by decide)
    split
    · exact (show (-1 : Int) ≠ -eRestartSys by decide)
    split
    · exact (show (eFault : Int) ≠ -eRestartSys by decide)
    · exact (tcNsLoadImage_own env task fileBuffer fileSize .ta).ne_restart

end Image

/-! ### The return value -/

section Reports

variable {platform : Platform} {Dev : Type} [DecidableEq Dev] (env : SessionEnv platform)
  (tables : Tables Dev) (dev : Dev) (file : DevFile) (argp : UInt32) (context : ClientContext)

/-- The TEE accepted the command of the ioctl, and its outputs have been written. -/
def Accepted (sent : Option Exchange) : Prop :=
  ∃ exchange, sent = some exchange ∧ exchange.final.ret = teecSuccess ∧ exchange.written = true

/-- The new session is on a session list, with the id that the context has. -/
def SessionListed (after : Tables Dev) (sessionId : UInt32) : Prop :=
  ∃ service, tables.sessionCount ∈ (after.services service).sessionList ∧
    (after.sessions tables.sessionCount).owner = some dev ∧
    (after.sessions tables.sessionCount).sessionId = sessionId

/-- The driver's own part of an ioctl is done. -/
def Completed (result : IoctlResult Dev) : IoctlCmd → Prop
  | .sesOpenReq =>
      env.contextWrite = true ∧
        ∃ back, result.copiedBack = some back ∧ SessionListed tables dev result.tables back.sessionId
  | .sendCmdReq => env.contextWrite = true
  | .sesCloseReq =>
      ∃ service session, session ∈ tables.book.sessionList service ∧
        result.tables.book.sessionList service = (tables.book.sessionList service).erase session
  | .unknown => False

/-- The ioctl returns 0 only for an operation that was accepted and completed. -/
def ReportsErrors (cmd : IoctlCmd) : Prop :=
  (tcClientSessionIoctl env tables dev file argp cmd).ret = 0 →
    Accepted (tcClientSessionIoctl env tables dev file argp cmd).sent ∧
      Completed env tables dev (tcClientSessionIoctl env tables dev file argp cmd) cmd

/-- The open comes to a need-load word of `-ERESTARTSYS`, or its command is sent and
finally answered with `TEEC_CLIENT_INTR`. -/
def LoadRestarts (flags : UInt8) : Prop :=
  tcNsNeedLoadImage env.load = -eRestartSys ∨
    (loadContext env context).1 = 0 ∧
      CallSent (loginEnv env.call file) ⟨file, (loadContext env context).2, .opening, flags⟩ ∧
      env.call.final.ret = teecClientIntr

def OpenRestarts : Prop :=
  let login := checkLoginMethod env.login file context tcCallGlobal
  let asked := { login.context with cmdId := globalCmdIdOpenSession }
  login.ret = 0 ∧ (tables.findService env.serviceAlloc dev asked.uuid).2.isSome = true ∧
    env.sessionAlloc = true ∧ env.authHash = true ∧
    LoadRestarts env login.file asked login.flags

def SessionFound : Prop :=
  ∃ service session, (getServiceSession tables dev context).2 = some (service, some session)

/-- The command is sent and finally answered with `TEEC_CLIENT_INTR`. -/
def SendRestarts : Prop :=
  SessionFound tables dev context ∧ CallSent env.call ⟨file, context, .opened, 0⟩ ∧
    env.call.final.ret = teecClientIntr

/-- The close of a session that the TEE is not told of, or does not accept. -/
def CloseDropped : Prop :=
  SessionFound tables dev context ∧
    ¬(CallSent env.call ⟨file, closeContext context.uuid context.sessionId, .opened,
        tcCallGlobal ||| tcCallSync⟩ ∧ env.call.final.ret = teecSuccess)

/-- The calls whose failure the driver turns into success. -/
def FailureHidden : IoctlCmd → Prop
  | .sesOpenReq => OpenRestarts env tables dev file context
  | .sendCmdReq => SendRestarts env tables dev file context
  | .sesCloseReq => CloseDropped env tables dev file context
  | .unknown => False

/-- How a session call returns, when `restarts` tells that it is to be restarted and
`done` that it did its part. -/
inductive Returns (restarts : Prop) (done : Outcome Dev → Prop) (outcome : Outcome Dev) : Prop
  | failed (failure : outcome.ret ≠ 0) (other : outcome.ret ≠ -eRestartSys) (calm : ¬restarts)
  | restarted (ret : outcome.ret = -eRestartSys) (interrupted : restarts)
      (refused : ¬Accepted outcome.sent)
  | succeeded (ret : outcome.ret = 0) (calm : ¬restarts) (accepted : Accepted outcome.sent)
      (done : done outcome)

variable {env tables dev file argp context}

omit [DecidableEq Dev] in
theorem Returns.of_call {call : SettledEnv platform} {params : CallParams} {result : CallResult}
    {outcome : Outcome Dev} {restarts : Prop} {done : Outcome Dev → Prop}
    (returned : CallReturn call params result) (ret : outcome.ret = result.ret)
    (sent : outcome.sent = result.sent)
    (restart : restarts ↔ CallSent call params ∧ call.final.ret = teecClientIntr)
    (whenDone : result.ret = 0 → done outcome) : Returns restarts done outcome := by
  cases returned with
  | unsent unsent own failed nothing =>
      refine .failed (ret ▸ failed) (ret ▸ own.ne_restart) ?_
      intro restarts
      exact unsent (restart.mp restarts).1
  | answered wasSent exchange made final succeeded restarts _ =>
      rw [made] at sent
      by_cases success : result.ret = 0
      · obtain ⟨answer, written⟩ := succeeded.mp success
        refine .succeeded (ret.trans success) ?_ ⟨exchange, sent, final ▸ answer, written⟩
          (whenDone success)
        intro interrupted
        exact absurd (answer.symm.trans (restart.mp interrupted).2) (by decide)
      by_cases interrupted : result.ret = -eRestartSys
      · have answer := restarts.mp interrupted
        refine .restarted (ret.trans interrupted) (restart.mpr ⟨wasSent, answer⟩) ?_
        rintro ⟨other, same, accepted, _⟩
        cases sent.symm.trans same
        rw [final, answer] at accepted
        exact absurd accepted (by decide)
      · refine .failed (ret ▸ success) (ret ▸ interrupted) ?_
        intro restarted
        exact interrupted (restarts.mpr (restart.mp restarted).2)

omit [DecidableEq Dev] in
theorem Returns.of_own {outcome : Outcome Dev} {restarts : Prop} {done : Outcome Dev → Prop}
    (own : OwnResult outcome.ret) (failure : outcome.ret ≠ 0) (calm : ¬restarts) :
    Returns restarts done outcome :=
  .failed failure own.ne_restart calm

omit [DecidableEq Dev] in
theorem Returns.imp {outcome : Outcome Dev} {restarts others : Prop}
    {done finished : Outcome Dev → Prop} (returned : Returns restarts done outcome)
    (same : restarts ↔ others) (further : done outcome → finished outcome) :
    Returns others finished outcome := by
  cases returned with
  | failed failure other calm => exact .failed failure other (fun holds => calm (same.mpr holds))
  | restarted ret interrupted refused => exact .restarted ret (same.mp interrupted) refused
  | succeeded ret calm accepted done =>
      exact .succeeded ret (fun holds => calm (same.mpr holds)) accepted (further done)

/-- The open is done when its session is listed. -/
def Opened (tables : Tables Dev) (dev : Dev) (outcome : Outcome Dev) : Prop :=
  SessionListed tables dev outcome.tables outcome.context.sessionId

omit [DecidableEq Dev] in
theorem sessionListed_initNewSessNode (service : Nat) (sessionId : UInt32) :
    SessionListed tables dev (tables.initNewSessNode dev service sessionId) sessionId := by
  refine ⟨service, ?_, ?_, ?_⟩
  · simp [Tables.initNewSessNode, Tables.setService]
  · simp [Tables.initNewSessNode, Tables.setService, Tables.setSession]
  · simp [Tables.initNewSessNode, Tables.setService, Tables.setSession]

omit [DecidableEq Dev] in
theorem procOpenSession_returns (service : Nat) (flags : UInt8) :
    Returns (LoadRestarts env file context flags) (Opened tables dev)
      (procOpenSession env tables dev file context service flags) := by
  have load : (loadContext env context).1 = -eRestartSys ↔
      tcNsNeedLoadImage env.load = -eRestartSys :=
    loadTaImage_restarts_iff env.load env.task context.fileAddr.toUInt64 context.fileSize
  unfold procOpenSession
  dsimp only
  split
  · next failure =>
      by_cases restarted : (loadContext env context).1 = -eRestartSys
      · refine .restarted restarted (Or.inl (load.mp restarted)) ?_
        rintro ⟨_, sent, _⟩
        cases sent
      · refine .failed failure restarted ?_
        rintro (needed | ⟨loaded, _⟩)
        · exact restarted (load.mpr needed)
        · exact failure loaded
  next success =>
    have loaded : (loadContext env context).1 = 0 := not_not.mp success
    have needed : tcNsNeedLoadImage env.load ≠ -eRestartSys := by
      intro restarts
      exact absurd (loaded.symm.trans (load.mpr restarts)) (by decide)
    have restart : LoadRestarts env file context flags ↔
        CallSent (loginEnv env.call file) ⟨file, (loadContext env context).2, .opening, flags⟩ ∧
          (loginEnv env.call file).final.ret = teecClientIntr := by
      constructor
      · rintro (restarts | ⟨_, both⟩)
        · exact absurd restarts needed
        · exact both
      · intro both
        exact Or.inr ⟨loaded, both⟩
    split
    · next failure =>
        exact .of_call tcClientCall_return rfl rfl restart (fun success => absurd success failure)
    · next accepted =>
        refine .of_call tcClientCall_return (not_not.mp accepted).symm rfl restart ?_
        intro _
        exact sessionListed_initNewSessNode service _

theorem openWithService_returns (service : Nat) (flags : UInt8) :
    Returns (env.sessionAlloc = true ∧ env.authHash = true ∧ LoadRestarts env file context flags)
      (Opened tables dev) (openWithService env tables dev file context service flags) := by
  unfold openWithService
  split
  · next missing =>
      refine .of_own ownResult_eNoMem (show (-eNoMem : Int) ≠ 0 by decide) ?_
      rintro ⟨allocated, _⟩
      cases missing.symm.trans allocated
  next allocated =>
    split
    · next missing =>
        refine .of_own ownResult_eFault (show (-eFault : Int) ≠ 0 by decide) ?_
        rintro ⟨_, hashed, _⟩
        cases missing.symm.trans hashed
    next hashed =>
      have same : LoadRestarts env file context flags ↔
          env.sessionAlloc = true ∧ env.authHash = true ∧ LoadRestarts env file context flags := by
        rw [Bool.not_eq_false] at allocated hashed
        exact ⟨fun restarts => ⟨allocated, hashed, restarts⟩, fun all => all.2.2⟩
      have returned : Returns (LoadRestarts env file context flags) (Opened tables dev)
          (procOpenSession env tables dev file context service flags) :=
        procOpenSession_returns service flags
      dsimp only
      split
      · exact returned.imp same id
      · next failure =>
          cases returned with
          | failed _ other calm => exact .failed failure other (fun holds => calm (same.mpr holds))
          | restarted ret interrupted refused =>
              exact .restarted ret (same.mp interrupted) refused
          | succeeded ret => exact absurd ret failure

theorem checkLoginMethod_own (login : LoginEnv) (file : DevFile) (context : ClientContext)
    (flags : UInt8) : OwnResult (checkLoginMethod login file context flags).ret := by
  unfold checkLoginMethod
  split
  · exact ownResult_eInval
  split
  · exact ownResult_eInval
  dsimp only
  unfold setLoginContext
  split
  · exact ownResult_eInval
  dsimp only
  split
  · exact ownResult_zero
  split
  · exact ownResult_eFault
  · exact ownResult_zero

theorem sessionCount_findService (tables : Tables Dev) (dev : Dev) (serviceAlloc : Bool)
    (uuid : Uuid) :
    (tables.findService serviceAlloc dev uuid).1.sessionCount = tables.sessionCount := by
  have put (tables : Tables Dev) (service : Nat) :
      (tables.putServiceStruct service).sessionCount = tables.sessionCount := by
    unfold Tables.putServiceStruct
    dsimp only
    split <;> rfl
  have added (tables : Tables Dev) (service : Nat) :
      (tables.addService dev service).1.sessionCount = tables.sessionCount := by
    unfold Tables.addService
    split
    · next after placed =>
        obtain ⟨index, _, same⟩ := Option.map_eq_some_iff.mp placed
        rw [← same]
        rfl
    · exact put tables service
  have referenced : (tables.tcRefServiceInDev dev uuid).1.sessionCount = tables.sessionCount := by
    unfold Tables.tcRefServiceInDev
    dsimp only
    split
    · rfl
    split
    · rfl
    · rfl
  unfold Tables.findService
  split
  · next after service found => exact (congrArg (·.1.sessionCount) found).symm.trans referenced
  · next after found => exact (congrArg (·.1.sessionCount) found).symm.trans referenced
  next after found =>
    have same := (congrArg (·.1.sessionCount) found).symm.trans referenced
    dsimp only
    split
    · exact (added _ _).trans same
    split
    · exact (added _ _).trans same
    · exact same

theorem tcNsOpenSession_returns :
    Returns (OpenRestarts env tables dev file context) (Opened tables dev)
      (tcNsOpenSession env tables dev file context) := by
  unfold tcNsOpenSession
  dsimp only
  split
  · next refused =>
      refine .of_own (checkLoginMethod_own env.login file context tcCallGlobal) refused ?_
      rintro ⟨accepted, _⟩
      exact refused accepted
  next accepted =>
    split
    · next after found =>
        refine .of_own ownResult_eNoMem (show (-eNoMem : Int) ≠ 0 by decide) ?_
        rintro ⟨_, some_, _⟩
        rw [found] at some_
        cases some_
    · next after service found =>
        have count : after.sessionCount = tables.sessionCount := by
          have kept := sessionCount_findService tables dev env.serviceAlloc
            (checkLoginMethod env.login file context tcCallGlobal).context.uuid
          rw [found] at kept
          exact kept
        refine (openWithService_returns service _).imp ?_ ?_
        · refine ⟨fun restarts => ⟨not_not.mp accepted, ?_, restarts⟩, fun all => all.2.2⟩
          rw [found]
          rfl
        · intro opened
          unfold Opened SessionListed at opened ⊢
          rw [← count]
          exact opened

theorem tcNsSendCmd_returns :
    Returns (SendRestarts env tables dev file context) (fun _ => True)
      (tcNsSendCmd env tables dev file context) := by
  unfold tcNsSendCmd
  split
  · next found =>
      refine .of_own ownResult_eInval (show (-eInval : Int) ≠ 0 by decide) ?_
      rintro ⟨⟨service, session, named⟩, _⟩
      rw [found] at named
      cases named
  · next found =>
      refine .of_own ownResult_eInval (show (-eInval : Int) ≠ 0 by decide) ?_
      rintro ⟨⟨service, session, named⟩, _⟩
      rw [found] at named
      cases named
  · next looked service session found =>
      refine .of_call tcClientCall_return rfl rfl ?_ (fun _ => trivial)
      refine ⟨fun all => all.2, fun both => ⟨⟨service, session, ?_⟩, both⟩⟩
      rw [found]

omit [DecidableEq Dev] in
/-- The end of an open or a send hides a failure exactly when it restarts. -/
theorem copyBack_reports (env : SessionEnv platform) {cmd : IoctlCmd} {outcome : Outcome Dev}
    {restarts : Prop} {done : Outcome Dev → Prop} (other : cmd ≠ .sesCloseReq)
    (returned : Returns restarts done outcome) :
    ((copyBack env cmd outcome).ret = 0 →
      Accepted (copyBack env cmd outcome).sent ∧ env.contextWrite = true ∧ done outcome) ↔
        ¬restarts := by
  have ret : (copyBack env cmd outcome).ret = ioctlRet cmd
      (if env.contextWrite = false ∧ outcome.ret = 0 then -eFault else outcome.ret) := rfl
  have kept (failure : outcome.ret ≠ 0) : (copyBack env cmd outcome).ret =
      ioctlRet cmd outcome.ret := by
    rw [ret, if_neg (fun both => failure both.2)]
  cases returned with
  | failed failure differs calm =>
      refine iff_of_true ?_ calm
      rw [kept failure, ioctlRet, if_neg differs]
      exact fun zero => absurd zero failure
  | restarted restarts interrupted refused =>
      refine iff_of_false ?_ (not_not_intro interrupted)
      intro reported
      have zero : (copyBack env cmd outcome).ret = 0 := by
        rw [kept (by rw [restarts]; decide), ioctlRet, if_pos restarts, if_neg other]
        rfl
      exact refused (reported zero).1
  | succeeded success calm accepted done =>
      refine iff_of_true ?_ calm
      by_cases written : env.contextWrite = false
      · rw [ret, if_pos ⟨written, success⟩, ioctlRet, if_neg (by decide)]
        exact fun zero => absurd zero (by decide)
      · intro _
        exact ⟨accepted, Bool.not_eq_false _ ▸ written, done⟩

theorem sessionList_dropService (tables : Tables Dev) (dev : Dev) (service : Nat) :
    (tables.dropService dev service).book.sessionList = tables.book.sessionList := by
  have deleted : (tables.delServiceFromDev dev service).1.book.sessionList =
      tables.book.sessionList := by
    unfold Tables.delServiceFromDev
    dsimp only
    split
    · rfl
    split
    · rfl
    split
    · rfl
    · rfl
  unfold Tables.dropService
  split
  · next after found =>
      rw [found] at deleted
      rw [Tables.book_putServiceStruct, Book.sessionList_putService, deleted]
  · next after found =>
      rw [found] at deleted
      exact deleted

/-- A close is done when its session is off the list. -/
def Closed (tables : Tables Dev) (outcome : Outcome Dev) : Prop :=
  ∃ service session, session ∈ tables.book.sessionList service ∧
    outcome.tables.book.sessionList service = (tables.book.sessionList service).erase session

theorem getServiceSession_found {looked : Tables Dev} {service session : Nat}
    (found : getServiceSession tables dev context = (looked, some (service, some session))) :
    session ∈ tables.book.sessionList service ∧
      looked.book.sessionList = tables.book.sessionList := by
  unfold getServiceSession at found
  split at found
  · cases found
  next touched other lookup =>
    have same : touched.book = tables.book := by
      rw [← (Prod.mk.inj lookup).1]
      rfl
    unfold Tables.getSession at found
    dsimp only at found
    split at found
    · cases found
    next other_ listed =>
      cases found
      obtain ⟨member, _⟩ := Tables.tcFindSessionWithowner_eq_some listed
      rw [Tables.book_getServiceStruct] at member
      rw [Tables.book_getSessionStruct, Tables.book_touchSessions, Tables.book_touchServices,
        Tables.book_getServiceStruct]
      rw [same] at member ⊢
      exact ⟨member, rfl⟩

/-- The close reports success for every session it finds. -/
theorem tcNsCloseSession_reports :
    (tcNsCloseSession env tables dev file context).ret ≠ -eRestartSys ∧
      (((tcNsCloseSession env tables dev file context).ret = 0 →
        Accepted (tcNsCloseSession env tables dev file context).sent ∧
          Closed tables (tcNsCloseSession env tables dev file context)) ↔
            ¬CloseDropped env tables dev file context) := by
  unfold tcNsCloseSession
  split
  · next found =>
      refine ⟨show (-eInval : Int) ≠ -eRestartSys by decide, iff_of_true ?_ ?_⟩
      · exact fun zero => absurd zero (show (-eInval : Int) ≠ 0 by decide)
      · rintro ⟨⟨service, session, named⟩, _⟩
        rw [found] at named
        cases named
  · next found =>
      refine ⟨show (-eInval : Int) ≠ -eRestartSys by decide, iff_of_true ?_ ?_⟩
      · exact fun zero => absurd zero (show (-eInval : Int) ≠ 0 by decide)
      · rintro ⟨⟨service, session, named⟩, _⟩
        rw [found] at named
        cases named
  next looked service session found =>
    obtain ⟨member, lists⟩ := getServiceSession_found found
    refine ⟨show (0 : Int) ≠ -eRestartSys by decide, ?_⟩
    have named : SessionFound tables dev context := ⟨service, session, by rw [found]⟩
    have returned : CallReturn env.call ⟨file, closeContext context.uuid context.sessionId, .opened,
        tcCallGlobal ||| tcCallSync⟩ (closeSession env file context.uuid context.sessionId) :=
      tcClientCall_return
    constructor
    · rintro reported ⟨_, rejected⟩
      obtain ⟨⟨exchange, sent, accepted, _⟩, _⟩ := reported rfl
      apply rejected
      cases returned with
      | unsent _ _ _ nothing => cases nothing.symm.trans sent
      | answered wasSent other made final _ _ _ =>
          cases made.symm.trans sent
          exact ⟨wasSent, final ▸ accepted⟩
    · intro kept _
      have accepted := not_not.mp (fun rejected => kept ⟨named, rejected⟩)
      refine ⟨?_, service, session, member, ?_⟩
      · cases returned with
        | unsent unsent => exact absurd accepted.1 unsent
        | answered _ exchange made final _ _ noOutputs =>
            exact ⟨exchange, made, final ▸ accepted.2, noOutputs rfl accepted.2⟩
      · dsimp only
        rw [Tables.book_putServiceStruct, Book.sessionList_putService, sessionList_dropService,
          Tables.book_putSessionStruct, Tables.book_putSessionStruct, Tables.book_unlinkSession]
        change Function.update looked.book.sessionList service _ service = _
        rw [Function.update_self, lists]

variable (env tables dev file argp)

end Reports

def interruptedOpen : SessionEnv flatPlatform :=
  { quietSession with
    call :=
      { toCallEnv := { calmEnv with reply := ⟨teecClientIntr, .zeroed⟩ }
        settled := rfl } }

end TzDriver.LiteOs
