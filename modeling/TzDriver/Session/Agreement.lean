/-
The sessions that the TEE has open and the sessions on the driver's lists, over
any sequence of opens and closes.

The TEE opens a session when it answers an open with success and closes one when
it answers a close; an answer that is pending changes nothing.
-/

import TzDriver.Client.CopyBack
import TzDriver.Client.Trace
import TzDriver.Session.Invariant
import TzDriver.Session.Settled

namespace TzDriver.Session

open TzDriver.Client
open TzDriver.Lib

/-! ### The TEE -/

inductive TeeRequest where
  | openSession (devFileId : UInt32) (uuid : Uuid)
  | closeSession (session : TeeSession)

/-- The sessions of the TEE once it has given an answer. -/
def TeeRequest.answered (request : TeeRequest) (tee : Multiset TeeSession) (answer : SmcReply) :
    Multiset TeeSession :=
  if answer.ret = teecPending then tee
  else
    match request with
    | .openSession devFileId uuid =>
        if answer.ret = teecSuccess then ⟨devFileId, uuid, answer.cmd.contextId⟩ ::ₘ tee else tee
    | .closeSession session => tee.erase session

def TeeRequest.after (request : TeeRequest) (tee : Multiset TeeSession) (events : List Event) :
    Multiset TeeSession :=
  (answers events).foldl request.answered tee

section Tee

variable (request : TeeRequest) (tee : Multiset TeeSession)

theorem TeeRequest.after_silent {events : List Event} (silent : answers events = []) :
    request.after tee events = tee := by
  rw [TeeRequest.after, silent]
  rfl

theorem TeeRequest.after_final {sess : SessionPtr} {events : List Event} {reply : SmcReply}
    {later : List SmcReply} {final : SmcReply × List Event}
    (ended : handleTaPending sess reply later = some final)
    (heard : answers events = reply :: answers final.2) :
    request.after tee events = request.answered tee final.1 := by
  have pending (waits : List SmcReply) (waiting : ∀ wait ∈ waits, wait.ret = teecPending) :
      waits.foldl request.answered tee = tee := by
    induction waits with
    | nil => rfl
    | cons wait rest ih =>
        rw [List.foldl_cons]
        have kept : request.answered tee wait = tee :=
          if_pos (waiting wait List.mem_cons_self)
        rw [kept]
        exact ih fun other member => waiting other (List.mem_cons_of_mem _ member)
  obtain ⟨_, waits, waiting, order⟩ := handleTaPending_answers ended
  rw [TeeRequest.after, heard, order, List.foldl_append, pending waits waiting]
  rfl

end Tee

/-! ### Both sides -/

structure Sides (Dev : Type) where
  tables : Tables Dev
  files : Dev → DevFile
  tee : Multiset TeeSession

def Sides.ids {Dev : Type} (sides : Sides Dev) (dev : Dev) : UInt32 :=
  (sides.files dev).devFileId

inductive SessionCall (platform : Platform) (Dev : Type) where
  | openSession (dev : Dev) (env : IoctlEnv platform) (context : ClientContext)
  | closeSession (dev : Dev) (env : IoctlEnv platform) (context : ClientContext)

section Machine

variable {platform : Platform} {Dev : Type} [DecidableEq Dev]

def Sides.settle (sides : Sides Dev) (dev : Dev) (request : TeeRequest) (outcome : Outcome Dev) :
    Sides Dev :=
  { tables := outcome.tables
    files := Function.update sides.files dev outcome.file
    tee := request.after sides.tee outcome.events }

/-- One call with its return value; `none` when the TEE leaves it pending. -/
def Sides.call (sides : Sides Dev) : SessionCall platform Dev → Option (Sides Dev × Int)
  | .openSession dev env context =>
      (tcNsOpenSession env sides.tables dev (sides.files dev) context).map fun outcome =>
        (sides.settle dev (.openSession (sides.ids dev) context.uuid) outcome, outcome.ret)
  | .closeSession dev env context =>
      (tcNsCloseSession env sides.tables dev (sides.files dev) context).map fun outcome =>
        (sides.settle dev (.closeSession ⟨sides.ids dev, context.uuid, context.sessionId⟩) outcome,
          outcome.ret)

def sidesMachine (platform : Platform) (Dev : Type) [DecidableEq Dev] :
    Machine (Sides Dev) (SessionCall platform Dev) :=
  { init := fun sides => sides.tables = Tables.initial ∧ sides.tee = 0
    step := fun before call after => ∃ ret, before.call call = some (after, ret) }

/-- When the TEE has opened the session, its results reach the client. -/
def OpenClean (env : IoctlEnv platform) (file : DevFile) (context : ClientContext) : Prop :=
  env.call.reply.ret = teecSuccess →
    ∀ index : Fin 4, index.val < 2 →
      Returns env.call (apiMode file.kernelApi) index (context.params index)
        (teecParamTypeGet context.paramTypes index)

def CloseClean (env : IoctlEnv platform) : Prop :=
  env.call.smcCmdAlloc = true ∧ env.call.cmdPack.isSome = true ∧ env.call.uuidOverlap = false

def Clean (sides : Sides Dev) : SessionCall platform Dev → Prop
  | .openSession dev env context => OpenClean env (sides.files dev) context
  | .closeSession _ env _ => CloseClean env

end Machine

/-! ### An open -/

section Open

variable {platform : Platform} {Dev : Type} [DecidableEq Dev] [Fintype Dev]
  {env : IoctlEnv platform} {tables : Tables Dev} {dev : Dev} {file : DevFile}
  {context : ClientContext} {ids : Dev → UInt32}

/-- What a call leaves on both sides. -/
structure Agrees (ids : Dev → UInt32) (request : TeeRequest) (tee : Multiset TeeSession)
    (outcome : Outcome Dev) : Prop where
  settled : Settled outcome.tables 0
  same : request.after tee outcome.events = outcome.tables.openSessions ids
  failed : outcome.ret ≠ 0 → request.after tee outcome.events = tee

theorem resetSessionId_success {params : CallParams} {reply : SmcReply}
    (success : reply.ret = teecSuccess) : resetSessionId params reply = reply.cmd.contextId := by
  unfold resetSessionId
  simp [success, teecSuccess]

/-- What the TEE call of an open does on both sides. -/
theorem openCall_agrees {call : CallEnv platform} {params : CallParams} {result : CallResult}
    (returned : tcClientCall call params = some result) (fresh : params.sess = .opening)
    (clean : call.reply.ret = teecSuccess →
      ∀ index, Returns call (apiMode params.dev.kernelApi) index (params.context.params index)
        (params.paramType index))
    (devFileId : UInt32) (uuid : Uuid) (tee : Multiset TeeSession) :
    (result.ret ≠ 0 ∧
        (TeeRequest.openSession devFileId uuid).after tee result.events = tee) ∨
      (result.ret = 0 ∧ (TeeRequest.openSession devFileId uuid).after tee result.events =
        ⟨devFileId, uuid, result.context.sessionId⟩ ::ₘ tee) := by
  cases tcClientCall_ends returned with
  | unsent failed _ events =>
      exact Or.inl ⟨failed, TeeRequest.after_silent _ _ (answers_eq_nil events)⟩
  | @answered slots opInited final ready ended ret _ sessionId heard _ =>
      have finished := (handleTaPending_answers ended).1
      rw [TeeRequest.after_final _ _ ended heard, TeeRequest.answered, if_neg finished]
      have first : final = (call.reply, []) := by
        rw [fresh, handleTaPending_opening] at ended
        split at ended
        · cases ended
        · exact (Option.some.inj ended).symm
      subst first
      by_cases success : call.reply.ret = teecSuccess
      · right
        have done : (updateClientOperation call params slots opInited true).1 = 0 := by
          refine updateClientOperation_eq_zero ?_ (clean success)
          intro inited
          rcases ready with ⟨unset, _⟩ | ⟨_, _, accepted, stored⟩
          · rw [unset] at inited
            cases inited
          · exact ⟨accepted, stored⟩
        rw [if_pos success, sessionId, resetSessionId_success success]
        refine ⟨?_, rfl⟩
        rw [ret, postProcSmcReturn, if_neg (not_not.mpr (show call.reply.ret = 0 from success))]
        exact done
      · left
        rw [if_neg success]
        refine ⟨?_, rfl⟩
        rw [ret, postProcSmcReturn, if_pos (show call.reply.ret ≠ 0 from success)]
        simp only
        split <;> decide

/-- The context of an open as its TEE call gets it. -/
structure Asked (context asked : ClientContext) : Prop where
  uuid : asked.uuid = context.uuid
  params : ∀ index : Fin 4, index.val < 2 → asked.params index = context.params index
  types : asked.paramTypes = loginTypes context.paramTypes

theorem Asked.of_sameRequest {asked after : ClientContext} (first : Asked context asked)
    (same : SameRequest asked after) : Asked context after := by
  obtain ⟨_, _, _, rfl⟩ := same
  exact ⟨first.uuid, first.params, first.types⟩

/-- The condition on the client's parameters is the one of the TEE call. -/
theorem returns_of_clean {asked : ClientContext} (request : Asked context asked)
    {mode : Mode} (returns : ∀ index : Fin 4, index.val < 2 → Returns env.call mode index
      (context.params index) (teecParamTypeGet context.paramTypes index)) (index : Fin 4) :
    Returns (loginCallEnv env.call file) mode index (asked.params index)
      (teecParamTypeGet asked.paramTypes index) := by
  rw [request.types]
  by_cases own : index.val < 2
  · rw [teecParamTypeGet_loginTypes_client context.paramTypes own, request.params index own]
    have size : (loginCallEnv env.call file).entrySize index = env.call.entrySize index := by
      have notKey : index ≠ 2 := fun same => absurd own (by rw [same]; decide)
      have notName : index ≠ 3 := fun same => absurd own (by rw [same]; decide)
      change (if index = 2 then _ else if index = 3 then _ else _) = _
      rw [if_neg notKey, if_neg notName]
    have client := returns index own
    unfold Returns ReturnsTmp at client ⊢
    rw [size]
    exact client
  · rw [teecParamTypeGet_loginTypes context.paramTypes (Nat.not_lt.mp own)]
    exact trivial

variable {service : Nat} {flags : UInt8} {outcome : Outcome Dev} {asked : ClientContext}

theorem procOpenSession_agrees (settled : Settled tables (holdRef dev service + 0))
    (uuidOf : tables.book.uuid service = context.uuid) (id : ids dev = file.devFileId)
    (request : Asked context asked) (clean : OpenClean env file context)
    (returned : procOpenSession env tables dev file asked service flags = some outcome) :
    (outcome.ret ≠ 0 ∧ outcome.tables = tables ∧
        (TeeRequest.openSession file.devFileId context.uuid).after (tables.openSessions ids)
          outcome.events = tables.openSessions ids) ∨
      (outcome.ret = 0 ∧ Settled outcome.tables 0 ∧
        (TeeRequest.openSession file.devFileId context.uuid).after (tables.openSessions ids)
          outcome.events = outcome.tables.openSessions ids) := by
  have loadedRequest := request.of_sameRequest (loadTaImage_context env.load file asked)
  unfold procOpenSession at returned
  simp only at returned
  split at returned
  · next failed =>
      cases returned
      exact Or.inl ⟨failed, rfl, rfl⟩
  · obtain ⟨result, called, finished⟩ := Option.map_eq_some_iff.mp returned
    subst finished
    have both := openCall_agrees called rfl
      (fun success => returns_of_clean loadedRequest (clean success))
      file.devFileId context.uuid (tables.openSessions ids)
    rcases both with ⟨failed, tee⟩ | ⟨opened, tee⟩
    · exact Or.inl ⟨failed, if_pos failed, tee⟩
    · obtain ⟨published, sessions⟩ := settled.initNewSessNode ids result.context.sessionId
      have kept : (finishOpen tables dev file service
          (loadTaImage env.load file asked).2.2 result).tables =
            tables.initNewSessNode dev service result.context.sessionId :=
        if_neg (not_not.mpr opened)
      refine Or.inr ⟨opened, ?_, ?_⟩
      · rw [kept]
        exact published
      · rw [kept, sessions, id, uuidOf]
        exact tee

theorem openWithService_agrees (settled : Settled tables (holdRef dev service + 0))
    (uuidOf : tables.book.uuid service = context.uuid) (id : ids dev = file.devFileId)
    (request : Asked context asked) (clean : OpenClean env file context)
    (returned : openWithService env tables dev file asked service flags = some outcome) :
    Agrees ids (.openSession file.devFileId context.uuid) (tables.openSessions ids) outcome := by
  have dropped := settled.dropService ids
  unfold openWithService at returned
  split at returned
  · cases returned
    exact ⟨dropped.settled, dropped.sessions.symm, fun _ => rfl⟩
  split at returned
  · cases returned
    exact ⟨dropped.settled, dropped.sessions.symm, fun _ => rfl⟩
  obtain ⟨opened, ran, same⟩ := Option.map_eq_some_iff.mp returned
  subst same
  obtain ⟨failed, kept, tee⟩ | ⟨success, published, tee⟩ :=
    procOpenSession_agrees settled uuidOf id request clean ran
  · rw [if_neg failed]
    refine ⟨?_, ?_, fun _ => tee⟩
    · rw [kept]
      exact dropped.settled
    · rw [kept]
      exact tee.trans dropped.sessions.symm
  · rw [if_pos success]
    exact ⟨published, tee, fun failed => absurd success failed⟩

omit [Fintype Dev] in
theorem openWithService_file
    (returned : openWithService env tables dev file asked service flags = some outcome) :
    outcome.file = file := by
  unfold openWithService at returned
  split at returned
  · cases returned
    rfl
  split at returned
  · cases returned
    rfl
  obtain ⟨opened, ran, same⟩ := Option.map_eq_some_iff.mp returned
  have kept : opened.file = file := by
    unfold procOpenSession at ran
    simp only at ran
    split at ran
    · cases ran
      rfl
    · obtain ⟨result, _, finished⟩ := Option.map_eq_some_iff.mp ran
      subst finished
      rfl
  subst same
  split
  · exact kept
  · exact kept

theorem tcNsOpenSession_agrees (settled : Settled tables 0) (id : ids dev = file.devFileId)
    (clean : OpenClean env file context)
    (returned : tcNsOpenSession env tables dev file context = some outcome) :
    Agrees ids (.openSession file.devFileId context.uuid) (tables.openSessions ids) outcome ∧
      outcome.file.devFileId = file.devFileId := by
  obtain ⟨before, ran, same⟩ := Option.map_eq_some_iff.mp returned
  subst same
  have fileId : (checkLoginMethod env.login file context tcCallGlobal).file.devFileId =
      file.devFileId := by
    rcases checkLoginMethod_file env.login file context tcCallGlobal with kept | keyed
    · rw [kept]
    · rw [keyed]
      rfl
  unfold openBeforeClear at ran
  simp only at ran
  split at ran
  · cases ran
    exact ⟨⟨settled, rfl, fun _ => rfl⟩, fileId⟩
  next accepted =>
    obtain ⟨keyed, kind, sameFile, sameContext, _⟩ :=
      checkLoginMethod_accepted (not_not.mp accepted)
    have request : Asked context
        { (checkLoginMethod env.login file context tcCallGlobal).context with
          cmdId := globalCmdIdOpenSession } := by
      rw [sameContext]
      refine ⟨rfl, ?_, rfl⟩
      intro index own
      have notKey : index ≠ 2 := fun same => absurd own (by rw [same]; decide)
      have notName : index ≠ 3 := fun same => absurd own (by rw [same]; decide)
      change Function.update _ 2 _ index = _
      rw [Function.update_of_ne notKey]
      exact Function.update_of_ne notName _ _
    have keyedClean : OpenClean env
        (checkLoginMethod env.login file context tcCallGlobal).file context := by
      rw [sameFile]
      rcases kind with rfl | rfl
      · exact clean
      · exact clean
    have finds := settled.findService ids env.serviceAlloc dev
      (checkLoginMethod env.login file context tcCallGlobal).context.uuid
    cases search : tables.findService env.serviceAlloc dev
        (checkLoginMethod env.login file context tcCallGlobal).context.uuid with
    | mk after found =>
      rw [search] at ran finds
      cases finds with
      | missing kept =>
          cases ran
          exact ⟨⟨kept.settled, kept.sessions.symm, fun _ => rfl⟩, fileId⟩
      | @found _ service uuidOf kept =>
          simp only at ran
          obtain ⟨opened, served, same⟩ := Option.map_eq_some_iff.mp ran
          subst same
          have both := openWithService_agrees kept.settled (uuidOf.trans request.uuid)
            (id.trans fileId.symm) request keyedClean served
          rw [fileId, kept.sessions] at both
          refine ⟨⟨both.settled, both.same, both.failed⟩, ?_⟩
          change opened.file.devFileId = _
          rw [openWithService_file served]
          exact fileId

end Open

/-! ### A close -/

section Close

variable {platform : Platform} {Dev : Type} [DecidableEq Dev] [Fintype Dev]
  {env : IoctlEnv platform} {tables : Tables Dev} {dev : Dev} {file : DevFile}
  {context : ClientContext} {ids : Dev → UInt32} {outcome : Outcome Dev}

/-- With its allocations made, a close gets to the TEE. -/
theorem closeSession_answered {uuid : Uuid} {sessionId : UInt32} {result : CallResult}
    (clean : CloseClean env) (returned : closeSession env file uuid sessionId = some result) :
    ∃ final, handleTaPending .opened env.call.reply env.call.laterReplies = some final ∧
      answers result.events = env.call.reply :: answers final.2 := by
  obtain ⟨allocated, given, apart⟩ := clean
  obtain ⟨pack, packed⟩ := Option.isSome_iff_exists.mp given
  unfold closeSession tcClientCall at returned
  rw [if_neg (by rw [allocated]; decide), packed] at returned
  simp only at returned
  rw [if_pos (show (closeContext uuid sessionId).paramTypes = 0 from rfl)] at returned
  obtain ⟨final, ended, _, _, _, heard, _⟩ :=
    sendCall_answered (fun _ member => taken_ofCall member)
      (configSmcCmdContext_of_not_open apart (show globalCmdIdCloseSession ≠ _ by decide) _ _)
      returned
  exact ⟨final, ended, heard⟩

omit [DecidableEq Dev] [Fintype Dev] in
theorem tcFindServiceInDev_uuid {after : Tables Dev} {uuid : Uuid} {service : Nat}
    (ran : tables.tcFindServiceInDev dev uuid = (after, some service)) :
    tables.book.uuid service = uuid := by
  obtain ⟨place, found, same⟩ := Option.map_eq_some_iff.mp (congrArg Prod.snd ran)
  rw [← same]
  exact (Tables.findSlot_eq_some found).2

theorem Settled.getSession {looked : Tables Dev} {service session : Nat} {sessionId : UInt32}
    {holds : Holds Dev} (settled : Settled tables holds) (ids : Dev → UInt32)
    (ran : tables.getSession service sessionId dev = (looked, some session)) :
    Settled looked (holdSession session + holds) ∧ looked.openSessions ids = tables.openSessions ids ∧
      looked.book.uuid = tables.book.uuid ∧ session ∈ looked.book.sessionList service ∧
      looked.book.owner session = some dev ∧ looked.sessionIds session = sessionId := by
  unfold Tables.getSession at ran
  cases search : tables.tcFindSessionWithowner service sessionId dev with
  | none =>
      rw [search] at ran
      cases ran
  | some found =>
      rw [search] at ran
      cases ran
      obtain ⟨member, owned⟩ := Tables.tcFindSessionWithowner_eq_some search
      have sameId : tables.sessionIds session = sessionId := by
        have matched := List.find?_some search
        exact (of_decide_eq_true matched).1
      have counted := settled.counted
      refine ⟨⟨?_, ?_⟩, ?_, ?_, ?_, ?_, ?_⟩
      · rw [Tables.book_getSessionStruct]
        exact counted.getSession (counted.sessions.usage_pos_of_mem member)
      · rw [Tables.book_getSessionStruct]
        exact settled.opened
      · unfold Tables.openSessions
        rw [Tables.book_getSessionStruct, Tables.sessionIds_getSessionStruct]
        rfl
      · rw [Tables.book_getSessionStruct]
        rfl
      · rw [Tables.book_getSessionStruct]
        exact member
      · rw [Tables.book_getSessionStruct]
        exact owned
      · rw [Tables.sessionIds_getSessionStruct]
        exact sameId

theorem tcNsCloseSession_agrees (settled : Settled tables 0) (id : ids dev = file.devFileId)
    (clean : CloseClean env)
    (returned : tcNsCloseSession env tables dev file context = some outcome) :
    Agrees ids (.closeSession ⟨file.devFileId, context.uuid, context.sessionId⟩)
        (tables.openSessions ids) outcome ∧
      outcome.file.devFileId = file.devFileId := by
  unfold tcNsCloseSession at returned
  split at returned
  · cases returned
    exact ⟨⟨settled, rfl, fun _ => rfl⟩, rfl⟩
  obtain ⟨touched, _, result | ⟨index, service, stored, result⟩⟩ :=
    tables.tcFindServiceInDev_cases dev context.uuid
  · rw [result] at returned
    cases returned
    exact ⟨⟨⟨settled.counted, settled.opened⟩, rfl, fun _ => rfl⟩, rfl⟩
  have uuidOf := tcFindServiceInDev_uuid result
  rw [result] at returned
  simp only at returned
  have used := settled.counted.services.usage_pos_of_slot stored
    (Book.OwnsSlots.of_opened (settled.opened dev) index _ stored)
  have referenced : Settled ((tables.touchServices touched).getServiceStruct service)
      (holdService service + 0) := by
    constructor
    · rw [Tables.book_getServiceStruct]
      exact settled.counted.getService used
    · rw [Tables.book_getServiceStruct]
      exact settled.opened
  have referencedSessions :
      ((tables.touchServices touched).getServiceStruct service).openSessions ids =
        tables.openSessions ids := by
    unfold Tables.openSessions
    rw [Tables.book_getServiceStruct]
    rfl
  cases search : ((tables.touchServices touched).getServiceStruct service).getSession service
      context.sessionId dev with
  | mk looked found =>
    rw [search] at returned
    cases found with
    | none =>
        cases returned
        have same : looked.book = ((tables.touchServices touched).getServiceStruct service).book ∧
            looked.sessionIds = tables.sessionIds := by
          unfold Tables.getSession at search
          split at search
          · cases search
            exact ⟨rfl, rfl⟩
          · cases search
        have still : Settled looked (holdService service + 0) := by
          constructor
          · rw [same.1]
            exact referenced.counted
          · rw [same.1]
            exact referenced.opened
        have put := still.putService ids
        have sessions : tables.openSessions ids =
            (looked.putServiceStruct service).openSessions ids := by
          rw [put.sessions, ← referencedSessions]
          unfold Tables.openSessions
          rw [same.1, same.2]
          rfl
        exact ⟨⟨put.settled, sessions, fun _ => rfl⟩, rfl⟩
    | some session =>
        obtain ⟨held, lookedSessions, lookedUuid, member, owned, sameId⟩ :=
          referenced.getSession ids search
        obtain ⟨result, called, finished⟩ := Option.map_eq_some_iff.mp returned
        subst finished
        obtain ⟨closed, sessions⟩ := held.closeFound ids member owned
        obtain ⟨final, ended, heard⟩ := closeSession_answered clean called
        refine ⟨⟨closed, ?_, fun failed => absurd rfl failed⟩, rfl⟩
        have bookUuid : looked.book.uuid service = context.uuid := by
          rw [lookedUuid, Tables.book_getServiceStruct]
          exact uuidOf
        rw [TeeRequest.after_final _ _ ended heard, TeeRequest.answered,
          if_neg (handleTaPending_answers ended).1]
        simp only
        rw [← referencedSessions, ← lookedSessions, sessions, id, bookUuid, sameId,
          Multiset.erase_cons_head]

end Close

/-! ### Whole runs -/

section Runs

variable {platform : Platform} {Dev : Type} [DecidableEq Dev] [Fintype Dev]

structure Sides.Agree (sides : Sides Dev) : Prop where
  settled : Settled sides.tables 0
  same : sides.tee = sides.tables.openSessions sides.ids

omit [Fintype Dev] in
theorem Sides.settle_ids (sides : Sides Dev) (dev : Dev) (request : TeeRequest)
    {outcome : Outcome Dev} (kept : outcome.file.devFileId = (sides.files dev).devFileId) :
    (sides.settle dev request outcome).ids = sides.ids := by
  funext other
  change (Function.update sides.files dev outcome.file other).devFileId = _
  by_cases same : other = dev
  · subst same
    rw [Function.update_self]
    exact kept
  · rw [Function.update_of_ne same]
    rfl

theorem Sides.Agree.call {sides after : Sides Dev} {call : SessionCall platform Dev} {ret : Int}
    (agree : sides.Agree) (clean : Clean sides call) (ran : sides.call call = some (after, ret)) :
    after.Agree ∧ (ret ≠ 0 → after.tee = sides.tee) := by
  have ends (dev : Dev) (request : TeeRequest) (outcome : Outcome Dev)
      (both : Agrees sides.ids request (sides.tables.openSessions sides.ids) outcome ∧
        outcome.file.devFileId = (sides.files dev).devFileId)
      (same : (sides.settle dev request outcome, outcome.ret) = (after, ret)) :
      after.Agree ∧ (ret ≠ 0 → after.tee = sides.tee) := by
    obtain ⟨agrees, kept⟩ := both
    cases same
    rw [← agree.same] at agrees
    refine ⟨⟨agrees.settled, ?_⟩, agrees.failed⟩
    rw [sides.settle_ids dev request kept]
    exact agrees.same
  cases call with
  | openSession dev env context =>
      obtain ⟨outcome, returned, same⟩ := Option.map_eq_some_iff.mp ran
      exact ends dev _ outcome (tcNsOpenSession_agrees agree.settled rfl clean returned) same
  | closeSession dev env context =>
      obtain ⟨outcome, returned, same⟩ := Option.map_eq_some_iff.mp ran
      exact ends dev _ outcome (tcNsCloseSession_agrees agree.settled rfl clean returned) same

theorem Settled.initial : Settled (Tables.initial : Tables Dev) 0 :=
  ⟨initial_counted, fun _ => rfl⟩

theorem Sides.Agree.of_reachable {sides : Sides Dev}
    (reached : ((sidesMachine platform Dev).restrict Clean).Reachable sides) : sides.Agree := by
  refine Machine.Reachable.invariant ?_ ?_ reached
  · intro first given
    obtain ⟨tables, tee⟩ := given
    constructor
    · rw [tables]
      exact Settled.initial
    · rw [tables, tee]
      rfl
  · intro before call after agree given
    obtain ⟨clean, ret, ran⟩ := given
    exact (agree.call clean ran).1

/-- After every call of a run of clean calls the TEE has open what is on the
driver's lists, and an open that fails has opened nothing in the TEE. -/
theorem driver_and_tee_sessions_agree {sides : Sides Dev}
    (reached : ((sidesMachine platform Dev).restrict Clean).Reachable sides) :
    sides.tee = sides.tables.openSessions sides.ids ∧
      ∀ (dev : Dev) (env : IoctlEnv platform) (context : ClientContext) (after : Sides Dev)
        (ret : Int), Clean sides (.openSession dev env context) →
          sides.call (.openSession dev env context) = some (after, ret) → ret ≠ 0 →
            after.tee = sides.tee := by
  have agree := Sides.Agree.of_reachable reached
  refine ⟨agree.same, ?_⟩
  intro dev env context after ret clean ran failed
  exact (agree.call clean ran).2 failed

end Runs

/-! ### Two opens -/

def calmLoad : LoadEnv :=
  { needPack := true, needParam := true, needAnswer := 0, needLoad := 0, loadMem := fun _ => true
    loadPack := true, uuidReturn := true, frameCopy := fun _ => true
    frameAnswer := fun _ => ⟨teecSuccess, SmcCmd.zeroed⟩ }

def calmIoctl : IoctlEnv flatPlatform :=
  { userContext := none, contextWrite := true
    login :=
      { rebooting := false, accessOk := fun _ _ => true, userSize := fun _ => some 0
        caUid := 1000 }
    serviceAlloc := true, sessionAlloc := true, authHash := 0
    load := calmLoad, call := calmEnv }

def loginContext : ClientContext :=
  { emptyContext with loginMethod := teecLoginIdentify }

def valueContext : ClientContext :=
  { loginContext with
    paramTypes := ParamType.valueOutput.code
    params := fun _ =>
      { buffer := 0x1000, bufferHAddr := 0, offset := 0x1004, hOffset := 0, sizeAddr := 0
        sizeHAddr := 0 } }

def freshSides : Sides Unit :=
  { tables := Tables.initial
    files := fun _ => { userDev with pkgNameLen := 3, pubKeyLen := 4 }
    tee := 0 }

def Sides.exec (sides : Sides Unit) (call : SessionCall flatPlatform Unit) : Option (Sides Unit) :=
  (sides.call call).map Prod.fst

theorem Sides.exec_sound {before after : Sides Unit} {call : SessionCall flatPlatform Unit}
    (ran : before.exec call = some after) :
    (sidesMachine flatPlatform Unit).step before call after := by
  obtain ⟨result, called, same⟩ := Option.map_eq_some_iff.mp ran
  subst same
  exact ⟨result.2, called⟩

/-- A run with one open ends with its session on both sides. -/
theorem driver_and_tee_sessions_agree_open_once :
    ∃ sides : Sides Unit, sides.tee = sides.tables.openSessions sides.ids ∧
      sides.tee = {⟨1, 0#128, 1⟩} := by
  have ran : ((freshSides.exec (.openSession () calmIoctl loginContext)).map fun sides =>
      decide (sides.tee = {⟨1, 0#128, 1⟩})) = some true := by decide +kernel
  obtain ⟨sides, stepped, one⟩ := Option.map_eq_some_iff.mp ran
  have clean : Clean freshSides (.openSession () calmIoctl loginContext) := by
    intro _ index _
    have none_ : teecParamTypeGet 0 index = .none := by
      revert index
      decide
    change Returns _ _ index _ (teecParamTypeGet 0 index)
    rw [none_]
    trivial
  have reached : ((sidesMachine flatPlatform Unit).restrict Clean).Reachable sides :=
    .next (.start ⟨rfl, rfl⟩) ⟨clean, Sides.exec_sound stepped⟩
  exact ⟨sides, (driver_and_tee_sessions_agree reached).1, of_decide_eq_true one⟩

/-- The TEE opens the session and the copy of its value to the client faults: the
driver gives the open up, and the TEE keeps its session. -/
theorem driver_and_tee_sessions_disagree :
    ∃ sides, (sidesMachine flatPlatform Unit).Reachable sides ∧
      sides.tee ≠ sides.tables.openSessions sides.ids := by
  have ran : ((freshSides.exec (.openSession ()
      { calmIoctl with call := { calmEnv with valueAWrite := fun _ => false } }
      valueContext)).map fun sides =>
        decide (sides.tee ≠ sides.tables.openSessions sides.ids)) = some true := by
    decide +kernel
  obtain ⟨sides, stepped, apart⟩ := Option.map_eq_some_iff.mp ran
  exact ⟨sides, .next (.start ⟨rfl, rfl⟩) (Sides.exec_sound stepped), of_decide_eq_true apart⟩

end TzDriver.Session
