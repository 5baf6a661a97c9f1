/-
The session id that an open leaves in its context.

`reset_session_id` runs after the first answer of the TEE.  A pending first answer has
`handle_ta_pending` wait on the session of the open, which nothing can wake.
-/

import TzDriver.Client.Trace

namespace TzDriver.Client

/-- `waits` came one after the other, all pending, and then `final`. -/
structure Answered (replies waits : List SmcReply) (final : SmcReply) : Prop where
  order : ∃ unused, replies = waits ++ final :: unused
  waiting : ∀ wait ∈ waits, wait.ret = teecPending
  finished : final.ret ≠ teecPending

/-- The session id that the final answer to an open stands for. -/
def SmcReply.openedId (final : SmcReply) : UInt32 :=
  if final.ret = teecSuccess then final.cmd.contextId else 0

/-- The request opens a session, as `proc_open_session` sends it. -/
structure CallParams.Opens (params : CallParams) : Prop where
  isGlobal : params.isGlobal = true
  command : params.context.cmdId = globalCmdIdOpenSession
  fresh : params.sess = .opening

/-- Nothing fails before the SMC. -/
structure Issued {platform : Platform} (env : CallEnv platform) (params : CallParams) : Prop where
  smcCmd : env.smcCmdAlloc = true
  cmdPack : env.cmdPack.isSome = true
  operation : params.context.paramTypes ≠ 0 → (allocOperation env params).ret = 0
  config : ∀ pack ∈ env.cmdPack, (configSmcCmdContext env params pack.addr
    { SmcCmd.zeroed with errOrigin := teecOriginComms, uid := env.uid }).1 = 0

section Answers

variable {platform : Platform} {env : CallEnv platform} {params : CallParams}
  {waits : List SmcReply} {final : SmcReply}

theorem Issued.sends (issued : Issued env params) :
    ∃ pack slots opInited cmd events,
      tcClientCall env params = sendCall env params pack slots opInited cmd events ∧
        (configSmcCmdContext env params pack.addr cmd).1 = 0 := by
  obtain ⟨pack, packed⟩ := Option.isSome_iff_exists.mp issued.cmdPack
  have configured := issued.config pack packed
  unfold tcClientCall
  rw [if_neg (by rw [issued.smcCmd]; decide), packed]
  simp only
  by_cases noParams : params.context.paramTypes = 0
  · rw [if_pos noParams]
    exact ⟨pack, _, _, _, _, rfl, configured⟩
  · rw [if_neg noParams, if_neg (not_not_intro (issued.operation noParams))]
    exact ⟨pack, _, _, _, _, rfl, configured⟩

/-- A call that gets to the TEE returns when its answers come to an end, with the id that
`reset_session_id` stored. -/
theorem Issued.returns_iff (issued : Issued env params) (id : UInt32) :
    (∃ result, tcClientCall env params = some result ∧ result.context.sessionId = id) ↔
      (handleTaPending params.sess env.reply env.laterReplies).isSome = true ∧
        resetSessionId params env.reply = id := by
  obtain ⟨pack, slots, opInited, cmd, events, sent, configured⟩ := issued.sends
  rw [sent]
  unfold sendCall
  simp only [configured, ne_eq, not_true_eq_false, if_false]
  cases handleTaPending params.sess env.reply env.laterReplies with
  | none => simp
  | some ended => simp [finishCall]

theorem Answered.not_pending_iff {reply : SmcReply} {later : List SmcReply}
    (answered : Answered (reply :: later) waits final) :
    reply.ret ≠ teecPending ↔ waits = [] := by
  obtain ⟨⟨unused, order⟩, waiting, finished⟩ := answered
  cases waits with
  | nil =>
      obtain ⟨rfl, _⟩ := List.cons.inj order
      exact iff_of_true finished rfl
  | cons wait rest =>
      obtain ⟨rfl, _⟩ := List.cons.inj order
      have pending := waiting reply List.mem_cons_self
      exact iff_of_false (not_not_intro pending) (List.cons_ne_nil _ _)

theorem Answered.first_eq {reply : SmcReply} {later : List SmcReply}
    (answered : Answered (reply :: later) [] final) : reply = final := by
  obtain ⟨unused, order⟩ := answered.order
  exact (List.cons.inj order).1

theorem resetSessionId_of_opens (opens : params.Opens) {reply : SmcReply}
    (finished : reply.ret ≠ teecPending) : resetSessionId params reply = reply.openedId := by
  unfold resetSessionId SmcReply.openedId
  rw [opens.isGlobal, opens.command]
  by_cases success : reply.ret = teecSuccess
  · simp [success, teecSuccess]
  · have failed : reply.ret ≠ 0 := success
    simp [finished, success, failed]

end Answers

/-! ### After an open -/

section Opened

variable {platform : Platform}

/-- An open that got to the TEE returns with the id that the final answer stands for
exactly when that answer is the first one.  Wherever it returns, the id is this one. -/
theorem open_session_id_final_iff (env : CallEnv platform) (params : CallParams)
    (opens : params.Opens) (issued : Issued env params) (waits : List SmcReply)
    (final : SmcReply) (answered : Answered (env.reply :: env.laterReplies) waits final) :
    ((∃ result, tcClientCall env params = some result ∧
        result.context.sessionId = final.openedId) ↔ waits = []) ∧
      ∀ result, tcClientCall env params = some result →
        result.context.sessionId = final.openedId := by
  have returns (id : UInt32) :
      (∃ result, tcClientCall env params = some result ∧ result.context.sessionId = id) ↔
        waits = [] ∧ resetSessionId params env.reply = id := by
    rw [issued.returns_iff id, opens.fresh, handleTaPending_opening, ← answered.not_pending_iff]
    split <;> simp [*]
  have stored (atOnce : waits = []) : resetSessionId params env.reply = final.openedId := by
    subst atOnce
    rw [resetSessionId_of_opens opens (answered.not_pending_iff.mpr rfl), answered.first_eq]
  constructor
  · rw [returns final.openedId]
    exact ⟨And.left, fun atOnce => ⟨atOnce, stored atOnce⟩⟩
  · intro result returned
    obtain ⟨atOnce, same⟩ := (returns result.context.sessionId).mp ⟨result, returned, rfl⟩
    exact same.symm.trans (stored atOnce)

end Opened

def openParams : CallParams :=
  { dev := userDev
    context :=
      { emptyContext with
        cmdId := globalCmdIdOpenSession
        paramTypes := 0x5
        params := fun _ =>
          { buffer := 0x1000, bufferHAddr := 0, offset := 0, hOffset := 0
            sizeAddr := 0x2000, sizeHAddr := 0 } }
    sess := .opening
    flags := tcCallGlobal }

theorem openParams_opens : openParams.Opens :=
  ⟨by decide, rfl, rfl⟩

/-- The answers that the TEE has for the request, the first one with context id 5. -/
def answeringEnv (first : UInt32) (later : List SmcReply) : CallEnv flatPlatform :=
  { calmEnv with
    entrySize := fun _ => some 16
    reply := ⟨first, { SmcCmd.zeroed with contextId := 5 }⟩
    laterReplies := later }

theorem openParams_issued (first : UInt32) (later : List SmcReply) :
    Issued (answeringEnv first later) openParams := by
  refine ⟨rfl, rfl, fun _ => rfl, ?_⟩
  intro pack packed
  cases packed
  rfl

def lateSuccess : SmcReply :=
  ⟨teecSuccess, { SmcCmd.zeroed with contextId := 5 }⟩

theorem open_answered_late_hangs :
    ¬∀ (env : CallEnv flatPlatform) (params : CallParams), params.Opens → Issued env params →
      ∀ waits final, Answered (env.reply :: env.laterReplies) waits final →
        ∃ result, tcClientCall env params = some result ∧
          result.context.sessionId = final.openedId := by
  intro always
  have issued := openParams_issued teecPending [lateSuccess]
  obtain ⟨result, returned, _⟩ := always _ _ openParams_opens issued
    [⟨teecPending, { SmcCmd.zeroed with contextId := 5 }⟩] lateSuccess
    ⟨⟨[], rfl⟩, by decide, by decide⟩
  have hangs : tcClientCall (answeringEnv teecPending [lateSuccess]) openParams = none := rfl
  rw [hangs] at returned
  cases returned

theorem open_session_id_final_at_once :
    ((∃ result, tcClientCall (answeringEnv teecErrorGeneric []) openParams = some result ∧
        result.context.sessionId =
          SmcReply.openedId ⟨teecErrorGeneric, { SmcCmd.zeroed with contextId := 5 }⟩) ∧
      ∃ result, tcClientCall (answeringEnv teecSuccess []) openParams = some result ∧
        result.context.sessionId = lateSuccess.openedId) ∧
      lateSuccess.openedId = 5 := by
  have failed := open_session_id_final_iff (answeringEnv teecErrorGeneric []) openParams
    openParams_opens (openParams_issued _ _) [] _ ⟨⟨[], rfl⟩, by decide, by decide⟩
  have opened := open_session_id_final_iff (answeringEnv teecSuccess []) openParams
    openParams_opens (openParams_issued _ _) [] _ ⟨⟨[], rfl⟩, by decide, by decide⟩
  exact ⟨⟨failed.1.mpr rfl, opened.1.mpr rfl⟩, rfl⟩

end TzDriver.Client
