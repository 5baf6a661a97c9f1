/-
What the events of a call are: which client address each access is made at, in
which mode and for how long, and which answers of the TEE it got.
-/

import TzDriver.Client.Call

namespace TzDriver.Client

/-! ### One parameter -/

def paramAddresses (param : ClientParam) : List UInt64 :=
  [param.sizeAddress, param.bufferAddress, param.aAddress, param.bAddress]

/-- An event of `alloc_operation` at one index; `bound` is the size that was read. -/
inductive Prepares (mode : Mode) (index : Fin 4) (param : ClientParam) (type : ParamType)
    (bound : Nat) : Event → Prop where
  | size {length : Nat} (short : length ≤ 4) :
      Prepares mode index param type bound (.fromClient mode index .size param.sizeAddress length)
  | buffer {length : Nat} (inside : length ≤ bound) :
      Prepares mode index param type bound
        (.fromClient mode index .buffer param.bufferAddress length)
  | value {item : Item} {addr : UInt64} {length : Nat} (kind : teecValueType type .inout = true)
      (at_ : addr ∈ paramAddresses param) :
      Prepares mode index param type bound (.fromClient mode index item addr length)
  | alloc {ptr : UInt64} {length : Nat} :
      Prepares mode index param type bound (.mailboxAlloc ptr length)
  | free {ptr : UInt64} : Prepares mode index param type bound (.mailboxFree ptr)
  | share {sharemem : Nat} : Prepares mode index param type bound (.getSharemem sharemem)

inductive Delivers (mode : Mode) (index : Fin 4) (param : ClientParam) : Event → Prop where
  | read {item : Item} {addr : UInt64} {length : Nat} (at_ : addr ∈ paramAddresses param) :
      Delivers mode index param (.fromClient mode index item addr length)
  | write {item : Item} {addr : UInt64} {length : Nat} (at_ : addr ∈ paramAddresses param) :
      Delivers mode index param (.toClient mode index item addr length)
  | sharemem {length : Nat} : Delivers mode index param (.mailboxToSharemem index length)

inductive Releases : Event → Prop where
  | free {ptr : UInt64} : Releases (.mailboxFree ptr)
  | put {sharemem : Nat} : Releases (.putSharemem sharemem)

section Parameter

variable {platform : Platform} {env : CallEnv platform} {mode : Mode} {type : ParamType}
  {index : Fin 4} {param : ClientParam} {event : Event}

theorem mem_readFromClient {item : Item} {destSize : Nat} {src : UInt64} {size : Nat}
    {clean : Bool}
    (member : event ∈ (readFromClient index item destSize src size mode clean).2) :
    ∃ length ≤ size, event = .fromClient mode index item src length := by
  rcases readFromClient_events index item mode clean destSize src size with none | ⟨length, short, one⟩
  · rw [none] at member
    cases member
  · rw [one] at member
    exact ⟨length, short, List.mem_singleton.mp member⟩

theorem mem_writeToClient {item : Item} {dest : UInt64} {destSize : Nat} {src : UInt64}
    {size : Nat} {clean : Bool}
    (member : event ∈ (writeToClient index item dest destSize src size mode clean).2) :
    ∃ length ≤ size, event = .toClient mode index item dest length := by
  rcases writeToClient_events index item mode clean dest destSize src size with
    none | ⟨length, short, one⟩
  · rw [none] at member
    cases member
  · rw [one] at member
    exact ⟨length, short, List.mem_singleton.mp member⟩

theorem prepares_readSize {bound : Nat} {word : Option UInt32}
    (member : event ∈ (readWord index .size param.sizeAddress mode word).2) :
    Prepares mode index param type bound event := by
  obtain ⟨length, short, rfl⟩ := mem_readFromClient member
  exact .size short

theorem allocTmpBuffer_prepares {bufferSize : UInt32} {slot : Slot}
    (member : event ∈ (allocTmpBuffer env mode type index param bufferSize slot).events) :
    Prepares mode index param type bufferSize.toNat event := by
  unfold allocTmpBuffer at member
  simp only at member
  split at member
  · cases member
  split at member
  · cases member
  cases given : env.tmpBlock index with
  | none =>
      rw [given] at member
      cases member
  | some block =>
      rw [given] at member
      have copied : event ∈ .mailboxAlloc block.addr bufferSize.toNat ::
          (updateInputData env mode type index param bufferSize).2 := by
        simp only at member
        split at member
        · exact member
        · exact member
      rcases List.mem_cons.mp copied with rfl | input
      · exact .alloc
      · unfold updateInputData at input
        split at input
        · cases input
        · obtain ⟨length, inside, rfl⟩ := mem_readFromClient input
          exact .buffer inside

theorem allocForTmpMem_prepares {slot : Slot}
    (member : event ∈ (allocForTmpMem env mode type index param slot).events) :
    Prepares mode index param type ((env.entrySize index).getD 0).toNat event := by
  unfold allocForTmpMem at member
  simp only at member
  split at member
  · exact prepares_readSize member
  · rcases List.mem_append.mp member with read | rest
    · exact prepares_readSize read
    · exact allocTmpBuffer_prepares rest

theorem setOperationBuffer_prepares {bound : Nat} {sharedMem : SharedMem} {addr : UInt64}
    {bufferSize : UInt32} {slot : Slot}
    (member : event ∈ (setOperationBuffer env index sharedMem addr bufferSize slot).events) :
    Prepares mode index param type bound event := by
  unfold setOperationBuffer at member
  cases kind : sharedMem.memType with
  | reserved =>
      rw [kind] at member
      cases member
  | vmalloc =>
      rw [kind] at member
      simp only at member
      rcases mailboxCopyAlloc_cases addr bufferSize.toNat (env.refBlock index)
        (env.refOverlap index) with result | ⟨ptr, _, result | result⟩
      · rw [result] at member
        cases member
      · rw [result] at member
        rcases List.mem_cons.mp member with rfl | freed
        · exact .alloc
        · rw [List.mem_singleton.mp freed]
          exact .free
      · rw [result] at member
        rw [List.mem_singleton.mp member]
        exact .alloc

theorem allocForRefMem_prepares {bound : Nat} {slot : Slot}
    (member : event ∈ (allocForRefMem env mode type index param slot).events) :
    Prepares mode index param type bound event := by
  have found (bufferSize : UInt32) (first : Slot)
      (inside : event ∈ (refSharedMem env index param bufferSize first).events) :
      Prepares mode index param type bound event := by
    unfold refSharedMem at inside
    split at inside
    · cases inside
    split at inside
    · cases inside
    simp only at inside
    split at inside
    · exact setOperationBuffer_prepares inside
    · rcases List.mem_append.mp inside with set | taken
      · exact setOperationBuffer_prepares set
      · rw [List.mem_singleton.mp taken]
        exact .share
  unfold allocForRefMem at member
  simp only at member
  split at member
  · exact prepares_readSize member
  have both : event ∈ (readWord index .size param.sizeAddress mode (env.entrySize index)).2 ++
      (refSharedMem env index param ((env.entrySize index).getD 0)
        { slot with param := ⟨0, slot.param.size⟩ }).events := by
    split at member
    · exact member
    split at member
    · exact member
    · exact member
  rcases List.mem_append.mp both with read | rest
  · exact prepares_readSize read
  · exact found _ _ rest

theorem transferClientValue_prepares {bound : Nat} {slot : Slot}
    (kind : teecValueType type .inout = true)
    (member : event ∈ (transferClientValue env mode type index param slot).events) :
    Prepares mode index param type bound event := by
  have first (inside : event ∈ (readWord index .valueA param.aAddress mode (env.valueA index)).2) :
      Prepares mode index param type bound event := by
    obtain ⟨length, _, rfl⟩ := mem_readFromClient inside
    exact .value kind (by simp [paramAddresses])
  have second (inside : event ∈ (readWord index .valueB param.bAddress mode (env.valueB index)).2) :
      Prepares mode index param type bound event := by
    obtain ⟨length, _, rfl⟩ := mem_readFromClient inside
    exact .value kind (by simp [paramAddresses])
  unfold transferClientValue at member
  simp only at member
  split at member
  · exact first member
  split at member
  all_goals
    rcases List.mem_append.mp member with readA | readB
    · exact first readA
    · exact second readB

theorem allocParam_prepares {slot : Slot}
    (member : event ∈ (allocParam env mode type index param slot).events) :
    Prepares mode index param type ((env.entrySize index).getD 0).toNat event := by
  unfold allocParam at member
  split at member
  · exact allocForTmpMem_prepares member
  split at member
  · exact allocForRefMem_prepares member
  split at member
  · next kind => exact transferClientValue_prepares kind member
  split at member
  · cases member
  · cases member

/-! ### Copying back and releasing -/

theorem delivers_read {item : Item} {destSize : Nat} {src : UInt64} {size : Nat} {clean : Bool}
    (at_ : src ∈ paramAddresses param)
    (member : event ∈ (readFromClient index item destSize src size mode clean).2) :
    Delivers mode index param event := by
  obtain ⟨length, _, rfl⟩ := mem_readFromClient member
  exact .read at_

theorem delivers_write {item : Item} {dest : UInt64} {destSize : Nat} {src : UInt64} {size : Nat}
    {clean : Bool} (at_ : dest ∈ paramAddresses param)
    (member : event ∈ (writeToClient index item dest destSize src size mode clean).2) :
    Delivers mode index param event := by
  obtain ⟨length, _, rfl⟩ := mem_writeToClient member
  exact .write at_

theorem size_mem_addresses : param.sizeAddress ∈ paramAddresses param := by
  simp [paramAddresses]

theorem buffer_mem_addresses : param.bufferAddress ∈ paramAddresses param := by
  simp [paramAddresses]

theorem a_mem_addresses : param.aAddress ∈ paramAddresses param := by
  simp [paramAddresses]

theorem b_mem_addresses : param.bAddress ∈ paramAddresses param := by
  simp [paramAddresses]

theorem updateTmpMem_delivers {slot : Slot} {isComplete : Bool}
    (member : event ∈ (updateTmpMem env mode index param slot isComplete).2) :
    Delivers mode index param event := by
  unfold updateTmpMem at member
  simp only at member
  split at member
  · exact delivers_write size_mem_addresses member
  split at member
  · exact delivers_write size_mem_addresses member
  split at member
  · exact delivers_write size_mem_addresses member
  rcases List.mem_append.mp member with sized | copied
  · exact delivers_write size_mem_addresses sized
  · exact delivers_write buffer_mem_addresses copied

theorem updateForRefMem_delivers {slot : Slot}
    (member : event ∈ (updateForRefMem env mode index param slot).2) :
    Delivers mode index param event := by
  have words (inside : event ∈
      (readWord index .size param.sizeAddress mode (env.exitSize index)).2 ++
        (writeWord index .size param.sizeAddress mode (env.sizeWrite index)).2) :
      Delivers mode index param event := by
    rcases List.mem_append.mp inside with read | wrote
    · exact delivers_read size_mem_addresses read
    · exact delivers_write size_mem_addresses wrote
  unfold updateForRefMem at member
  simp only at member
  split at member
  · exact delivers_read size_mem_addresses member
  split at member
  · exact words member
  cases shared : slot.sharemem with
  | none =>
      rw [shared] at member
      exact words member
  | some sharedMem =>
      rw [shared] at member
      simp only at member
      cases kind : sharedMem.memType with
      | reserved =>
          rw [kind] at member
          exact words member
      | vmalloc =>
          rw [kind] at member
          rcases List.mem_append.mp member with before | copied
          · exact words before
          · unfold copyToSharemem at copied
            split at copied
            · split at copied
              · cases copied
              · rw [List.mem_singleton.mp copied]
                exact .sharemem
            · cases copied

theorem updateForValue_delivers (member : event ∈ (updateForValue env mode index param).2) :
    Delivers mode index param event := by
  unfold updateForValue at member
  simp only at member
  split at member
  · exact delivers_write a_mem_addresses member
  rcases List.mem_append.mp member with wroteA | wroteB
  · exact delivers_write a_mem_addresses wroteA
  · exact delivers_write b_mem_addresses wroteB

theorem updateParam_delivers {slot : Slot} {isComplete : Bool}
    (member : event ∈ (updateParam env mode index param slot type isComplete).2) :
    Delivers mode index param event ∧ type ≠ .memrefTempInput := by
  constructor
  · unfold updateParam at member
    split at member
    · exact updateTmpMem_delivers member
    split at member
    · exact updateForRefMem_delivers member
    split at member
    · exact updateForValue_delivers member
    · cases member
  · intro same
    subst same
    cases isComplete <;> cases member

theorem freeParam_releases {slot : Slot} (member : event ∈ freeParam platform type slot) :
    Releases event := by
  have temp (inside : event ∈ freeTempBuffer platform slot) : Releases event := by
    unfold freeTempBuffer at inside
    split at inside
    · cases inside
    split at inside
    · cases inside
    · rw [List.mem_singleton.mp inside]
      exact .free
  have put (inside : event ∈ putSharememStruct slot.sharemem) : Releases event := by
    unfold putSharememStruct at inside
    split at inside
    · cases inside
    · rw [List.mem_singleton.mp inside]
      exact .put
  unfold freeParam at member
  split at member
  · exact temp member
  split at member
  · split at member
    · exact put member
    · rcases List.mem_append.mp member with shared | buffer
      · exact put shared
      · split at buffer
        · rw [List.mem_singleton.mp buffer]
          exact .free
        · cases buffer
  split at member
  · exact temp member
  · cases member

end Parameter

/-! ### The whole call -/

section Call

variable {platform : Platform} {env : CallEnv platform} {params : CallParams} {event : Event}

inductive OfCall (env : CallEnv platform) (params : CallParams) : Event → Prop where
  | prepares {index : Fin 4} {event : Event} (some_ : params.context.paramTypes ≠ 0)
      (prepared : Prepares (params.kernelParams index) index (params.context.params index)
        (params.paramType index) ((env.entrySize index).getD 0).toNat event) :
      OfCall env params event
  | delivers {index : Fin 4} {event : Event} (some_ : params.context.paramTypes ≠ 0)
      (output : params.paramType index ≠ .memrefTempInput)
      (delivered : Delivers (apiMode params.dev.kernelApi) index (params.context.params index)
        event) : OfCall env params event
  | releases {event : Event} (released : Releases event) : OfCall env params event
  | kzalloc : OfCall env params .kzallocSmcCmd
  | kfree : OfCall env params .kfreeSmcCmd
  | pack {ptr : UInt64} {length : Nat} : OfCall env params (.mailboxAlloc ptr length)

theorem allocLoop_ofCall (some_ : params.context.paramTypes ≠ 0) {indices : List (Fin 4)}
    {slots : Fin 4 → Slot} (member : event ∈ (allocLoop env params indices slots).events) :
    OfCall env params event := by
  induction indices generalizing slots with
  | nil => cases member
  | cons index rest ih =>
      by_cases accepted : (allocStep env params slots index).ret = 0
      · rw [allocLoop_cons_ok accepted] at member
        rcases List.mem_append.mp member with here | later
        · exact .prepares some_ (allocParam_prepares here)
        · exact ih later
      · rw [allocLoop_cons_error accepted] at member
        exact .prepares some_ (allocParam_prepares member)

theorem freeOperation_ofCall {slots : Fin 4 → Slot}
    (member : event ∈ freeOperation platform params slots) : OfCall env params event := by
  obtain ⟨index, _, here⟩ := List.mem_flatMap.mp member
  exact .releases (freeParam_releases here)

theorem allocOperation_ofCall (some_ : params.context.paramTypes ≠ 0)
    (member : event ∈ (allocOperation env params).events) : OfCall env params event := by
  unfold allocOperation at member
  simp only at member
  split at member
  · rcases List.mem_append.mp member with loop | freed
    · exact allocLoop_ofCall some_ loop
    · exact freeOperation_ofCall freed
  · exact allocLoop_ofCall some_ member

theorem updateLoop_ofCall (some_ : params.context.paramTypes ≠ 0) {slots : Fin 4 → Slot}
    {isComplete : Bool} {indices : List (Fin 4)}
    (member : event ∈ (updateLoop env params slots isComplete indices).2) :
    OfCall env params event := by
  induction indices with
  | nil => cases member
  | cons index rest ih =>
      have here (inside : event ∈ (updateParam env (apiMode params.dev.kernelApi) index
          (params.context.params index) (slots index) (params.paramType index) isComplete).2) :
          OfCall env params event :=
        .delivers some_ (updateParam_delivers inside).2 (updateParam_delivers inside).1
      rw [updateLoop] at member
      simp only at member
      split at member
      · exact here member
      · rcases List.mem_append.mp member with first | later
        · exact here first
        · exact ih later

theorem updateClientOperation_ofCall {slots : Fin 4 → Slot} {opInited isComplete : Bool}
    (member : event ∈ (updateClientOperation env params slots opInited isComplete).2) :
    OfCall env params event := by
  unfold updateClientOperation at member
  split at member
  · cases member
  split at member
  · cases member
  · next some_ => exact updateLoop_ofCall some_ member

theorem postProcSmcReturn_ofCall {slots : Fin 4 → Slot} {opInited : Bool} {teeRet : UInt32}
    (member : event ∈ (postProcSmcReturn env params slots opInited teeRet).2) :
    OfCall env params event := by
  unfold postProcSmcReturn at member
  split at member
  · simp only at member
    split at member
    · exact updateClientOperation_ofCall member
    · cases member
  · exact updateClientOperation_ofCall member

/-! ### The answers of the TEE -/

def Event.answer : Event → Option SmcReply
  | .smc answer => some answer
  | _ => none

def answers (events : List Event) : List SmcReply :=
  events.filterMap Event.answer

theorem OfCall.answer_eq_none (part : OfCall env params event) : event.answer = none := by
  cases part with
  | prepares some_ prepared => cases prepared <;> rfl
  | delivers some_ output delivered => cases delivered <;> rfl
  | releases released => cases released <;> rfl
  | kzalloc => rfl
  | kfree => rfl
  | pack => rfl

theorem answers_eq_nil {events : List Event} (parts : ∀ event ∈ events, OfCall env params event) :
    answers events = [] :=
  List.filterMap_eq_nil_iff.mpr fun event member => (parts event member).answer_eq_none

@[simp] theorem answers_append (first second : List Event) :
    answers (first ++ second) = answers first ++ answers second :=
  List.filterMap_append

@[simp] theorem answers_smc (answer : SmcReply) (rest : List Event) :
    answers (.smc answer :: rest) = answer :: answers rest :=
  rfl

/-- Every answer but the last one of a call is pending. -/
theorem handleTaPending_answers {sess : SessionPtr} {reply : SmcReply} {later : List SmcReply}
    {final : SmcReply × List Event} (ended : handleTaPending sess reply later = some final) :
    final.1.ret ≠ teecPending ∧
      ∃ waits : List SmcReply, (∀ wait ∈ waits, wait.ret = teecPending) ∧
        reply :: answers final.2 = waits ++ [final.1] := by
  have ends := PendingEnds.of_eq_some ended
  clear ended
  induction ends with
  | finished final => exact ⟨final, [], by simp, rfl⟩
  | @resent reply next later final pending woken ends ih =>
      obtain ⟨finished, waits, waiting, order⟩ := ih
      refine ⟨finished, reply :: waits, List.forall_mem_cons.mpr ⟨pending, waiting⟩, ?_⟩
      change reply :: next :: answers final.2 = _
      rw [order]
      rfl

theorem handleTaPending_events {sess : SessionPtr} {reply : SmcReply} {later : List SmcReply}
    {final : SmcReply × List Event} (ended : handleTaPending sess reply later = some final)
    (member : event ∈ final.2) : ∃ answer, event = .smc answer := by
  have ends := PendingEnds.of_eq_some ended
  clear ended
  induction ends with
  | finished final => cases member
  | @resent reply next later final pending woken ends ih =>
      rcases List.mem_cons.mp member with here | later
      · exact ⟨next, here⟩
      · exact ih later

/-- The wait of an open has no end. -/
theorem handleTaPending_opening (reply : SmcReply) (later : List SmcReply) :
    handleTaPending .opening reply later =
      if reply.ret = teecPending then none else some (reply, []) := by
  unfold handleTaPending
  by_cases pending : reply.ret = teecPending
  · rw [if_neg (not_not_intro pending), if_pos pending]
    rfl
  · rw [if_pos pending, if_neg pending]

/-! ### How a call ends -/

def Ready (env : CallEnv platform) (params : CallParams) (slots : Fin 4 → Slot)
    (opInited : Bool) : Prop :=
  (opInited = false ∧ params.context.paramTypes = 0) ∨
    (opInited = true ∧ params.context.paramTypes ≠ 0 ∧ (allocOperation env params).ret = 0 ∧
      slots = (allocOperation env params).slots)

/-- A call changes the session id and the return codes of its context only. -/
def SameRequest (before after : ClientContext) : Prop :=
  ∃ sessionId code origin,
    after = { before with sessionId := sessionId, returnsCode := code, returnsOrigin := origin }

inductive Ends (env : CallEnv platform) (params : CallParams) (result : CallResult) : Prop where
  | unsent (failed : result.ret ≠ 0) (context : SameRequest params.context result.context)
      (events : ∀ event ∈ result.events, OfCall env params event)
  | answered {slots : Fin 4 → Slot} {opInited : Bool} {final : SmcReply × List Event}
      (ready : Ready env params slots opInited)
      (ended : handleTaPending params.sess env.reply env.laterReplies = some final)
      (ret : result.ret = (postProcSmcReturn env params slots opInited final.1.ret).1)
      (context : SameRequest params.context result.context)
      (sessionId : result.context.sessionId = resetSessionId params env.reply)
      (heard : answers result.events = env.reply :: answers final.2)
      (events : ∀ event ∈ result.events,
        OfCall env params event ∨ ∃ answer, event = .smc answer)

theorem finishCall_ofCall {pack : MailboxPtr platform} {slots : Fin 4 → Slot} {opInited : Bool}
    (member : event ∈ (if opInited then freeOperation platform params slots else []) ++
      [.kfreeSmcCmd, .mailboxFree pack.addr]) : OfCall env params event := by
  rcases List.mem_append.mp member with freed | last
  · split at freed
    · exact freeOperation_ofCall freed
    · cases freed
  · rcases List.mem_cons.mp last with rfl | packed
    · exact .kfree
    · rw [List.mem_singleton.mp packed]
      exact .releases .free

theorem finishCall_ends_unsent {pack : MailboxPtr platform} {slots : Fin 4 → Slot}
    {opInited : Bool} {cmd : SmcCmd} {ret : Int} {events : List Event} (failed : ret ≠ 0)
    (parts : ∀ event ∈ events, OfCall env params event) :
    Ends env params
      (finishCall params pack slots opInited params.context cmd 0 ret events) := by
  refine .unsent failed ⟨_, _, _, rfl⟩ ?_
  intro event member
  rcases List.mem_append.mp member with before | after
  · exact parts event before
  · exact finishCall_ofCall after

theorem configSmcCmdContext_ret (env : CallEnv platform) (params : CallParams) (mbPack : UInt64)
    (cmd : SmcCmd) :
    (configSmcCmdContext env params mbPack cmd).1 = 0 ∨
      (configSmcCmdContext env params mbPack cmd).1 = -eFault := by
  unfold configSmcCmdContext
  split
  · exact Or.inr rfl
  unfold checkLoginForEncrypt
  split
  · split
    · exact Or.inr rfl
    · exact Or.inl rfl
  · exact Or.inl rfl

theorem configSmcCmdContext_of_not_open (apart : env.uuidOverlap = false)
    (other : params.context.cmdId ≠ globalCmdIdOpenSession) (mbPack : UInt64) (cmd : SmcCmd) :
    (configSmcCmdContext env params mbPack cmd).1 = 0 := by
  have otherCmd : ((initSmcCmd env params mbPack cmd).cmdId == globalCmdIdOpenSession) = false :=
    beq_eq_false_iff_ne.mpr other
  have unchecked : needCheckLogin env params (initSmcCmd env params mbPack cmd) = false := by
    unfold needCheckLogin
    rw [otherCmd, Bool.and_false, Bool.false_and, Bool.false_and]
  unfold configSmcCmdContext
  rw [apart, if_neg (by decide), checkLoginForEncrypt, unchecked]
  rfl

/-- Once the command is set up the TEE hears of the call. -/
theorem sendCall_answered {pack : MailboxPtr platform} {slots : Fin 4 → Slot} {opInited : Bool}
    {cmd : SmcCmd} {events : List Event} {result : CallResult}
    (parts : ∀ event ∈ events, OfCall env params event)
    (configured : (configSmcCmdContext env params pack.addr cmd).1 = 0)
    (returned : sendCall env params pack slots opInited cmd events = some result) :
    ∃ final, handleTaPending params.sess env.reply env.laterReplies = some final ∧
      result.ret = (postProcSmcReturn env params slots opInited final.1.ret).1 ∧
      SameRequest params.context result.context ∧
      result.context.sessionId = resetSessionId params env.reply ∧
      answers result.events = env.reply :: answers final.2 ∧
      ∀ event ∈ result.events, OfCall env params event ∨ ∃ answer, event = .smc answer := by
  unfold sendCall at returned
  simp only [configured, ne_eq, not_true_eq_false, if_false] at returned
  cases ended : handleTaPending params.sess env.reply env.laterReplies with
  | none =>
      rw [ended] at returned
      cases returned
  | some final =>
      rw [ended] at returned
      rw [← Option.some.inj returned]
      have tail : ∀ event ∈ (if opInited then freeOperation platform params slots else []) ++
          [.kfreeSmcCmd, .mailboxFree pack.addr], OfCall env params event :=
        fun _ member => finishCall_ofCall member
      have post : ∀ event ∈ (postProcSmcReturn env params slots opInited final.1.ret).2,
          OfCall env params event := fun _ member => postProcSmcReturn_ofCall member
      refine ⟨final, rfl, rfl, ⟨_, _, _, rfl⟩, rfl, ?_, ?_⟩
      · change answers ((events ++ .smc env.reply :: (final.2 ++ _)) ++ _) = _
        rw [answers_append, answers_append, answers_smc, answers_append, answers_eq_nil parts,
          answers_eq_nil post, answers_eq_nil tail, List.append_nil, List.append_nil,
          List.nil_append]
      · intro event member
        rcases List.mem_append.mp member with before | after
        · rcases List.mem_append.mp before with earlier | sent
          · exact Or.inl (parts event earlier)
          rcases List.mem_cons.mp sent with here | later
          · exact Or.inr ⟨_, here⟩
          rcases List.mem_append.mp later with resent | copied
          · exact Or.inr (handleTaPending_events ended resent)
          · exact Or.inl (post event copied)
        · exact Or.inl (tail event after)

theorem sendCall_ends {pack : MailboxPtr platform} {slots : Fin 4 → Slot} {opInited : Bool}
    {cmd : SmcCmd} {events : List Event} {result : CallResult}
    (ready : Ready env params slots opInited)
    (parts : ∀ event ∈ events, OfCall env params event)
    (returned : sendCall env params pack slots opInited cmd events = some result) :
    Ends env params result := by
  rcases configSmcCmdContext_ret env params pack.addr cmd with configured | failed
  · obtain ⟨final, ended, ret, context, sessionId, heard, all⟩ :=
      sendCall_answered parts configured returned
    exact .answered ready ended ret context sessionId heard all
  · have refused : (configSmcCmdContext env params pack.addr cmd).1 ≠ 0 := by
      rw [failed]
      decide
    rw [sendCall] at returned
    simp only [refused, ne_eq, not_false_eq_true, if_true] at returned
    rw [← Option.some.inj returned]
    exact finishCall_ends_unsent refused parts

theorem taken_ofCall {pack : MailboxPtr platform}
    (member : event ∈ [Event.kzallocSmcCmd, .mailboxAlloc pack.addr 4096]) :
    OfCall env params event := by
  rcases List.mem_cons.mp member with rfl | packed
  · exact .kzalloc
  · rw [List.mem_singleton.mp packed]
    exact .pack

theorem tcClientCall_ends {result : CallResult} (returned : tcClientCall env params = some result) :
    Ends env params result := by
  unfold tcClientCall at returned
  split at returned
  · rw [← Option.some.inj returned]
    refine .unsent (show (-eNoMem : Int) ≠ 0 by decide) ⟨_, _, _, rfl⟩ ?_
    intro event member
    cases member
  cases given : env.cmdPack with
  | none =>
      rw [given] at returned
      rw [← Option.some.inj returned]
      refine .unsent (show (-eNoMem : Int) ≠ 0 by decide) ⟨_, _, _, rfl⟩ ?_
      intro event member
      rcases List.mem_cons.mp member with rfl | freed
      · exact .kzalloc
      · rw [List.mem_singleton.mp freed]
        exact .kfree
  | some pack =>
      rw [given] at returned
      simp only at returned
      split at returned
      · next noParams =>
          exact sendCall_ends (Or.inl ⟨rfl, noParams⟩) (fun _ member => taken_ofCall member) returned
      · next someParams =>
          have parts : ∀ event ∈ [Event.kzallocSmcCmd, .mailboxAlloc pack.addr 4096] ++
              (allocOperation env params).events, OfCall env params event := by
            intro event member
            rcases List.mem_append.mp member with first | prepared
            · exact taken_ofCall first
            · exact allocOperation_ofCall someParams prepared
          split at returned
          · next refused =>
              rw [← Option.some.inj returned]
              exact finishCall_ends_unsent refused parts
          · next accepted =>
              exact sendCall_ends (Or.inr ⟨rfl, someParams, not_not.mp accepted, rfl⟩) parts returned

end Call

end TzDriver.Client
