/-
Which addresses the session ioctls of a user-mode client reach, and how.

The driver reads its own login fields by address, in the same loop that reads the
client's parameters.  The access mode there follows the index of the parameter,
so every access of a call is classified by its mode first.
-/

import TzDriver.Login.Threads
import TzDriver.Session.Agreement

namespace TzDriver.Session

open TzDriver.Client TzDriver.Lib

/-- A dev_file of a user-mode client.  The login keeps both lengths below the
sizes of their fields. -/
structure UserFile where
  file : DevFile
  userMode : file.kernelApi = 0
  nameFits : file.pkgNameLen < maxPackageNameLen
  keyFits : file.pubKeyLen ≤ maxPubkeyLen

/-- Whatever the logins and opens of user-mode clients do to a dev_file, it stays
such a file. -/
theorem UserFile.of_logins {state : Login.State} {base : DevFile} (userMode : base.kernelApi = 0)
    (reached : (Login.loginMachine.restrict Login.NoKernelCa).Reachable state) :
    ∃ user : UserFile, user.file =
      { base with
        pkgNameLen := state.shared.fields.pkgNameLen
        pubKeyLen := state.shared.fields.pubKeyLen } := by
  have bounded := Login.State.Bounded.of_reachable
    (reached.restrict_mono fun _ _ => Login.NoKernelCa.nameFits)
  refine ⟨⟨{ base with
    pkgNameLen := state.shared.fields.pkgNameLen
    pubKeyLen := state.shared.fields.pubKeyLen }, ?_, ?_, ?_⟩, rfl⟩
  · exact userMode
  · exact bounded.fit.name
  · exact bounded.fit.key

/-- An area inside `pkg_name`, `pub_key` or one of their lengths. -/
inductive LoginField (file : DevFile) : UInt64 → Nat → Prop where
  | nameLength {length : Nat} (inside : length ≤ 4) : LoginField file file.pkgNameLenAddr length
  | name {length : Nat} (inside : length ≤ maxPackageNameLen.toNat) :
      LoginField file file.pkgNameAddr length
  | keyLength {length : Nat} (inside : length ≤ 4) : LoginField file file.pubKeyLenAddr length
  | key {length : Nat} (inside : length ≤ maxPubkeyLen.toNat) :
      LoginField file file.pubKeyAddr length

/-- An address that came with the ioctl. -/
inductive ClientAddress (argp : UInt64) (given : Option ClientContext) : UInt64 → Prop where
  | argument : ClientAddress argp given argp
  | param {context : ClientContext} {index : Fin 4} {addr : UInt64}
      (sent : given = some context) (at_ : addr ∈ paramAddresses (context.params index)) :
      ClientAddress argp given addr
  | image {context : ClientContext} {offset : Nat} {addr : UInt64} (sent : given = some context)
      (inside : offset < context.fileSize.toNat)
      (at_ : addr = joinAddr context.fileAddr context.fileHAddr + UInt64.ofNat offset) :
      ClientAddress argp given addr

/-- Kernel accesses stay in the login fields, the client's addresses are reached
by the user-copy functions. -/
def Disciplined (file : DevFile) (argp : UInt64) (given : Option ClientContext)
    (access : Access) : Prop :=
  (access.via = .memcpy ∧ LoginField file access.addr access.length) ∨
    (access.via ≠ .memcpy ∧ ClientAddress argp given access.addr)

/-- What an open leaves of the client's context: apart from words of 32 bits
outside the parameters everything is the client's own, and the references of
parameters 2 and 3 are zero. -/
def ClearedOf (given copied : ClientContext) : Prop :=
  ∃ sessionId cmdId code origin types,
    copied =
      { clearContextParam given with
        sessionId := sessionId, cmdId := cmdId, returnsCode := code, returnsOrigin := origin
        paramTypes := types }

theorem Disciplined.of_origin {file : DevFile} {argp : UInt64} {given : ClientContext}
    {origin : UInt32} {access : Access}
    (kept : Disciplined file argp (some { given with returnsOrigin := origin }) access) :
    Disciplined file argp (some given) access := by
  rcases kept with own | ⟨via, address⟩
  · exact Or.inl own
  · refine Or.inr ⟨via, ?_⟩
    cases address with
    | argument => exact .argument
    | param sent at_ =>
        cases sent
        exact .param rfl at_
    | image sent inside at_ =>
        cases sent
        exact .image rfl inside at_

/-! ### The image -/

section Image

variable {env : LoadEnv} {file : DevFile} {access : Access}

theorem lastFrame_starts {fileSize frameSize : Nat} (frame : 0 < frameSize)
    (more : 0 < fileSize / frameSize + if fileSize % frameSize ≠ 0 then 1 else 0) :
    (fileSize / frameSize + (if fileSize % frameSize ≠ 0 then 1 else 0) - 1) * frameSize <
      fileSize := by
  have whole := Nat.div_add_mod' fileSize frameSize
  split at more
  · next rest =>
      rw [if_pos rest, Nat.add_sub_cancel]
      omega
  · next even =>
      rw [if_neg even, Nat.add_zero, Nat.sub_mul, Nat.one_mul]
      have full : frameSize ≤ fileSize / frameSize * frameSize :=
        Nat.le_mul_of_pos_left frameSize more
      omega

/-- With `remaining` frames to send, all but the last one are full and the last
one starts inside the file. -/
theorem loadImageByFrame_reads (userMode : file.kernelApi ≠ 1) {fileBuffer : UInt64}
    {fileSize mbLoadSize remaining index loadedSize : Nat}
    (inside : 0 < remaining → (remaining - 1) * (mbLoadSize - loadFlagSize) + loadedSize < fileSize)
    (made : access ∈ (loadImageByFrame env file fileBuffer fileSize mbLoadSize remaining index
      loadedSize).accesses) :
    ∃ offset < fileSize,
      access.via = .copyFromUser ∧ access.addr = fileBuffer + UInt64.ofNat offset := by
  induction remaining generalizing index loadedSize with
  | zero => cases made
  | succ remaining ih =>
      have starts : remaining * (mbLoadSize - loadFlagSize) + loadedSize < fileSize :=
        inside (Nat.succ_pos _)
      have copied (loadSize : Nat) (here : access ∈ (loadImageCopyFile env file fileBuffer
          mbLoadSize loadSize index loadedSize).2) :
          ∃ offset < fileSize,
            access.via = .copyFromUser ∧ access.addr = fileBuffer + UInt64.ofNat offset := by
        unfold loadImageCopyFile at here
        rw [if_neg userMode] at here
        rw [List.mem_singleton.mp here]
        exact ⟨loadedSize, by omega, rfl, rfl⟩
      rw [loadImageByFrame] at made
      simp only at made
      generalize sized : (if remaining = 0 then fileSize - loadedSize
        else mbLoadSize - loadFlagSize) = loadSize at made
      split at made
      · cases made
      split at made
      · exact copied _ made
      split at made
      · exact copied _ made
      obtain here | later := List.mem_append.mp made
      · exact copied _ here
      · refine ih ?_ later
        intro more
        obtain ⟨fewer, rfl⟩ : ∃ fewer, remaining = fewer + 1 := ⟨remaining - 1, by omega⟩
        rw [if_neg (Nat.succ_ne_zero fewer)] at sized
        rw [Nat.succ_mul] at starts
        rw [Nat.add_sub_cancel, ← sized]
        omega

theorem loadImage_reads (userMode : file.kernelApi ≠ 1) {fileBuffer : UInt64} {fileSize : Nat}
    (made : access ∈ (loadImage env file fileBuffer fileSize).accesses) :
    ∃ offset < fileSize,
      access.via = .copyFromUser ∧ access.addr = fileBuffer + UInt64.ofNat offset := by
  unfold loadImage at made
  split at made
  · cases made
  split at made
  · cases made
  · next mbLoadSize _ large =>
      refine loadImageByFrame_reads userMode (fun more => ?_) made
      rw [Nat.add_zero]
      exact lastFrame_starts (by omega) more

theorem loadTaImage_reads (userMode : file.kernelApi ≠ 1) {context : ClientContext}
    (made : access ∈ (loadTaImage env file context).2.2) :
    ∃ offset < context.fileSize.toNat, access.via = .copyFromUser ∧
      access.addr = joinAddr context.fileAddr context.fileHAddr + UInt64.ofNat offset := by
  have load (inside : access ∈ (tcNsLoadImage env file
      (joinAddr context.fileAddr context.fileHAddr) context.fileSize).accesses) :
      ∃ offset < context.fileSize.toNat, access.via = .copyFromUser ∧
        access.addr = joinAddr context.fileAddr context.fileHAddr + UInt64.ofNat offset := by
    unfold tcNsLoadImage at inside
    split at inside
    · cases inside
    split at inside
    · cases inside
    · exact loadImage_reads userMode inside
  unfold loadTaImage at made
  simp only at made
  split at made
  · cases made
  split at made
  · cases made
  split at made
  · exact load made
  split at made
  · exact load made
  · exact load made

end Image

/-! ### One TEE call -/

section Call

variable {platform : Platform} {env : CallEnv platform} {params : CallParams} {access : Access}

/-- An access of a user-mode client's call.  Parameters that are marked as the
driver's own are read by `memcpy`, everything else by the user-copy functions. -/
inductive CallAccess (env : CallEnv platform) (params : CallParams) : Access → Prop where
  | client {index : Fin 4} {access : Access} (via : access.via ≠ .memcpy)
      (mode : params.kernelParams index = .user ∨ params.paramType index ≠ .memrefTempInput)
      (at_ : access.addr ∈ paramAddresses (params.context.params index)) :
      CallAccess env params access
  | size {index : Fin 4} {length : Nat} (mode : params.kernelParams index = .kernel)
      (inside : length ≤ 4) :
      CallAccess env params ⟨.memcpy, (params.context.params index).sizeAddress, length⟩
  | buffer {index : Fin 4} {length : Nat} (mode : params.kernelParams index = .kernel)
      (inside : length ≤ ((env.entrySize index).getD 0).toNat) :
      CallAccess env params ⟨.memcpy, (params.context.params index).bufferAddress, length⟩
  | value {index : Fin 4} {access : Access} (mode : params.kernelParams index = .kernel)
      (kind : teecValueType (params.paramType index) .inout = true) :
      CallAccess env params access

theorem callAccess_of_ofCall {event : Event} (userMode : params.dev.kernelApi = 0)
    (part : OfCall env params event) (made : eventAccess event = some access) :
    CallAccess env params access := by
  cases part with
  | @prepares index _ some_ prepared =>
      cases mode : params.kernelParams index with
      | user =>
          rw [mode] at prepared
          cases prepared with
          | size short =>
              cases made
              exact .client (show Via.copyFromUser ≠ .memcpy by decide) (Or.inl mode) size_mem_addresses
          | buffer inside =>
              cases made
              exact .client (show Via.copyFromUser ≠ .memcpy by decide) (Or.inl mode) buffer_mem_addresses
          | value kind at_ =>
              cases made
              exact .client (show Via.copyFromUser ≠ .memcpy by decide) (Or.inl mode) at_
          | alloc => cases made
          | free => cases made
          | share => cases made
      | kernel =>
          rw [mode] at prepared
          cases prepared with
          | size short =>
              cases made
              exact .size mode short
          | buffer inside =>
              cases made
              exact .buffer mode inside
          | value kind at_ => exact .value mode kind
          | alloc => cases made
          | free => cases made
          | share => cases made
  | @delivers index _ some_ output delivered =>
      rw [userMode] at delivered
      cases delivered with
      | read at_ =>
          cases made
          exact .client (show Via.copyFromUser ≠ .memcpy by decide) (Or.inr output) at_
      | write at_ =>
          cases made
          exact .client (show Via.copyToUser ≠ .memcpy by decide) (Or.inr output) at_
      | sharemem => cases made
  | releases released =>
      cases released with
      | free => cases made
      | put => cases made
  | kzalloc => cases made
  | kfree => cases made
  | pack => cases made

theorem tcClientCall_accesses {result : CallResult} (userMode : params.dev.kernelApi = 0)
    (returned : tcClientCall env params = some result)
    (made : access ∈ callAccesses result.events) :
    params.context.paramTypes ≠ 0 ∧ CallAccess env params access := by
  obtain ⟨event, member, is⟩ := List.mem_filterMap.mp made
  have part : OfCall env params event := by
    cases tcClientCall_ends returned with
    | unsent failed context events => exact events event member
    | answered ready ended ret context sessionId heard events =>
        obtain part | ⟨answer, rfl⟩ := events event member
        · exact part
        · cases is
  refine ⟨?_, callAccess_of_ofCall userMode part is⟩
  cases part with
  | prepares some_ prepared => exact some_
  | delivers some_ output delivered => exact some_
  | releases released => cases released <;> cases is
  | kzalloc => cases is
  | kfree => cases is
  | pack => cases is

/-- Without the login flag every access of a user-mode client's call is a user
copy. -/
theorem CallAccess.of_no_login (accessed : CallAccess env params access)
    (userMode : params.dev.kernelApi = 0) (plain : params.flags &&& tcCallLogin = 0) :
    access.via ≠ .memcpy ∧
      ∃ index, access.addr ∈ paramAddresses (params.context.params index) := by
  have mode (index : Fin 4) : params.kernelParams index = .user := by
    unfold CallParams.kernelParams
    rw [if_neg (fun both => both.1 plain), userMode]
    rfl
  cases accessed with
  | client via _ at_ => exact ⟨via, _, at_⟩
  | size kernel =>
      rw [mode] at kernel
      cases kernel
  | buffer kernel =>
      rw [mode] at kernel
      cases kernel
  | value kernel =>
      rw [mode] at kernel
      cases kernel

end Call

/-! ### The session calls -/

section Calls

variable {platform : Platform} {Dev : Type} [DecidableEq Dev] {env : IoctlEnv platform}
  {tables : Tables Dev} {dev : Dev} {argp : UInt64} {context : ClientContext}
  {outcome : Outcome Dev} {access : Access}

theorem Disciplined.of_image {file : DevFile} {given : ClientContext}
    (read : ∃ offset < given.fileSize.toNat, access.via = .copyFromUser ∧
      access.addr = joinAddr given.fileAddr given.fileHAddr + UInt64.ofNat offset) :
    Disciplined file argp (some given) access := by
  obtain ⟨offset, inside, via, addr⟩ := read
  refine Or.inr ⟨?_, ?_⟩
  · rw [via]
    decide
  · exact .image rfl inside addr

theorem login_param {file keyed : DevFile} (kind : keyed = file ∨ keyed = setLoginInformationUid file)
    (index : Fin 4) :
    (index.val < 2 → (placeKey keyed (placeName file context)).params index =
        context.params index) ∧
      (2 ≤ index.val →
        (((placeKey keyed (placeName file context)).params index).sizeAddress =
            file.pubKeyLenAddr ∧
          ((placeKey keyed (placeName file context)).params index).bufferAddress =
            file.pubKeyAddr ∧ index = 2) ∨
        (((placeKey keyed (placeName file context)).params index).sizeAddress =
            file.pkgNameLenAddr ∧
          ((placeKey keyed (placeName file context)).params index).bufferAddress =
            file.pkgNameAddr ∧ index = 3)) := by
  have lenAddr : keyed.pubKeyLenAddr = file.pubKeyLenAddr := by
    obtain rfl | rfl := kind <;> rfl
  have keyAddr : keyed.pubKeyAddr = file.pubKeyAddr := by
    obtain rfl | rfl := kind <;> rfl
  constructor
  · intro own
    have notKey : index ≠ 2 := fun same => absurd own (by rw [same]; decide)
    have notName : index ≠ 3 := fun same => absurd own (by rw [same]; decide)
    rw [placeKey_params, Function.update_of_ne notKey, placeName_params,
      Function.update_of_ne notName]
  · intro driver
    obtain rfl | rfl : index = 2 ∨ index = 3 := by
      revert index
      decide
    · have at2 : (placeKey keyed (placeName file context)).params 2 =
          pointParam ((placeName file context).params 2) keyed.pubKeyLenAddr keyed.pubKeyAddr := by
        rw [placeKey_params, Function.update_self]
      rw [at2, pointParam_sizeAddress, pointParam_bufferAddress]
      exact Or.inl ⟨lenAddr, keyAddr, rfl⟩
    · have at3 : (placeKey keyed (placeName file context)).params 3 =
          pointParam (context.params 3) file.pkgNameLenAddr file.pkgNameAddr := by
        rw [placeKey_params, Function.update_of_ne (by decide), placeName_params,
          Function.update_self]
      rw [at3, pointParam_sizeAddress, pointParam_bufferAddress]
      exact Or.inr ⟨rfl, rfl, rfl⟩

theorem CallAccess.of_login (user : UserFile) {keyed : DevFile} {placed : ClientContext}
    {flags : UInt8} {call : CallEnv platform}
    (kind : keyed = user.file ∨ keyed = setLoginInformationUid user.file)
    (params : placed.params = (placeKey keyed (placeName user.file context)).params)
    (types : placed.paramTypes = loginTypes context.paramTypes)
    (login : flags &&& tcCallLogin ≠ 0)
    (accessed : CallAccess (loginCallEnv call keyed) ⟨keyed, placed, .opening, flags⟩ access) :
    Disciplined user.file argp (some context) access := by
  have userMode : apiMode keyed.kernelApi = .user := by
    rcases kind with rfl | rfl
    · rw [user.userMode]
      rfl
    · change apiMode user.file.kernelApi = _
      rw [user.userMode]
      rfl
  have keyFits : keyed.pubKeyLen.toNat ≤ maxPubkeyLen.toNat := by
    rcases kind with rfl | rfl
    · exact UInt32.le_iff_toNat_le.mp user.keyFits
    · exact show (4 : UInt32).toNat ≤ _ by decide
  have nameFits : keyed.pkgNameLen.toNat ≤ maxPackageNameLen.toNat := by
    have bound := UInt32.lt_iff_toNat_lt.mp user.nameFits
    rcases kind with rfl | rfl
    · omega
    · change user.file.pkgNameLen.toNat ≤ _
      omega
  have driverOwn {index : Fin 4}
      (mode : CallParams.kernelParams ⟨keyed, placed, .opening, flags⟩ index = .kernel) :
      2 ≤ index.val := by
    by_contra own
    unfold CallParams.kernelParams at mode
    rw [if_neg (fun both => own both.2)] at mode
    change apiMode keyed.kernelApi = _ at mode
    rw [userMode] at mode
    cases mode
  have driverType {index : Fin 4} (own : 2 ≤ index.val) :
      CallParams.paramType ⟨keyed, placed, .opening, flags⟩ index = .memrefTempInput := by
    change teecParamTypeGet placed.paramTypes index = _
    rw [types]
    exact teecParamTypeGet_loginTypes _ own
  cases accessed with
  | @client index _ via mode at_ =>
      have own : index.val < 2 := by
        by_contra above
        have driver : 2 ≤ index.val := by omega
        rcases mode with userSide | output
        · unfold CallParams.kernelParams at userSide
          rw [if_pos ⟨login, driver⟩] at userSide
          cases userSide
        · exact output (driverType driver)
      change access.addr ∈ paramAddresses (placed.params index) at at_
      rw [params, (login_param kind index).1 own] at at_
      exact Or.inr ⟨via, .param rfl at_⟩
  | @size index length mode inside =>
      refine Or.inl ⟨rfl, ?_⟩
      change LoginField user.file (placed.params index).sizeAddress length
      rw [params]
      rcases (login_param kind index).2 (driverOwn mode) with ⟨size, _, _⟩ | ⟨size, _, _⟩
      · rw [size]
        exact .keyLength inside
      · rw [size]
        exact .nameLength inside
  | @buffer index length mode inside =>
      refine Or.inl ⟨rfl, ?_⟩
      change LoginField user.file (placed.params index).bufferAddress length
      rw [params]
      rcases (login_param kind index).2 (driverOwn mode) with ⟨_, buffer, rfl⟩ | ⟨_, buffer, rfl⟩
      · rw [buffer]
        exact .key (Nat.le_trans inside keyFits)
      · rw [buffer]
        exact .name (Nat.le_trans inside nameFits)
  | @value index _ mode kind =>
      rw [driverType (driverOwn mode)] at kind
      cases kind

theorem checkLoginMethod_accesses {file : DevFile} {flags : UInt8}
    (made : access ∈ (checkLoginMethod env.login file context flags).accesses) :
    access.via = .getUser ∧ ∃ index, access.addr = (context.params index).sizeAddress := by
  have valid (inside : access ∈ (userParamsValid env.login file context).2) :
      access.via = .getUser ∧ ∃ index, access.addr = (context.params index).sizeAddress := by
    have single {index : Fin 4} (here : access ∈ (tcUserParamValid env.login context index).2) :
        access.via = .getUser ∧ ∃ index, access.addr = (context.params index).sizeAddress := by
      rw [tcUserParamValid_accesses env.login context index here]
      exact ⟨rfl, index, rfl⟩
    unfold userParamsValid at inside
    split at inside
    · cases inside
    simp only at inside
    split at inside
    · exact single inside
    · rcases List.mem_append.mp inside with first | second
      · exact single first
      · exact single second
  unfold checkLoginMethod at made
  split at made
  · cases made
  split at made
  · cases made
  simp only at made
  split at made
  · exact valid made
  · exact valid made

/-- The context of an open once both login parameters are placed. -/
def placedContext (file keyed : DevFile) (context : ClientContext) (cmdId : UInt32) :
    ClientContext :=
  { placeKey keyed (placeName file context) with cmdId := cmdId }

theorem openWithService_accesses (user : UserFile) {keyed : DevFile}
    (kind : keyed = user.file ∨ keyed = setLoginInformationUid user.file) {cmdId : UInt32}
    {flags : UInt8} (login : flags &&& tcCallLogin ≠ 0) {service : Nat}
    (returned : openWithService env tables dev keyed (placedContext user.file keyed context cmdId)
      service flags = some outcome)
    (made : access ∈ outcome.accesses) :
    Disciplined user.file argp (some context) access := by
  have userMode : keyed.kernelApi = 0 := by
    rcases kind with rfl | rfl
    · exact user.userMode
    · exact user.userMode
  have notKernel : keyed.kernelApi ≠ 1 := by
    rw [userMode]
    decide
  have image (here : access ∈
      (loadTaImage env.load keyed (placedContext user.file keyed context cmdId)).2.2) :
      Disciplined user.file argp (some context) access := by
    obtain ⟨offset, inside, via, addr⟩ := loadTaImage_reads notKernel here
    exact .of_image ⟨offset, inside, via, addr⟩
  have opened {result : Outcome Dev}
      (ran : procOpenSession env tables dev keyed (placedContext user.file keyed context cmdId)
        service flags = some result) (here : access ∈ result.accesses) :
      Disciplined user.file argp (some context) access := by
    unfold procOpenSession at ran
    simp only at ran
    split at ran
    · cases ran
      exact image here
    · obtain ⟨call, called, finished⟩ := Option.map_eq_some_iff.mp ran
      subst finished
      rcases List.mem_append.mp here with loaded | inCall
      · exact image loaded
      · obtain ⟨sessionId, code, origin, same⟩ :=
          loadTaImage_context env.load keyed (placedContext user.file keyed context cmdId)
        rw [same] at called
        have accessed := (tcClientCall_accesses userMode called inCall).2
        refine accessed.of_login user kind ?_ ?_ login
        · rfl
        · rfl
  unfold openWithService at returned
  split at returned
  · cases returned
    cases made
  split at returned
  · cases returned
    cases made
  · obtain ⟨result, ran, same⟩ := Option.map_eq_some_iff.mp returned
    subst same
    split at made
    · exact opened ran made
    · exact opened ran made

theorem tcNsOpenSession_accesses (user : UserFile)
    (returned : tcNsOpenSession env tables dev user.file context = some outcome)
    (made : access ∈ outcome.accesses) :
    Disciplined user.file argp (some context) access := by
  have checked {flags : UInt8}
      (here : access ∈ (checkLoginMethod env.login user.file context flags).accesses) :
      Disciplined user.file argp (some context) access := by
    obtain ⟨via, index, addr⟩ := checkLoginMethod_accesses here
    have at_ : access.addr ∈ paramAddresses (context.params index) := by
      rw [addr]
      exact size_mem_addresses
    refine Or.inr ⟨?_, .param rfl at_⟩
    rw [via]
    decide
  obtain ⟨before, ran, cleared⟩ := Option.map_eq_some_iff.mp returned
  subst cleared
  change access ∈ before.accesses at made
  unfold openBeforeClear at ran
  simp only at ran
  split at ran
  · cases ran
    exact checked made
  next accepted =>
    obtain ⟨keyed, kind, file, placed, flags⟩ := checkLoginMethod_accepted (not_not.mp accepted)
    split at ran
    · cases ran
      exact checked made
    · obtain ⟨opened, ranOpen, same⟩ := Option.map_eq_some_iff.mp ran
      subst same
      rcases List.mem_append.mp made with here | rest
      · exact checked here
      · rw [file, placed, flags] at ranOpen
        exact openWithService_accesses user kind (by decide) ranOpen rest

/-! ### The context of an open -/

theorem clearContextParam_placeName (file : DevFile) (context : ClientContext) :
    clearContextParam (placeName file context) = clearContextParam context := by
  unfold clearContextParam
  congr 1
  funext index
  by_cases name : index = 3
  · subst name
    simp only [placeName_params, Function.update_self]
    rfl
  · simp only [placeName_params, Function.update_of_ne name]

theorem clearContextParam_placeKey (file : DevFile) (context : ClientContext) :
    clearContextParam (placeKey file context) =
      { clearContextParam context with paramTypes := loginTypes context.paramTypes } := by
  unfold clearContextParam
  congr 1
  funext index
  by_cases key : index = 2
  · subst key
    simp only [placeKey_params, Function.update_self]
    rfl
  · simp only [placeKey_params, Function.update_of_ne key]

/-- What a call reports does not bring the login parameters back. -/
theorem ClearedOf.sameRequest {given before after : ClientContext}
    (cleared : ClearedOf given (clearContextParam before)) (same : SameRequest before after) :
    ClearedOf given (clearContextParam after) := by
  obtain ⟨sessionId, cmdId, code, origin, types, is⟩ := cleared
  obtain ⟨newId, newCode, newOrigin, rfl⟩ := same
  refine ⟨newId, cmdId, newCode, newOrigin, types, ?_⟩
  change { clearContextParam before with
    sessionId := newId, returnsCode := newCode, returnsOrigin := newOrigin } = _
  rw [is]

theorem checkLoginMethod_cleared (env : LoginEnv) (file : DevFile) (context : ClientContext)
    (flags : UInt8) :
    ClearedOf context (clearContextParam (checkLoginMethod env file context flags).context) := by
  unfold checkLoginMethod
  split
  · exact ⟨_, _, _, _, _, rfl⟩
  split
  · exact ⟨_, _, _, _, _, rfl⟩
  simp only
  split
  · exact ⟨_, _, _, _, _, rfl⟩
  change ClearedOf context (clearContextParam (setLoginInformation env file context).2.2)
  unfold setLoginInformation
  split
  · exact ⟨_, _, _, _, _, rfl⟩
  split
  · split
    · rw [clearContextParam_placeName]
      exact ⟨_, _, _, _, _, rfl⟩
    · rw [clearContextParam_placeKey, clearContextParam_placeName]
      exact ⟨_, _, _, _, _, rfl⟩
  · rw [clearContextParam_placeKey, clearContextParam_placeName]
    exact ⟨_, _, _, _, _, rfl⟩

theorem openWithService_context {file : DevFile} {service : Nat} {flags : UInt8}
    (returned : openWithService env tables dev file context service flags = some outcome) :
    ∃ loaded, SameRequest context loaded ∧ SameRequest loaded outcome.context := by
  have itself : SameRequest context context := ⟨_, _, _, rfl⟩
  unfold openWithService at returned
  split at returned
  · cases returned
    exact ⟨context, itself, itself⟩
  split at returned
  · cases returned
    exact ⟨context, itself, itself⟩
  obtain ⟨result, ran, same⟩ := Option.map_eq_some_iff.mp returned
  have kept : outcome.context = result.context := by
    rw [← same]
    split
    · rfl
    · rfl
  rw [kept]
  unfold procOpenSession at ran
  simp only at ran
  split at ran
  · cases ran
    exact ⟨_, loadTaImage_context env.load file context, ⟨_, _, _, rfl⟩⟩
  · obtain ⟨call, called, finished⟩ := Option.map_eq_some_iff.mp ran
    subst finished
    refine ⟨_, loadTaImage_context env.load file context, ?_⟩
    cases tcClientCall_ends called with
    | unsent failed context events => exact context
    | answered ready ended ret context sessionId heard events => exact context

theorem tcNsOpenSession_cleared {file : DevFile}
    (returned : tcNsOpenSession env tables dev file context = some outcome) :
    ClearedOf context outcome.context := by
  obtain ⟨before, ran, cleared⟩ := Option.map_eq_some_iff.mp returned
  subst cleared
  change ClearedOf context (clearContextParam before.context)
  have login := checkLoginMethod_cleared env.login file context tcCallGlobal
  have asked : ClearedOf context (clearContextParam
      { (checkLoginMethod env.login file context tcCallGlobal).context with
        cmdId := globalCmdIdOpenSession }) := by
    obtain ⟨sessionId, cmdId, code, origin, types, is⟩ := login
    refine ⟨sessionId, globalCmdIdOpenSession, code, origin, types, ?_⟩
    change { clearContextParam (checkLoginMethod env.login file context tcCallGlobal).context with
      cmdId := globalCmdIdOpenSession } = _
    rw [is]
  unfold openBeforeClear at ran
  simp only at ran
  split at ran
  · cases ran
    exact login
  split at ran
  · cases ran
    exact asked
  · obtain ⟨opened, ranOpen, same⟩ := Option.map_eq_some_iff.mp ran
    subst same
    obtain ⟨loaded, first, second⟩ := openWithService_context ranOpen
    exact (asked.sameRequest first).sameRequest second

/-! ### Send and close -/

theorem tcNsSendCmd_accesses (user : UserFile)
    (returned : tcNsSendCmd env tables dev user.file context = some outcome)
    (made : access ∈ outcome.accesses) :
    Disciplined user.file argp (some context) access := by
  unfold tcNsSendCmd at returned
  split at returned
  · cases returned
    cases made
  split at returned
  · cases returned
    cases made
  split at returned
  · cases returned
    cases made
  · obtain ⟨call, called, finished⟩ := Option.map_eq_some_iff.mp returned
    subst finished
    obtain ⟨_, accessed⟩ := tcClientCall_accesses user.userMode called made
    obtain ⟨via, index, at_⟩ :=
      accessed.of_no_login user.userMode (show (0 : UInt8) &&& tcCallLogin = 0 by decide)
    exact Or.inr ⟨via, .param rfl at_⟩

theorem tcNsCloseSession_accesses (user : UserFile)
    (returned : tcNsCloseSession env tables dev user.file context = some outcome) :
    outcome.accesses = [] := by
  unfold tcNsCloseSession at returned
  split at returned
  · cases returned
    rfl
  split at returned
  · cases returned
    rfl
  split at returned
  · cases returned
    rfl
  · obtain ⟨call, called, finished⟩ := Option.map_eq_some_iff.mp returned
    subst finished
    apply List.eq_nil_iff_forall_not_mem.mpr
    intro access made
    exact (tcClientCall_accesses user.userMode called made).1 rfl

end Calls

/-! ### The ioctls -/

section Ioctl

variable {platform : Platform} {Dev : Type} [DecidableEq Dev]

/-- A session ioctl of a user-mode client uses kernel accesses for its dev_file's
login fields only and reaches the client's addresses by `copy_from_user`,
`copy_to_user` and `get_user`; the context that an open copies back has nothing
of the dev_file in its parameters. -/
theorem tcClientSessionIoctl_disciplined (env : IoctlEnv platform) (tables : Tables Dev)
    (dev : Dev) (user : UserFile) (argp : UInt64) (cmd : IoctlCmd) (result : IoctlResult Dev)
    (returned : tcClientSessionIoctl env tables dev user.file argp cmd = some result) :
    (∀ access ∈ result.accesses, Disciplined user.file argp env.userContext access) ∧
      (cmd = .sesOpenReq → ∀ given copied, env.userContext = some given →
        result.copiedBack = some copied → ClearedOf given copied) := by
  have toArgument (via : Via) (length : Nat) (user_ : via ≠ .memcpy) :
      Disciplined user.file argp env.userContext ⟨via, argp, length⟩ :=
    Or.inr ⟨user_, .argument⟩
  unfold tcClientSessionIoctl at returned
  split at returned
  · cases returned
    constructor
    · intro access made
      cases made
    · intro _ _ _ _ copied
      cases copied
  split at returned
  · cases returned
    constructor
    · intro access made
      rw [List.mem_singleton.mp made]
      exact toArgument _ _ (by decide)
    · intro _ _ _ _ copied
      cases copied
  next given sent =>
    obtain ⟨inner, ran, same⟩ := Option.map_eq_some_iff.mp returned
    subst same
    have read : Disciplined user.file argp env.userContext ⟨.copyFromUser, argp, contextSize⟩ :=
      toArgument _ _ (by decide)
    have wrote : Disciplined user.file argp env.userContext ⟨.copyToUser, argp, contextSize⟩ :=
      toArgument _ _ (by decide)
    rw [sent] at read wrote ⊢
    cases cmd with
    | sesOpenReq =>
        obtain ⟨outcome, opened, copied⟩ := Option.map_eq_some_iff.mp ran
        subst copied
        constructor
        · intro access made
          rcases List.mem_cons.mp made with rfl | inside
          · exact read
          rcases List.mem_append.mp inside with here | last
          · exact (tcNsOpenSession_accesses user opened here).of_origin
          · rw [List.mem_singleton.mp last]
            exact wrote
        · intro _ first copied is back
          cases is
          cases back
          obtain ⟨sessionId, cmdId, code, origin, types, cleared⟩ := tcNsOpenSession_cleared opened
          exact ⟨sessionId, cmdId, code, origin, types, cleared⟩
    | sendCmdReq =>
        obtain ⟨outcome, sent_, copied⟩ := Option.map_eq_some_iff.mp ran
        subst copied
        constructor
        · intro access made
          rcases List.mem_cons.mp made with rfl | inside
          · exact read
          rcases List.mem_append.mp inside with here | last
          · exact (tcNsSendCmd_accesses user sent_ here).of_origin
          · rw [List.mem_singleton.mp last]
            exact wrote
        · intro open_
          cases open_
    | sesCloseReq =>
        obtain ⟨outcome, closed, finished⟩ := Option.map_eq_some_iff.mp ran
        subst finished
        constructor
        · intro access made
          rcases List.mem_cons.mp made with rfl | inside
          · exact read
          · rw [tcNsCloseSession_accesses user closed] at inside
            cases inside
        · intro open_
          cases open_
    | unknown =>
        cases ran
        constructor
        · intro access made
          rw [List.mem_singleton.mp made]
          exact read
        · intro open_
          cases open_

end Ioctl

/-! ### An open with a buffer of the client -/

def bufferContext : ClientContext :=
  { loginContext with
    paramTypes := ParamType.memrefTempInput.code
    params := fun _ =>
      { buffer := 0x1000, bufferHAddr := 0, offset := 0, hOffset := 0, sizeAddr := 0x2000
        sizeHAddr := 0 } }

def namedUser : UserFile :=
  { file := { userDev with pkgNameLen := 3, pubKeyLen := 4 }
    userMode := rfl
    nameFits := by decide
    keyFits := by decide }

def openBuffer : Option (IoctlResult Unit) :=
  tcClientSessionIoctl { calmIoctl with userContext := some bufferContext } Tables.initial ()
    namedUser.file 0x5000 .sesOpenReq

theorem tcClientSessionIoctl_disciplined_open :
    ∃ result, openBuffer = some result ∧
      (∀ access ∈ result.accesses,
        Disciplined namedUser.file 0x5000 (some bufferContext) access) ∧
      (∃ access ∈ result.accesses, access.via = .memcpy) ∧
      ∃ copied, result.copiedBack = some copied ∧ ClearedOf bufferContext copied := by
  have ran : (openBuffer.map fun result =>
      decide ((∃ access ∈ result.accesses, access.via = .memcpy) ∧
        result.copiedBack.isSome = true)) = some true := by
    decide +kernel
  obtain ⟨result, opened, facts⟩ := Option.map_eq_some_iff.mp ran
  obtain ⟨kernel, some_⟩ := of_decide_eq_true facts
  obtain ⟨copied, back⟩ := Option.isSome_iff_exists.mp some_
  obtain ⟨accesses, cleared⟩ := tcClientSessionIoctl_disciplined _ _ _ namedUser _ _ result opened
  exact ⟨result, opened, accesses, kernel, copied, back, cleared rfl _ _ rfl back⟩

/-- The check of a buffer reads the client's size word by `get_user`. -/
theorem client_size_read_by_getUser :
    ∃ result, openBuffer = some result ∧
      ∃ access ∈ result.accesses, ClientAddress 0x5000 (some bufferContext) access.addr ∧
        access.via ≠ .copyFromUser ∧ access.via ≠ .copyToUser := by
  have ran : (openBuffer.map fun result =>
      decide (⟨.getUser, 0x2000, 4⟩ ∈ result.accesses)) = some true := by
    decide +kernel
  obtain ⟨result, opened, member⟩ := Option.map_eq_some_iff.mp ran
  refine ⟨result, opened, _, of_decide_eq_true member, ?_, by decide, by decide⟩
  exact .param rfl (show (0x2000 : UInt64) ∈ paramAddresses (bufferContext.params 0) by decide)

end TzDriver.Session
