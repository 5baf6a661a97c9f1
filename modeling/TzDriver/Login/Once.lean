/-
Logins on one dev_file, one after the other (`tc_ns_client_login_func` in
`linux/core/tc_client_driver.c`).
-/

import Mathlib.Logic.Relation
import TzDriver.Login.Threads

namespace TzDriver.Login

open TzDriver.Client TzDriver.Session

/-- A login ioctl: the result of `tc_login_check`, the user's buffer, and the results of the
allocation and of the copy of the buffer. -/
structure Attempt where
  authorised : Bool
  buffer : Option Bytes
  allocated : Bool
  copied : Bool

/-- `get_public_key_len` and `get_public_key`, up to the end of the login. -/
def parseKey (fields : LoginFields) (cert : Bytes) : Int × LoginFields :=
  let keyLen := cert.word 0
  if keyLen > maxPubkeyLen then (-eInval, { fields with pubKeyLen := 0 })
  else
    let keyed := { fields with pubKeyLen := keyLen }
    if keyLen = 0 then (0, { keyed with loginSetup := true })
    else if memcpyS maxPubkeyLen.toNat keyLen.toNat false ≠ 0 then
      (-eInval, { keyed with loginSetup := true })
    else
      (0, { keyed with
        pubKey := fields.pubKey.copy (cert.drop 4) keyLen.toNat, loginSetup := true })

/-- `get_pack_name_len` and the copy of the name before the key. -/
def parseLogin (fields : LoginFields) (cert : Bytes) : Int × LoginFields :=
  let nameLen := cert.word 0
  if nameLen = 0 ∨ nameLen ≥ maxPackageNameLen then (-eInval, { fields with pkgNameLen := 0 })
  else
    let afterLen := cert.drop 4
    let name := strncpyS fields.pkgName maxPackageNameLen.toNat afterLen nameLen.toNat
    let named := { fields with pkgNameLen := nameLen, pkgName := name.2 }
    if name.1 ≠ 0 then (-eNoMem, named) else parseKey named (afterLen.drop nameLen.toNat)

def tcNsClientLoginFunc (fields : LoginFields) (attempt : Attempt) : Int × LoginFields :=
  if attempt.authorised = false then (-eFault, fields)
  else
    match attempt.buffer with
    | none => (0, { fields with pkgNameLen := 0, pubKeyLen := 0 })
    | some cert =>
        if fields.loginSetup then (-eInval, fields)
        else if attempt.allocated = false then (-eNoMem, fields)
        else if attempt.copied = false then (-eInval, fields)
        else parseLogin fields cert

/-! ### The sections of a login -/

section Sections

variable (choice : Choice) (id : Nat)

/-- Some sections of a thread that nothing interrupts. -/
def RunsAlone : Shared × Point → Shared × Point → Prop :=
  Relation.ReflTransGen fun before after => before.2.advance choice id before.1 = some after

variable {choice id} {shared next : Shared} {point nextPoint : Point} {last : Shared × Point}

theorem RunsAlone.cons (first : point.advance choice id shared = some (next, nextPoint))
    (rest : RunsAlone choice id (next, nextPoint) last) :
    RunsAlone choice id (shared, point) last :=
  .head first rest

theorem RunsAlone.unlock {fields : LoginFields} {ret : Int} :
    RunsAlone choice id (⟨fields, some id⟩, .unlockLogin ret) (⟨fields, none⟩, .returned ret) :=
  .cons rfl .refl

theorem lockLogin_free (fields : LoginFields) (cert : Bytes) :
    (Point.lockLogin cert).advance choice id ⟨fields, none⟩ =
      some (⟨fields, some id⟩, .testSetup cert) := by
  rw [Point.advance]
  exact if_pos rfl

theorem runsAlone_key (fields : LoginFields) (cert : Bytes) :
    RunsAlone choice id (⟨fields, some id⟩, .resetKeyLen cert)
      (⟨(parseKey fields cert).2, none⟩, .returned (parseKey fields cert).1) := by
  have reset : (Point.resetKeyLen cert).advance choice id ⟨fields, some id⟩ =
      some (⟨{ fields with pubKeyLen := 0 }, some id⟩, .storeKeyLen cert) := rfl
  refine .cons reset ?_
  unfold parseKey
  simp only
  split
  · next long => exact .cons (congrArg some (if_pos long)) .unlock
  · next fits =>
      have stored : storeKeyLenSection ⟨{ fields with pubKeyLen := 0 }, some id⟩ cert =
          (⟨{ fields with pubKeyLen := cert.word 0 }, some id⟩, .testKeyLen (cert.drop 4)) :=
        if_neg fits
      have tested : (Point.testKeyLen (cert.drop 4)).advance choice id
          ⟨{ fields with pubKeyLen := cert.word 0 }, some id⟩ =
            some (⟨{ fields with pubKeyLen := cert.word 0 }, some id⟩,
              if cert.word 0 = 0 then .setSetup 0 else .copyKey (cert.drop 4)) := rfl
      refine .cons (congrArg some stored) (.cons tested ?_)
      split
      · exact .cons rfl .unlock
      split
      · next failed => exact .cons (congrArg some (if_pos failed)) (.cons rfl .unlock)
      · next done => exact .cons (congrArg some (if_neg done)) (.cons rfl .unlock)

theorem runsAlone_parse (fields : LoginFields) (cert : Bytes) :
    RunsAlone choice id (⟨fields, some id⟩, .resetNameLen cert)
      (⟨(parseLogin fields cert).2, none⟩, .returned (parseLogin fields cert).1) := by
  have reset : (Point.resetNameLen cert).advance choice id ⟨fields, some id⟩ =
      some (⟨{ fields with pkgNameLen := 0 }, some id⟩, .storeNameLen cert) := rfl
  refine .cons reset ?_
  unfold parseLogin
  simp only
  split
  · next outside => exact .cons (congrArg some (if_pos outside)) .unlock
  · next inside =>
      have stored : storeNameLenSection ⟨{ fields with pkgNameLen := 0 }, some id⟩ cert =
          (⟨{ fields with pkgNameLen := cert.word 0 }, some id⟩, .copyName (cert.drop 4)) :=
        if_neg inside
      refine .cons (congrArg some stored) (.cons rfl ?_)
      simp only
      split
      · exact .unlock
      · exact .cons rfl (runsAlone_key _ _)

/-- A login that no other call interrupts does what its sections do. -/
theorem runsAlone_login (fields : LoginFields) (buffer : Option Bytes) :
    RunsAlone choice id (⟨fields, none⟩, (Call.login buffer).first)
      (⟨(tcNsClientLoginFunc fields ⟨true, buffer, choice.allocated, choice.copied⟩).2, none⟩,
        .returned
          (tcNsClientLoginFunc fields ⟨true, buffer, choice.allocated, choice.copied⟩).1) := by
  cases buffer with
  | none => exact .cons rfl (.cons rfl .refl)
  | some cert =>
      refine .cons (lockLogin_free fields cert) ?_
      unfold tcNsClientLoginFunc
      simp only [Bool.true_eq_false, if_false]
      split
      · next again => exact .cons (if_pos again) .unlock
      · next new =>
          split
          · next none_ => exact .cons ((if_neg new).trans (if_pos none_)) .unlock
          · next space =>
              split
              · next torn =>
                  exact .cons ((if_neg new).trans ((if_neg space).trans (if_pos torn))) .unlock
              · next whole =>
                  exact .cons ((if_neg new).trans ((if_neg space).trans (if_neg whole)))
                    (runsAlone_parse fields cert)

end Sections

/-! ### Sequences of logins -/

/-- The fields that a login sets, without the flag. -/
def SameInfo (before after : LoginFields) : Prop :=
  after.pkgName = before.pkgName ∧ after.pkgNameLen = before.pkgNameLen ∧
    after.pubKey = before.pubKey ∧ after.pubKeyLen = before.pubKeyLen

/-- One login after which `succeeded` buffers had been accepted: an error changes nothing,
and neither does any login once a buffer was accepted. -/
structure KeepsOnce (before : LoginFields) (succeeded : Bool) (attempt : Attempt) : Prop where
  atomic : (tcNsClientLoginFunc before attempt).1 ≠ 0 →
    (tcNsClientLoginFunc before attempt).2 = before
  once : succeeded = true → SameInfo before (tcNsClientLoginFunc before attempt).2

def accepts (before : LoginFields) (attempt : Attempt) : Bool :=
  attempt.buffer.isSome && decide ((tcNsClientLoginFunc before attempt).1 = 0)

/-- Every login of a sequence keeps what the ones before it have set. -/
def SetOnce : LoginFields → Bool → List Attempt → Prop
  | _, _, [] => True
  | fields, succeeded, attempt :: rest =>
      KeepsOnce fields succeeded attempt ∧
        SetOnce (tcNsClientLoginFunc fields attempt).2 (succeeded || accepts fields attempt) rest

/-! ### What a buffer asks for -/

def Bytes.nameLenOk (cert : Bytes) : Bool :=
  decide (cert.word 0 ≠ 0 ∧ cert.word 0 < maxPackageNameLen)

def Bytes.keyLenOk (cert : Bytes) : Bool :=
  decide (((cert.drop 4).drop (cert.word 0).toNat).word 0 ≤ maxPubkeyLen)

namespace Attempt

variable (attempt : Attempt)

def parsed : Option Bytes :=
  if attempt.authorised && attempt.allocated && attempt.copied then attempt.buffer else none

def wellFormed : Bool :=
  match attempt.parsed with
  | some cert => cert.nameLenOk && cert.keyLenOk
  | none => false

/-- After a success, no login of the daemon without a buffer; before it, no parsed buffer
whose name length is in range and whose key length is not. -/
def harmless (succeeded : Bool) : Bool :=
  if succeeded then !(attempt.authorised && attempt.buffer.isNone)
  else
    match attempt.parsed with
    | some cert => !cert.nameLenOk || cert.keyLenOk
    | none => true

end Attempt

def Harmless : Bool → List Attempt → Prop
  | _, [] => True
  | succeeded, attempt :: rest =>
      attempt.harmless succeeded = true ∧ Harmless (succeeded || attempt.wellFormed) rest

/-! ### One login -/

section Parse

variable {fields : LoginFields} {cert : Bytes}

theorem nameLenOk_iff :
    cert.nameLenOk = true ↔ ¬(cert.word 0 = 0 ∨ cert.word 0 ≥ maxPackageNameLen) := by
  unfold Bytes.nameLenOk
  rw [decide_eq_true_iff, not_or, ge_iff_le, UInt32.not_le]

theorem keyLenOk_iff :
    cert.keyLenOk = true ↔
      ¬((cert.drop 4).drop (cert.word 0).toNat).word 0 > maxPubkeyLen := by
  unfold Bytes.keyLenOk
  rw [decide_eq_true_iff, gt_iff_lt, UInt32.not_lt]

theorem strnlen_le (bytes : Bytes) (count : Nat) : bytes.strnlen count ≤ count := by
  induction count generalizing bytes with
  | zero => exact Nat.le_refl 0
  | succ count ih =>
      rw [Bytes.strnlen]
      split
      · exact Nat.zero_le _
      · exact Nat.succ_le_succ (ih _)

theorem strncpyS_name (dest src : Bytes) {length : UInt32} (short : length < maxPackageNameLen) :
    (strncpyS dest maxPackageNameLen.toNat src length.toNat).1 = 0 := by
  have bound : length.toNat < 255 := UInt32.lt_iff_toNat_lt.mp short
  have stops := strnlen_le src length.toNat
  unfold strncpyS
  rw [if_neg]
  rw [not_or]
  constructor
  · change ¬length.toNat > 0x7fffffff
    omega
  · change ¬255 ≤ _
    omega

theorem parseLogin_bad_name (bad : cert.nameLenOk = false) :
    parseLogin fields cert = (-eInval, { fields with pkgNameLen := 0 }) := by
  have outside : cert.word 0 = 0 ∨ cert.word 0 ≥ maxPackageNameLen := by
    by_contra inside
    rw [nameLenOk_iff.mpr inside] at bad
    cases bad
  exact if_pos outside

theorem parseLogin_bad_key (name : cert.nameLenOk = true) (bad : cert.keyLenOk = false) :
    parseLogin fields cert = (-eInval, { fields with
      pkgNameLen := cert.word 0
      pkgName := (strncpyS fields.pkgName maxPackageNameLen.toNat (cert.drop 4)
        (cert.word 0).toNat).2
      pubKeyLen := 0 }) := by
  have inside := nameLenOk_iff.mp name
  have short : cert.word 0 < maxPackageNameLen := UInt32.not_le.mp (not_or.mp inside).2
  have long : ((cert.drop 4).drop (cert.word 0).toNat).word 0 > maxPubkeyLen := by
    by_contra fits
    rw [keyLenOk_iff.mpr fits] at bad
    cases bad
  unfold parseLogin parseKey
  simp only [if_neg inside, strncpyS_name _ _ short, ne_eq, not_true_eq_false, if_false,
    if_pos long]

theorem parseLogin_good (name : cert.nameLenOk = true) (key : cert.keyLenOk = true) :
    (parseLogin fields cert).1 = 0 ∧ (parseLogin fields cert).2.loginSetup = true ∧
      (parseLogin fields cert).2.pkgNameLen ≠ 0 := by
  have inside := nameLenOk_iff.mp name
  have short : cert.word 0 < maxPackageNameLen := UInt32.not_le.mp (not_or.mp inside).2
  have fits := keyLenOk_iff.mp key
  have copied : memcpyS maxPubkeyLen.toNat
      (((cert.drop 4).drop (cert.word 0).toNat).word 0).toNat false = 0 := by
    rw [memcpyS_eq_zero]
    refine ⟨by decide, by decide, ?_, rfl⟩
    exact UInt32.le_iff_toNat_le.mp (UInt32.not_lt.mp fits)
  unfold parseLogin parseKey
  simp only [if_neg inside, strncpyS_name _ _ short, ne_eq, not_true_eq_false, if_false,
    if_neg fits, copied]
  split
  · exact ⟨rfl, rfl, (not_or.mp inside).1⟩
  · exact ⟨rfl, rfl, (not_or.mp inside).1⟩

end Parse

section One

variable {fields : LoginFields} {attempt : Attempt} {succeeded : Bool}

/-- The fields while a sequence has kept what it set. -/
structure LoginFields.Settled (fields : LoginFields) (succeeded : Bool) : Prop where
  flag : fields.loginSetup = succeeded
  named : succeeded = true → fields.pkgNameLen ≠ 0
  empty : succeeded = false → fields.pkgNameLen = 0 ∧ fields.pubKeyLen = 0

theorem KeepsOnce.of_same (same : (tcNsClientLoginFunc fields attempt).2 = fields) :
    KeepsOnce fields succeeded attempt := by
  refine ⟨fun _ => same, fun _ => ?_⟩
  rw [same]
  exact ⟨rfl, rfl, rfl, rfl⟩

theorem clear_lengths (noName : fields.pkgNameLen = 0) (noKey : fields.pubKeyLen = 0) :
    { fields with pkgNameLen := 0, pubKeyLen := 0 } = fields := by
  obtain ⟨pkgName, pkgNameLen, pubKey, pubKeyLen, loginSetup⟩ := fields
  simp only at noName noKey
  rw [noName, noKey]

theorem login_unparsed (open_ : fields.loginSetup = false) (given : attempt.buffer.isSome = true)
    (unparsed : attempt.parsed = none) :
    (tcNsClientLoginFunc fields attempt).1 ≠ 0 ∧
      (tcNsClientLoginFunc fields attempt).2 = fields := by
  obtain ⟨cert, buffer⟩ := Option.isSome_iff_exists.mp given
  unfold Attempt.parsed at unparsed
  unfold tcNsClientLoginFunc
  cases authorised : attempt.authorised with
  | false => exact ⟨show (-eFault : Int) ≠ 0 by decide, rfl⟩
  | true =>
      cases allocated : attempt.allocated with
      | false =>
          simp only [buffer, open_, Bool.true_eq_false, Bool.false_eq_true, if_false, if_true]
          exact ⟨by decide, trivial⟩
      | true =>
          cases copied : attempt.copied with
          | false =>
              simp only [buffer, open_, Bool.true_eq_false, Bool.false_eq_true, if_false, if_true]
              exact ⟨by decide, trivial⟩
          | true =>
              rw [authorised, allocated, copied, buffer] at unparsed
              cases unparsed

theorem login_parsed (open_ : fields.loginSetup = false) {cert : Bytes}
    (parsed : attempt.parsed = some cert) :
    tcNsClientLoginFunc fields attempt = parseLogin fields cert ∧ attempt.buffer = some cert := by
  unfold Attempt.parsed at parsed
  split at parsed
  · next ready =>
      obtain ⟨first, copied⟩ := Bool.and_eq_true_iff.mp ready
      obtain ⟨authorised, allocated⟩ := Bool.and_eq_true_iff.mp first
      refine ⟨?_, parsed⟩
      unfold tcNsClientLoginFunc
      simp only [authorised, parsed, open_, allocated, copied, Bool.true_eq_false,
        Bool.false_eq_true, if_false]
  · cases parsed

/-- A login after a success: only one without a buffer changes anything. -/
theorem keepsOnce_after_iff (settled : fields.Settled true) :
    KeepsOnce fields true attempt ↔ attempt.harmless true = true := by
  unfold Attempt.harmless
  rw [if_pos rfl]
  cases authorised : attempt.authorised with
  | false =>
      refine iff_of_true (.of_same ?_) rfl
      unfold tcNsClientLoginFunc
      rw [if_pos authorised]
  | true =>
      cases buffer : attempt.buffer with
      | none =>
          refine iff_of_false ?_ (by decide)
          intro keeps
          have same := (keeps.once rfl).2.1
          unfold tcNsClientLoginFunc at same
          simp only [authorised, buffer, Bool.true_eq_false, if_false] at same
          exact settled.named rfl same.symm
      | some cert =>
          refine iff_of_true (.of_same ?_) rfl
          unfold tcNsClientLoginFunc
          simp only [authorised, buffer, settled.flag, Bool.true_eq_false, if_false, if_true]

theorem settled_after (settled : fields.Settled true) (keeps : KeepsOnce fields true attempt) :
    (tcNsClientLoginFunc fields attempt).2.Settled true := by
  obtain ⟨_, length, _, _⟩ := keeps.once rfl
  refine ⟨?_, ?_, ?_⟩
  · unfold tcNsClientLoginFunc
    split
    · exact settled.flag
    split
    · exact settled.flag
    · rw [if_pos settled.flag]
      exact settled.flag
  · intro _
    rw [length]
    exact settled.named rfl
  · intro impossible
    cases impossible

/-- What a login before any success does, and what the sequence goes on with. -/
structure FirstLogin (fields : LoginFields) (attempt : Attempt) : Prop where
  keeps_iff : KeepsOnce fields false attempt ↔ attempt.harmless false = true
  goesOn : KeepsOnce fields false attempt →
    accepts fields attempt = attempt.wellFormed ∧
      (tcNsClientLoginFunc fields attempt).2.Settled attempt.wellFormed

theorem FirstLogin.of_unchanged (settled : fields.Settled false)
    (same : (tcNsClientLoginFunc fields attempt).2 = fields)
    (refused : accepts fields attempt = false) (harmless : attempt.harmless false = true)
    (malformed : attempt.wellFormed = false) : FirstLogin fields attempt := by
  refine ⟨iff_of_true (.of_same same) harmless, ?_⟩
  intro _
  rw [same, refused, malformed]
  exact ⟨rfl, settled⟩

theorem firstLogin_unparsed (settled : fields.Settled false) (parsed : attempt.parsed = none) :
    FirstLogin fields attempt := by
  obtain ⟨noName, noKey⟩ := settled.empty rfl
  have harmless : attempt.harmless false = true := by
    unfold Attempt.harmless
    rw [parsed]
    rfl
  have malformed : attempt.wellFormed = false := by
    unfold Attempt.wellFormed
    rw [parsed]
  cases given : attempt.buffer.isSome with
  | true =>
      obtain ⟨failed, same⟩ := login_unparsed settled.flag given parsed
      refine .of_unchanged settled same ?_ harmless malformed
      unfold accepts
      rw [decide_eq_false failed, Bool.and_false]
  | false =>
      have none_ : attempt.buffer = none :=
        Option.isNone_iff_eq_none.mp (Option.isSome_eq_false_iff.mp given)
      refine .of_unchanged settled ?_ ?_ harmless malformed
      · unfold tcNsClientLoginFunc
        rw [none_]
        split
        · rfl
        · exact clear_lengths noName noKey
      · unfold accepts
        rw [given, Bool.false_and]

section Parsed

variable {cert : Bytes}

theorem firstLogin_bad_name (settled : fields.Settled false) (parsed : attempt.parsed = some cert)
    (name : cert.nameLenOk = false) : FirstLogin fields attempt := by
  obtain ⟨noName, noKey⟩ := settled.empty rfl
  obtain ⟨result, buffer⟩ := login_parsed settled.flag parsed
  have refused := @parseLogin_bad_name fields cert name
  have same : { fields with pkgNameLen := 0 } = fields := by
    rw [← noName]
  apply FirstLogin.of_unchanged settled
  · rw [result, refused]
    exact same
  · unfold accepts
    rw [result, refused]
    exact Bool.and_false _
  · unfold Attempt.harmless
    rw [parsed]
    simp only [name, Bool.not_false, Bool.true_or, Bool.false_eq_true, if_false]
  · unfold Attempt.wellFormed
    rw [parsed]
    simp only [name, Bool.false_and]

/-- The name is stored before the key length is refused. -/
theorem firstLogin_bad_key (settled : fields.Settled false) (parsed : attempt.parsed = some cert)
    (name : cert.nameLenOk = true) (key : cert.keyLenOk = false) : FirstLogin fields attempt := by
  obtain ⟨noName, noKey⟩ := settled.empty rfl
  obtain ⟨result, buffer⟩ := login_parsed settled.flag parsed
  have refused := @parseLogin_bad_key fields cert name key
  have breaks : ¬KeepsOnce fields false attempt := by
    intro keeps
    have same := keeps.atomic
    rw [result, refused] at same
    have unset := same (show (-eInval : Int) ≠ 0 by decide)
    have length : cert.word 0 = 0 := (congrArg LoginFields.pkgNameLen unset).trans noName
    exact (not_or.mp (nameLenOk_iff.mp name)).1 length
  refine ⟨iff_of_false breaks ?_, fun keeps => absurd keeps breaks⟩
  unfold Attempt.harmless
  rw [parsed]
  simp only [name, key, Bool.not_true, Bool.or_self, Bool.false_eq_true, if_false,
    not_false_eq_true]

theorem firstLogin_good (settled : fields.Settled false) (parsed : attempt.parsed = some cert)
    (name : cert.nameLenOk = true) (key : cert.keyLenOk = true) : FirstLogin fields attempt := by
  obtain ⟨result, buffer⟩ := login_parsed settled.flag parsed
  obtain ⟨returned, flag, named⟩ := @parseLogin_good fields cert name key
  have wellFormed : attempt.wellFormed = true := by
    unfold Attempt.wellFormed
    rw [parsed]
    simp only [name, key, Bool.and_self]
  have keeps : KeepsOnce fields false attempt := by
    constructor
    · intro failed
      rw [result] at failed
      exact absurd returned failed
    · intro impossible
      cases impossible
  refine ⟨iff_of_true keeps ?_, fun _ => ⟨?_, ?_⟩⟩
  · unfold Attempt.harmless
    rw [parsed]
    simp only [key, Bool.or_true, Bool.false_eq_true, if_false]
  · unfold accepts
    rw [result, buffer, wellFormed, decide_eq_true returned]
    rfl
  · rw [result, wellFormed]
    refine ⟨flag, fun _ => named, ?_⟩
    intro impossible
    cases impossible

end Parsed

theorem firstLogin (settled : fields.Settled false) : FirstLogin fields attempt := by
  cases parsed : attempt.parsed with
  | none => exact firstLogin_unparsed settled parsed
  | some cert =>
      cases name : cert.nameLenOk with
      | false => exact firstLogin_bad_name settled parsed name
      | true =>
          cases key : cert.keyLenOk with
          | false => exact firstLogin_bad_key settled parsed name key
          | true => exact firstLogin_good settled parsed name key

end One

/-! ### Every sequence -/

theorem setOnce_iff {fields : LoginFields} {succeeded : Bool} (settled : fields.Settled succeeded)
    (logins : List Attempt) : SetOnce fields succeeded logins ↔ Harmless succeeded logins := by
  induction logins generalizing fields succeeded with
  | nil => exact Iff.rfl
  | cons attempt rest ih =>
      unfold SetOnce Harmless
      cases succeeded with
      | true =>
          simp only [Bool.true_or]
          rw [← keepsOnce_after_iff settled]
          exact and_congr_right fun keeps => ih (settled_after settled keeps)
      | false =>
          simp only [Bool.false_or]
          obtain ⟨same, goesOn⟩ := @firstLogin fields attempt settled
          rw [← same]
          refine and_congr_right ?_
          intro keeps
          obtain ⟨accepted, after⟩ := goesOn keeps
          rw [accepted]
          exact ih after

theorem LoginFields.opened_settled : LoginFields.opened.Settled false := by
  refine ⟨rfl, ?_, fun _ => ⟨rfl, rfl⟩⟩
  intro impossible
  cases impossible

/-- A sequence of logins on a new dev_file sets its fields once and without leftovers exactly
when its logins are harmless. -/
theorem login_set_once_iff (logins : List Attempt) :
    SetOnce .opened false logins ↔ Harmless false logins :=
  setOnce_iff LoginFields.opened_settled logins

def shortCert : Bytes :=
  .ofList [1, 0, 0, 0, 97]

/-- The daemon logs in with a buffer and then without one. -/
def loginThenClear : List Attempt :=
  [⟨true, some shortCert, true, true⟩, ⟨true, none, true, true⟩]

theorem login_not_set_once : ¬SetOnce .opened false loginThenClear := by
  rw [setOnce_iff LoginFields.opened_settled]
  intro harmless
  have cleared := harmless.2.1
  revert cleared
  decide

end TzDriver.Login
