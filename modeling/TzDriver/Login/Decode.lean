/-
The decoding of a login buffer (`tc_ns_client_login_func` and its parsers in
`linux/core/tc_client_driver.c`).

Every read of the buffer is checked here against its size: `none` is a read outside of it.
The cursor moves by the lengths that the buffer itself gives.
-/

import TzDriver.Login.Hash

namespace TzDriver.Login

open TzDriver.Client TzDriver.Session

/-! ### Checked reads -/

namespace Bytes

variable (bytes : Bytes) (size : Nat)

def readByte (offset : Nat) : Option UInt8 :=
  if offset < size then some (bytes offset) else none

def readWord (offset : Nat) : Option UInt32 :=
  if offset + 4 ≤ size then some ((bytes.drop offset).word 0) else none

/-- `count` bytes from `offset` on. -/
def readBlock (offset count : Nat) : Option Bytes :=
  if offset + count ≤ size then some (bytes.drop offset) else none

/-- `strnlen`, one byte after the other. -/
def readStrnlen (offset : Nat) : Nat → Option Nat
  | 0 => some 0
  | count + 1 =>
      (bytes.readByte size offset).bind fun byte =>
        if byte = 0 then some 0 else (readStrnlen (offset + 1) count).map (· + 1)

end Bytes

def sizeofLen : UInt32 := 4

/-- `*cert_buffer_size` of `alloc_login_buf`. -/
def certBufferSize : UInt32 :=
  maxPackageNameLen + maxPubkeyLen + sizeofLen + sizeofLen

def maxBufLen : Int := 4096

def isCertBufferSizeValid (size : Int) : Bool :=
  !(decide (size > maxBufLen) || decide (size = 0))

/-- `copied` is the success of `copy_from_user`. -/
def clientLoginPrepare (size : Int) (copied : Bool) : Int :=
  if isCertBufferSizeValid size = false then -eInval
  else if copied = false then -eInval
  else 0

section Parsers

variable (size : Nat) (fields : LoginFields) (cert : Bytes)

def getPackNameLen (cursor : Nat) : Option (Int × LoginFields) :=
  (cert.readWord size cursor).map fun tmpLen =>
    if tmpLen = 0 ∨ tmpLen ≥ maxPackageNameLen then (-eInval, { fields with pkgNameLen := 0 })
    else (0, { fields with pkgNameLen := tmpLen })

/-- `strncpy_s` into `pkg_name`. -/
def copyPackName (cursor : Nat) : Option (Int × Bytes) :=
  let count := fields.pkgNameLen.toNat
  if count > securecStringMaxLen then some (eRangeAndReset, fields.pkgName.copy (.ofList [0]) 1)
  else
    (cert.readStrnlen size cursor count).bind fun length =>
      if maxPackageNameLen.toNat ≤ length then
        some (eRangeAndReset, fields.pkgName.copy (.ofList [0]) 1)
      else
        (cert.readBlock size cursor length).map fun src =>
          (0, (fields.pkgName.copy (.ofList []) (length + 1)).copy src length)

def getPublicKeyLen (cursor : Nat) : Option (Int × LoginFields) :=
  (cert.readWord size cursor).map fun tmpLen =>
    if tmpLen > maxPubkeyLen then (-eInval, { fields with pubKeyLen := 0 })
    else (0, { fields with pubKeyLen := tmpLen })

def getPublicKey (cursor : Nat) : Option (Int × LoginFields) :=
  if fields.pubKeyLen = 0 then some (0, fields)
  else if memcpyS maxPubkeyLen.toNat fields.pubKeyLen.toNat false ≠ 0 then some (-eInval, fields)
  else
    (cert.readBlock size cursor fields.pubKeyLen.toNat).map fun src =>
      (0, { fields with pubKey := fields.pubKey.copy src fields.pubKeyLen.toNat })

def decodeKey (cursor : Nat) : Option (Int × LoginFields) :=
  (getPublicKeyLen size fields cert cursor).bind fun keyed =>
    if keyed.1 ≠ 0 then some keyed
    else
      (getPublicKey size keyed.2 cert (cursor + sizeofLen.toNat)).map fun stored =>
        (stored.1, { stored.2 with loginSetup := true })

/-- `tc_ns_client_login_func` on the buffer that it has copied in. -/
def decodeLogin : Option (Int × LoginFields) :=
  (getPackNameLen size fields cert 0).bind fun sized =>
    if sized.1 ≠ 0 then some sized
    else
      (copyPackName size sized.2 cert sizeofLen.toNat).bind fun copied =>
        let named := { sized.2 with pkgName := copied.2 }
        if copied.1 ≠ 0 then some (-eNoMem, named)
        else decodeKey size named cert (sizeofLen.toNat + named.pkgNameLen.toNat)

end Parsers

/-- `tc_ns_client_login_func` with checked reads. -/
def checkedLoginFunc (fields : LoginFields) (attempt : Attempt) : Option (Int × LoginFields) :=
  if attempt.authorised = false then some (-eFault, fields)
  else
    match attempt.buffer with
    | none => some (0, { fields with pkgNameLen := 0, pubKeyLen := 0 })
    | some cert =>
        if fields.loginSetup then some (-eInval, fields)
        else if attempt.allocated = false then some (-eNoMem, fields)
        else if clientLoginPrepare certBufferSize.toNat attempt.copied ≠ 0 then
          some (-eInval, fields)
        else decodeLogin certBufferSize.toNat fields cert

/-! ### No read leaves the buffer -/

section Reads

variable {bytes : Bytes} {size : Nat}

theorem readWord_inside {offset : Nat} (inside : offset + 4 ≤ size) :
    bytes.readWord size offset = some ((bytes.drop offset).word 0) :=
  if_pos inside

theorem readBlock_inside {offset count : Nat} (inside : offset + count ≤ size) :
    bytes.readBlock size offset count = some (bytes.drop offset) :=
  if_pos inside

theorem drop_drop (bytes : Bytes) (first second : Nat) :
    (bytes.drop first).drop second = bytes.drop (first + second) := by
  funext position
  unfold Bytes.drop
  rw [Nat.add_assoc, Nat.add_comm second first]

theorem readStrnlen_inside {count : Nat} :
    ∀ offset : Nat, offset + count ≤ size →
      bytes.readStrnlen size offset count = some ((bytes.drop offset).strnlen count) := by
  induction count with
  | zero =>
      intro offset _
      rfl
  | succ count ih =>
      intro offset inside
      have first : bytes.readByte size offset = some (bytes offset) := if_pos (by omega)
      have start : bytes.drop offset 0 = bytes offset := congrArg bytes (Nat.zero_add offset)
      unfold Bytes.readStrnlen Bytes.strnlen
      rw [first, Option.bind_some, start, drop_drop]
      by_cases zero : bytes offset = 0
      · rw [if_pos zero, if_pos zero]
      · rw [if_neg zero, if_neg zero, ih (offset + 1) (by omega)]
        rfl

end Reads

section Decoding

variable {fields : LoginFields} {cert : Bytes}

theorem copyPackName_eq {size cursor : Nat} (inside : cursor + fields.pkgNameLen.toNat ≤ size)
    (short : fields.pkgNameLen < maxPackageNameLen) :
    copyPackName size fields cert cursor =
      some (strncpyS fields.pkgName maxPackageNameLen.toNat (cert.drop cursor)
        fields.pkgNameLen.toNat) := by
  have bound : fields.pkgNameLen.toNat < 255 := UInt32.lt_iff_toNat_lt.mp short
  have stops := strnlen_le (cert.drop cursor) fields.pkgNameLen.toNat
  have notLong : ¬fields.pkgNameLen.toNat > securecStringMaxLen := by
    unfold securecStringMaxLen
    omega
  have fits : ¬maxPackageNameLen.toNat ≤ (cert.drop cursor).strnlen fields.pkgNameLen.toNat := by
    change ¬255 ≤ _
    omega
  unfold copyPackName strncpyS
  simp only
  rw [if_neg notLong, readStrnlen_inside cursor inside, Option.bind_some, if_neg fits,
    if_neg (not_or.mpr ⟨notLong, fits⟩), readBlock_inside (by omega)]
  rfl

theorem decodeKey_eq {size cursor : Nat} (inside : cursor + 4 + 1024 ≤ size) :
    decodeKey size fields cert cursor = some (parseKey fields (cert.drop cursor)) := by
  unfold decodeKey getPublicKeyLen parseKey
  rw [readWord_inside (by omega), Option.map_some, Option.bind_some]
  simp only
  by_cases long : (cert.drop cursor).word 0 > maxPubkeyLen
  · rw [if_pos long, if_pos long]
    exact if_pos (show (-eInval : Int) ≠ 0 by decide)
  · have bound : ((cert.drop cursor).word 0).toNat ≤ 1024 :=
      UInt32.le_iff_toNat_le.mp (UInt32.not_lt.mp long)
    rw [if_neg long, if_neg long]
    simp only [ne_eq, not_true_eq_false, if_false]
    unfold getPublicKey
    simp only
    by_cases keyless : (cert.drop cursor).word 0 = 0
    · rw [if_pos keyless, if_pos keyless]
      rfl
    · have copies : memcpyS maxPubkeyLen.toNat ((cert.drop cursor).word 0).toNat false = 0 :=
        memcpyS_eq_zero.mpr ⟨by decide, by decide, bound, rfl⟩
      have block : cert.readBlock size (cursor + sizeofLen.toNat)
          ((cert.drop cursor).word 0).toNat = some (cert.drop (cursor + 4)) :=
        readBlock_inside (show cursor + 4 + _ ≤ size by omega)
      rw [if_neg keyless, if_neg keyless, if_neg (not_not_intro copies),
        if_neg (not_not_intro copies), block, drop_drop]
      rfl

/-- The buffer has room for both fields at their limits and their lengths. -/
theorem decodeLogin_eq :
    decodeLogin certBufferSize.toNat fields cert = some (parseLogin fields cert) := by
  have size : certBufferSize.toNat = 1287 := rfl
  have start : cert.drop 0 = cert := rfl
  unfold decodeLogin getPackNameLen parseLogin
  rw [size, readWord_inside (by decide), start, Option.map_some, Option.bind_some]
  simp only
  by_cases outside : cert.word 0 = 0 ∨ cert.word 0 ≥ maxPackageNameLen
  · rw [if_pos outside, if_pos outside]
    exact if_pos (show (-eInval : Int) ≠ 0 by decide)
  · have short : cert.word 0 < maxPackageNameLen := UInt32.not_le.mp (not_or.mp outside).2
    have bound : (cert.word 0).toNat < 255 := UInt32.lt_iff_toNat_lt.mp short
    have four : sizeofLen.toNat = 4 := rfl
    have copies := @copyPackName_eq { fields with pkgNameLen := cert.word 0 } cert 1287 4
      (show 4 + (cert.word 0).toNat ≤ 1287 by omega) short
    have stored := strncpyS_name fields.pkgName (cert.drop 4) short
    rw [if_neg outside, if_neg outside]
    simp only [ne_eq, not_true_eq_false, if_false]
    rw [four, copies, Option.bind_some, stored]
    simp only [not_true_eq_false, if_false]
    rw [decodeKey_eq (by omega), drop_drop]

/-- No read of any login leaves its buffer. -/
theorem checkedLoginFunc_eq (fields : LoginFields) (attempt : Attempt) :
    checkedLoginFunc fields attempt = some (tcNsClientLoginFunc fields attempt) := by
  unfold checkedLoginFunc tcNsClientLoginFunc
  cases attempt.authorised with
  | false => rfl
  | true =>
      simp only [Bool.true_eq_false, if_false]
      cases attempt.buffer with
      | none => rfl
      | some cert =>
          simp only
          cases fields.loginSetup with
          | true => rfl
          | false =>
              simp only [Bool.false_eq_true, if_false]
              cases attempt.allocated with
              | false => rfl
              | true =>
                  cases attempt.copied with
                  | false => rfl
                  | true => exact decodeLogin_eq

end Decoding

/-! ### The encoding -/

def wordBytes (value : UInt32) : List UInt8 :=
  [value.toUInt8, (value >>> 8).toUInt8, (value >>> 16).toUInt8, (value >>> 24).toUInt8]

/-- `len(name) || name || len(key) || key`. -/
def loginBytes (name key : List UInt8) : List UInt8 :=
  wordBytes (UInt32.ofNat name.length) ++ (name ++ (wordBytes (UInt32.ofNat key.length) ++ key))

def encodeLogin (name key : List UInt8) (padding : Bytes) : Bytes :=
  padding.copy (.ofList (loginBytes name key)) (loginBytes name key).length

/-- A package name and a key within the limits. -/
structure LoginPair where
  name : List UInt8
  key : List UInt8
  named : 0 < name.length
  nameFits : name.length < maxPackageNameLen.toNat
  text : ∀ byte ∈ name, byte ≠ 0
  keyFits : key.length ≤ maxPubkeyLen.toNat

/-- Exactly the name and the key are stored, with their lengths. -/
structure LoginPair.StoredIn (pair : LoginPair) (fields : LoginFields) : Prop where
  nameLen : fields.pkgNameLen.toNat = pair.name.length
  name : fields.pkgName.take pair.name.length = pair.name
  terminated : fields.pkgName pair.name.length = 0
  keyLen : fields.pubKeyLen.toNat = pair.key.length
  key : fields.pubKey.take pair.key.length = pair.key
  setup : fields.loginSetup = true

section Encoding

theorem take_ofList (bytes : List UInt8) : (Bytes.ofList bytes).take bytes.length = bytes := by
  change (List.range bytes.length).map (fun position => bytes.getD position 0) = bytes
  apply List.ext_getElem
  · rw [List.length_map, List.length_range]
  · intro index inRange inside
    rw [List.getElem_map, List.getElem_range]
    rw [List.getD_eq_getElem?_getD, List.getElem?_eq_getElem inside, Option.getD_some]

theorem take_add (bytes : Bytes) (first second : Nat) :
    bytes.take (first + second) = bytes.take first ++ (bytes.drop first).take second := by
  change (List.range (first + second)).map (fun position => bytes position) =
    (List.range first).map (fun position => bytes position) ++
      (List.range second).map fun position => bytes (position + first)
  rw [List.range_add, List.map_append, List.map_map]
  congr 2
  funext position
  exact congrArg bytes (Nat.add_comm first position)

theorem take_append {bytes : Bytes} {first second : List UInt8}
    (starts : bytes.take (first ++ second).length = first ++ second) :
    bytes.take first.length = first ∧ (bytes.drop first.length).take second.length = second := by
  rw [List.length_append, take_add] at starts
  exact List.append_inj starts (Bytes.length_take _ _)

theorem word_wordBytes (value : UInt32) :
    value.toUInt8.toUInt32 ||| (value >>> 8).toUInt8.toUInt32 <<< 8 |||
      (value >>> 16).toUInt8.toUInt32 <<< 16 ||| (value >>> 24).toUInt8.toUInt32 <<< 24 = value := by
  have first : value.toUInt8.toUInt32.toBitVec = (value.toBitVec.setWidth 8).setWidth 32 := rfl
  have second : ((value >>> 8).toUInt8.toUInt32 <<< 8).toBitVec =
      (((value.toBitVec >>> 8).setWidth 8).setWidth 32) <<< 8 := rfl
  have third : ((value >>> 16).toUInt8.toUInt32 <<< 16).toBitVec =
      (((value.toBitVec >>> 16).setWidth 8).setWidth 32) <<< 16 := rfl
  have fourth : ((value >>> 24).toUInt8.toUInt32 <<< 24).toBitVec =
      (((value.toBitVec >>> 24).setWidth 8).setWidth 32) <<< 24 := rfl
  apply UInt32.toBitVec_inj.mp
  rw [UInt32.toBitVec_or, UInt32.toBitVec_or, UInt32.toBitVec_or, first, second, third, fourth]
  apply BitVec.eq_of_getLsbD_eq
  intro bit inside
  simp only [BitVec.getLsbD_or, BitVec.getLsbD_setWidth, BitVec.getLsbD_shiftLeft,
    BitVec.getLsbD_ushiftRight, inside, decide_true, Bool.true_and]
  by_cases inFirst : bit < 8
  · simp [inFirst, show bit < 16 by omega, show bit < 24 by omega]
  · by_cases inSecond : bit < 16
    · have offset : 8 + (bit - 8) = bit := by omega
      simp [inFirst, inSecond, show bit < 24 by omega, offset, show bit - 8 < 8 by omega]
      omega
    · by_cases inThird : bit < 24
      · have offset : 16 + (bit - 16) = bit := by omega
        simp [inFirst, inSecond, inThird, offset, show bit - 16 < 8 by omega,
          show ¬bit - 8 < 8 by omega]
        omega
      · have offset : 24 + (bit - 24) = bit := by omega
        simp [inFirst, inSecond, inThird, offset, show bit - 24 < 8 by omega,
          show ¬bit - 8 < 8 by omega, show ¬bit - 16 < 8 by omega]
        omega

theorem word_of_take {bytes : Bytes} {value : UInt32}
    (starts : bytes.take (wordBytes value).length = wordBytes value) : bytes.word 0 = value := by
  have each : [bytes 0, bytes 1, bytes 2, bytes 3] = wordBytes value := starts
  unfold wordBytes at each
  injection each with first rest
  injection rest with second rest
  injection rest with third rest
  injection rest with fourth _
  unfold Bytes.word
  rw [first, second, third, fourth]
  exact word_wordBytes value

theorem strnlen_of_take {text : List UInt8} :
    ∀ {bytes : Bytes}, bytes.take text.length = text → (∀ byte ∈ text, byte ≠ 0) →
      bytes.strnlen text.length = text.length := by
  induction text with
  | nil =>
      intro bytes _ _
      rfl
  | cons byte rest ih =>
      intro bytes starts nonzero
      obtain ⟨head, tail⟩ := @take_append bytes [byte] rest starts
      have first : bytes 0 = byte := List.singleton_injective head
      have set : bytes 0 ≠ 0 := by
        rw [first]
        exact nonzero byte List.mem_cons_self
      change (bytes.drop 1).take rest.length = rest at tail
      rw [List.length_cons, Bytes.strnlen, if_neg set,
        ih tail fun other member => nonzero other (List.mem_cons_of_mem byte member)]

end Encoding

section Stored

variable {pair : LoginPair} {padding : Bytes}

/-- The parts of an encoding, where the parsers look for them. -/
structure LoginPair.Parts (pair : LoginPair) (cert : Bytes) : Prop where
  nameLen : cert.word 0 = UInt32.ofNat pair.name.length
  name : (cert.drop 4).take pair.name.length = pair.name
  keyLen : ((cert.drop 4).drop pair.name.length).word 0 = UInt32.ofNat pair.key.length
  key : (((cert.drop 4).drop pair.name.length).drop 4).take pair.key.length = pair.key

theorem encodeLogin_parts : pair.Parts (encodeLogin pair.name pair.key padding) := by
  have whole : (encodeLogin pair.name pair.key padding).take
      (loginBytes pair.name pair.key).length = loginBytes pair.name pair.key := by
    unfold encodeLogin
    rw [Bytes.take_copy _ _ (Nat.le_refl _), take_ofList]
  obtain ⟨nameLen, afterLen⟩ := take_append whole
  obtain ⟨name, afterName⟩ := take_append afterLen
  obtain ⟨keyLen, key⟩ := take_append afterName
  exact ⟨word_of_take nameLen, name, word_of_take keyLen, key⟩

theorem LoginPair.nameLen_toNat (pair : LoginPair) :
    (UInt32.ofNat pair.name.length).toNat = pair.name.length := by
  have fits : pair.name.length < 255 := pair.nameFits
  rw [UInt32.toNat_ofNat']
  omega

theorem LoginPair.keyLen_toNat (pair : LoginPair) :
    (UInt32.ofNat pair.key.length).toNat = pair.key.length := by
  have fits : pair.key.length ≤ 1024 := pair.keyFits
  rw [UInt32.toNat_ofNat']
  omega

theorem strncpyS_text {dest src : Bytes} {text : List UInt8} {destMax : Nat}
    (starts : src.take text.length = text) (nonzero : ∀ byte ∈ text, byte ≠ 0)
    (fits : text.length < destMax) (small : destMax ≤ securecStringMaxLen) :
    (strncpyS dest destMax src text.length).1 = 0 ∧
      (strncpyS dest destMax src text.length).2.take text.length = text ∧
      (strncpyS dest destMax src text.length).2 text.length = 0 := by
  have length := strnlen_of_take starts nonzero
  have room : ¬(text.length > securecStringMaxLen ∨ destMax ≤ src.strnlen text.length) := by
    rw [length]
    omega
  unfold strncpyS
  rw [if_neg room, length]
  refine ⟨rfl, ?_, ?_⟩
  · rw [Bytes.take_copy _ _ (Nat.le_refl _)]
    exact starts
  · have atEnd : dest.copy (.ofList []) (text.length + 1) text.length = 0 :=
      if_pos (Nat.lt_succ_self _)
    exact (if_neg (Nat.lt_irrefl _)).trans atEnd

theorem parseKey_stores {fields : LoginFields} {cert : Bytes}
    (keyLen : cert.word 0 = UInt32.ofNat pair.key.length)
    (key : (cert.drop 4).take pair.key.length = pair.key) :
    ∃ pubKey : Bytes, pubKey.take pair.key.length = pair.key ∧
      parseKey fields cert = (0, { fields with
        pubKey := pubKey
        pubKeyLen := UInt32.ofNat pair.key.length
        loginSetup := true }) := by
  have fits : pair.key.length ≤ 1024 := pair.keyFits
  have short : ¬UInt32.ofNat pair.key.length > maxPubkeyLen := by
    rw [gt_iff_lt, UInt32.lt_iff_toNat_lt, pair.keyLen_toNat]
    exact Nat.not_lt.mpr fits
  unfold parseKey
  simp only
  rw [keyLen, if_neg short]
  by_cases keyless : UInt32.ofNat pair.key.length = 0
  · have empty : pair.key.length = 0 := by
      rw [← pair.keyLen_toNat, keyless]
      rfl
    rw [if_pos keyless]
    refine ⟨fields.pubKey, ?_, rfl⟩
    rw [List.eq_nil_of_length_eq_zero empty]
    rfl
  · have copies : memcpyS maxPubkeyLen.toNat (UInt32.ofNat pair.key.length).toNat false = 0 := by
      rw [pair.keyLen_toNat]
      exact memcpyS_eq_zero.mpr ⟨by decide, by decide, fits, rfl⟩
    rw [if_neg keyless, if_neg (not_not_intro copies), pair.keyLen_toNat]
    refine ⟨_, ?_, rfl⟩
    rw [Bytes.take_copy _ _ (Nat.le_refl _)]
    exact key

theorem parseLogin_stores {fields : LoginFields} {cert : Bytes} (parts : pair.Parts cert) :
    (parseLogin fields cert).1 = 0 ∧ pair.StoredIn (parseLogin fields cert).2 := by
  have fits : pair.name.length < 255 := pair.nameFits
  have inside : ¬(UInt32.ofNat pair.name.length = 0 ∨
      UInt32.ofNat pair.name.length ≥ maxPackageNameLen) := by
    rw [not_or, ge_iff_le, UInt32.not_le, UInt32.lt_iff_toNat_lt, pair.nameLen_toNat]
    refine ⟨?_, fits⟩
    intro zero
    have named := pair.named
    rw [← pair.nameLen_toNat, zero] at named
    exact absurd named (by decide)
  obtain ⟨copied, name, terminated⟩ := @strncpyS_text fields.pkgName (cert.drop 4) pair.name
    maxPackageNameLen.toNat parts.name pair.text fits (by decide)
  obtain ⟨pubKey, key, stores⟩ := @parseKey_stores pair
    { fields with
      pkgNameLen := UInt32.ofNat pair.name.length
      pkgName := (strncpyS fields.pkgName maxPackageNameLen.toNat (cert.drop 4)
        pair.name.length).2 } _ parts.keyLen parts.key
  unfold parseLogin
  simp only
  rw [parts.nameLen, if_neg inside, pair.nameLen_toNat, if_neg (not_not_intro copied), stores]
  exact ⟨rfl, pair.nameLen_toNat, name, terminated, pair.keyLen_toNat, key, rfl⟩

end Stored

/-- No login reads outside of the bytes that it has copied in, and a login on a new dev_file
stores exactly the name and the key of an encoding. -/
theorem login_buffer_decoded (pair : LoginPair) (padding : Bytes) :
    (∀ fields attempt, ∃ result, checkedLoginFunc fields attempt = some result) ∧
      ∃ fields, checkedLoginFunc .opened
          ⟨true, some (encodeLogin pair.name pair.key padding), true, true⟩ = some (0, fields) ∧
        pair.StoredIn fields := by
  constructor
  · intro fields attempt
    exact ⟨_, checkedLoginFunc_eq fields attempt⟩
  · have login : tcNsClientLoginFunc .opened
        ⟨true, some (encodeLogin pair.name pair.key padding), true, true⟩ =
          parseLogin .opened (encodeLogin pair.name pair.key padding) := rfl
    obtain ⟨success, stored⟩ := @parseLogin_stores pair .opened _ (@encodeLogin_parts pair padding)
    refine ⟨_, ?_, stored⟩
    rw [checkedLoginFunc_eq, login, ← success]

/-- The name `cam` and a key of four bytes. -/
def camPair : LoginPair where
  name := [99, 97, 109]
  key := [7, 0, 0, 9]
  named := by decide
  nameFits := by decide
  text := by simp
  keyFits := by decide

theorem login_buffer_decoded_cam :
    ∃ fields : LoginFields, checkedLoginFunc .opened
        ⟨true, some (encodeLogin [99, 97, 109] [7, 0, 0, 9] fun _ => 0xff), true, true⟩ =
          some (0, fields) ∧
      fields.pkgNameLen.toNat = 3 ∧ fields.pkgName.take 3 = [99, 97, 109] ∧
      fields.pubKeyLen.toNat = 4 ∧ fields.pubKey.take 4 = [7, 0, 0, 9] := by
  obtain ⟨fields, accepted, stored⟩ := (login_buffer_decoded camPair fun _ => 0xff).2
  exact ⟨fields, accepted, stored.nameLen, stored.name, stored.keyLen, stored.key⟩

end TzDriver.Login
