/-
The name of a user (`tc_ns_get_uname` in `linux/auth/client_hash_auth.c`,
CONFIG_AUTH_SUPPORT_UNAME).

`parse_uname` gives its error as an unsigned number, and `read_line` leaves the offset at
the newline.
-/

import TzDriver.Lib.Words
import TzDriver.Platform

namespace TzDriver.Auth

open TzDriver.Lib

def newline : UInt8 := 10
def colon : UInt8 := 58

def fixedPkgNameLength : Nat := 256

/-- The string in a buffer with these bytes. -/
def cString (bytes : List UInt8) : List UInt8 :=
  bytes.takeWhile (· != 0)

/-! ### One line -/

def isDigit (char : UInt8) : Bool :=
  48 ≤ char && char ≤ 57

/-- The loop of `uid_compare`. -/
def uidLoop : List UInt8 → UInt32 → Option UInt32
  | [], uidNum => some uidNum
  | char :: rest, uidNum =>
      if isDigit char = false then none
      else uidLoop rest (10 * uidNum + (char - 48).toUInt32)

def uidCompare (uid : UInt32) (uidStr : List UInt8) : Int :=
  match uidLoop uidStr 0 with
  | none => -1
  | some uidNum => if uidNum = uid then 0 else -1

/-- `strsep(&str, ":")`: the token and what `str` is after it. -/
def strsep : Option (List UInt8) → Option (List UInt8) × Option (List UInt8)
  | none => (none, none)
  | some text =>
      (some (text.takeWhile (· != colon)),
        match text.dropWhile (· != colon) with
        | [] => none
        | _ :: rest => some rest)

/-- The loop of `parse_uname` with `left` more tokens to take. -/
def tokenLoop : Nat → Option (List UInt8) → Option (List UInt8) → Option (List UInt8)
  | 0, token, _ => token
  | _ + 1, none, _ => none
  | left + 1, some _, str => tokenLoop left (strsep str).1 (strsep str).2

/-- `strcpy_s` of a string onto itself. -/
def strcpySelf (destMax length : Nat) : Int :=
  if length < destMax then 0 else eRangeAndReset

/-- `parse_uname`: the value returned and the string it leaves in the buffer. -/
def parseUname (uid : UInt32) (line : List UInt8) (bufferLen : Nat) : UInt32 × List UInt8 :=
  let first := strsep (some line)
  let tempName := first.1.getD []
  match tokenLoop 2 first.1 first.2 with
  | none => (0xFFFFFFFF, tempName)
  | some token =>
      if uidCompare uid token ≠ 0 then (0xFFFFFFFF, tempName)
      else if strcpySelf bufferLen tempName.length ≠ 0 then (0xFFFFFFFF, [])
      else (UInt32.ofNat tempName.length, tempName)

/-! ### The file -/

/-- The file, whether `filp_open` succeeds, and whether each `kernel_read` does. -/
structure PasswdFile where
  content : List UInt8
  opened : Bool
  reads : Nat → Bool

/-- What `tc_ns_get_uname` returns, `*out_len` where it was set, and the string in the
buffer. -/
structure Uname where
  ret : Int
  outLen : Option UInt32
  username : List UInt8
deriving DecidableEq, Repr

/-- The loop of `tc_ns_get_uname`.  A buffer without a terminator is no string: `none`, as for
a loop that has not ended. -/
def unameLoop (file : PasswdFile) (uid : UInt32) (bufferLen : Nat) :
    Nat → Nat → Nat → List UInt8 → Option Uname
  | 0, _, _, _ => none
  | fuel + 1, number, offset, username =>
      if file.reads number = false then some ⟨-1, none, username⟩
      else
        let buf := (file.content.drop offset).take bufferLen
        let line := buf.takeWhile (· != newline)
        let next :=
          if line.length < buf.length then offset + buf.length - (buf.length - line.length)
          else offset + buf.length
        if line.length < bufferLen then
          let parsed := parseUname uid (cString line) bufferLen
          if parsed.1 ≥ 0 then some ⟨0, some parsed.1, parsed.2⟩
          else unameLoop file uid bufferLen fuel (number + 1) next parsed.2
        else none

/-- `tc_ns_get_uname` on its buffer of `FIXED_PKG_NAME_LENGTH` zero bytes, with at most `fuel`
lines. -/
def tcNsGetUname (file : PasswdFile) (uid : UInt32) (fuel : Nat) : Option Uname :=
  if file.opened = false then some ⟨-1, none, []⟩
  else unameLoop file uid fixedPkgNameLength fuel 0 0 []

/-! ### What the lookup is for -/

def decimalFrom (start : Nat) (digits : List UInt8) : Nat :=
  digits.foldl (fun value char => 10 * value + (char.toNat - 48)) start

def decimalValue (digits : List UInt8) : Nat :=
  decimalFrom 0 digits

def linesOf (content : List UInt8) : List (List UInt8) :=
  content.splitOn newline

def fieldsOf (line : List UInt8) : List (List UInt8) :=
  line.splitOn colon

def nameOf (line : List UInt8) : List UInt8 :=
  (fieldsOf line).headD []

/-- The third field is a non-empty decimal numeral of value `uid`. -/
def hasUid (uid : UInt32) (line : List UInt8) : Bool :=
  match (fieldsOf line)[2]? with
  | none => false
  | some field => field != [] && field.all isDigit && decimalValue field == uid.toNat

/-- The first line of the user decides. -/
def LooksUp (content : List UInt8) (uid : UInt32) (result : Uname) : Prop :=
  match (linesOf content).find? (hasUid uid) with
  | none => result.ret ≠ 0
  | some line =>
      result = ⟨0, some (UInt32.ofNat (nameOf line).length), nameOf line⟩

/-! ### Fields and lines -/

section Fields

variable {uid : UInt32}

theorem splitOn_eq (separator : UInt8) (text : List UInt8) :
    text.splitOn separator =
      text.takeWhile (· != separator) ::
        match text.dropWhile (· != separator) with
        | [] => []
        | _ :: rest => rest.splitOn separator := by
  induction text with
  | nil => rfl
  | cons char rest ih =>
      rw [List.splitOn_cons_eq_if_modifyHead]
      by_cases same : char = separator
      · subst same
        simp
      · have other : (char != separator) = true := bne_iff_ne.mpr same
        have kept : (char :: rest).takeWhile (· != separator) =
            char :: rest.takeWhile (· != separator) := List.takeWhile_cons_of_pos other
        have dropped : (char :: rest).dropWhile (· != separator) =
            rest.dropWhile (· != separator) := List.dropWhile_cons_of_pos other
        rw [if_neg (by simpa using same), ih, kept, dropped]
        rfl

theorem tokenLoop_eq (left : Nat) :
    ∀ text : List UInt8,
      tokenLoop left (strsep (some text)).1 (strsep (some text)).2 = (fieldsOf text)[left]? := by
  induction left with
  | zero =>
      intro text
      unfold fieldsOf
      rw [splitOn_eq]
      rfl
  | succ left ih =>
      intro text
      unfold fieldsOf
      rw [splitOn_eq, List.getElem?_cons_succ]
      change tokenLoop left (strsep (strsep (some text)).2).1 (strsep (strsep (some text)).2).2 = _
      unfold strsep
      simp only
      cases text.dropWhile (· != colon) with
      | nil =>
          cases left with
          | zero => rfl
          | succ left => rfl
      | cons char rest => exact ih rest

theorem decimalFrom_mod (digits : List UInt8) :
    ∀ start : Nat, decimalFrom (start % 4294967296) digits % 4294967296 =
      decimalFrom start digits % 4294967296 := by
  induction digits with
  | nil =>
      intro start
      exact Nat.mod_mod _ _
  | cons char rest ih =>
      intro start
      change decimalFrom (10 * (start % 4294967296) + (char.toNat - 48)) rest % 4294967296 =
        decimalFrom (10 * start + (char.toNat - 48)) rest % 4294967296
      have same : (10 * (start % 4294967296) + (char.toNat - 48)) % 4294967296 =
          (10 * start + (char.toNat - 48)) % 4294967296 := by omega
      rw [← ih, same, ih]

theorem isDigit_iff (char : UInt8) : isDigit char = true ↔ 48 ≤ char.toNat ∧ char.toNat ≤ 57 := by
  unfold isDigit
  rw [Bool.and_eq_true, decide_eq_true_eq, decide_eq_true_eq, UInt8.le_iff_toNat_le,
    UInt8.le_iff_toNat_le]
  rfl

theorem uidLoop_eq (digits : List UInt8) :
    ∀ start : UInt32, uidLoop digits start =
      if digits.all isDigit then some (UInt32.ofNat (decimalFrom start.toNat digits)) else none := by
  induction digits with
  | nil =>
      intro start
      simp [uidLoop, decimalFrom]
  | cons char rest ih =>
      intro start
      unfold uidLoop
      cases digit : isDigit char with
      | false => simp [digit]
      | true =>
          obtain ⟨above, below⟩ := (isDigit_iff char).mp digit
          have next : (10 * start + (char - 48).toUInt32).toNat =
              (10 * start.toNat + (char.toNat - 48)) % 4294967296 := by
            have ten : (10 : UInt32).toNat = 10 := rfl
            have zero : (48 : UInt8).toNat = 48 := rfl
            have least : (48 : UInt8) ≤ char := UInt8.le_iff_toNat_le.mpr above
            rw [UInt32.toNat_add, UInt32.toNat_mul, UInt8.toNat_toUInt32,
              UInt8.toNat_sub_of_le _ _ least, ten, zero]
            omega
          have wraps : UInt32.ofNat (decimalFrom ((10 * start.toNat + (char.toNat - 48)) % 4294967296)
              rest) = UInt32.ofNat (decimalFrom start.toNat (char :: rest)) := by
            apply UInt32.toNat_inj.mp
            rw [UInt32.toNat_ofNat', UInt32.toNat_ofNat']
            exact decimalFrom_mod rest _
          rw [if_neg (by decide), ih, next, wraps, List.all_cons, digit, Bool.true_and]

/-- `uid_compare` accepts digits of any value that is `uid` in 32 bits. -/
theorem uidCompare_eq_zero (uid : UInt32) (field : List UInt8) :
    uidCompare uid field = 0 ↔
      field.all isDigit = true ∧ decimalValue field % 4294967296 = uid.toNat := by
  have zero : (0 : UInt32).toNat = 0 := rfl
  unfold uidCompare decimalValue
  rw [uidLoop_eq, zero]
  by_cases digits : field.all isDigit = true
  · rw [if_pos digits, and_iff_right digits]
    simp only
    by_cases same : UInt32.ofNat (decimalFrom 0 field) = uid
    · rw [if_pos same, ← same, UInt32.toNat_ofNat']
      exact iff_of_true rfl rfl
    · rw [if_neg same]
      apply iff_of_false (by decide)
      intro value
      apply same
      apply UInt32.toNat_inj.mp
      rw [UInt32.toNat_ofNat']
      exact value
  · rw [if_neg digits]
    exact iff_of_false (show ¬(-1 : Int) = 0 by decide) fun both => digits both.1

/-- What `parse_uname` accepts: digits in the third field that are `uid` in 32 bits. -/
def acceptsUid (uid : UInt32) (line : List UInt8) : Bool :=
  match (fieldsOf line)[2]? with
  | none => false
  | some field => field.all isDigit && decimalValue field % 4294967296 == uid.toNat

theorem nameOf_eq (line : List UInt8) : nameOf line = line.takeWhile (· != colon) := by
  unfold nameOf fieldsOf
  rw [splitOn_eq]
  rfl

theorem nameOf_length (line : List UInt8) : (nameOf line).length ≤ line.length := by
  rw [nameOf_eq]
  exact (List.takeWhile_sublist _).length_le

theorem parseUname_eq (uid : UInt32) {line : List UInt8} {bufferLen : Nat}
    (short : line.length < bufferLen) :
    parseUname uid line bufferLen =
      (if acceptsUid uid line then UInt32.ofNat (nameOf line).length else 0xFFFFFFFF,
        nameOf line) := by
  have name : (strsep (some line)).1.getD [] = nameOf line := (nameOf_eq line).symm
  have fits : strcpySelf bufferLen (nameOf line).length = 0 :=
    if_pos (Nat.lt_of_le_of_lt (nameOf_length line) short)
  unfold parseUname
  simp only
  rw [tokenLoop_eq 2 line, name, fits]
  cases third : (fieldsOf line)[2]? with
  | none =>
      have refuses : acceptsUid uid line = false := by
        unfold acceptsUid
        rw [third]
      rw [refuses]
      rfl
  | some field =>
      have accepts : acceptsUid uid line = true ↔ uidCompare uid field = 0 := by
        unfold acceptsUid
        rw [third, uidCompare_eq_zero, Bool.and_eq_true, beq_iff_eq]
      by_cases same : uidCompare uid field = 0
      · rw [accepts.mpr same]
        simp only [same, ne_eq, not_true_eq_false, if_false, if_true]
      · have refuses : acceptsUid uid line = false :=
          Bool.eq_false_iff.mpr fun yes => same (accepts.mp yes)
        rw [refuses]
        simp only [same, ne_eq, not_false_eq_true, if_true]
        rfl

end Fields

/-! ### The first line decides -/

section Lookup

variable {content : List UInt8} {uid : UInt32}

def PasswdFile.working (content : List UInt8) : PasswdFile :=
  ⟨content, true, fun _ => true⟩

def firstLine (content : List UInt8) : List UInt8 :=
  cString (content.takeWhile (· != newline))

/-- The error of `parse_uname`, an `uint32_t` with the value `-1`. -/
def parsed (uid : UInt32) (line : List UInt8) : UInt32 :=
  if acceptsUid uid line then UInt32.ofNat (nameOf line).length else 0xFFFFFFFF

theorem takeWhile_mem_linesOf (content : List UInt8) :
    content.takeWhile (· != newline) ∈ linesOf content := by
  unfold linesOf
  rw [splitOn_eq]
  exact List.mem_cons_self

/-- The loop ends with its first line: no unsigned number is below zero. -/
theorem tcNsGetUname_eq (shortLines : ∀ line ∈ linesOf content, line.length < fixedPkgNameLength)
    (fuel : Nat) :
    tcNsGetUname (PasswdFile.working content) uid (fuel + 1) =
      some ⟨0, some (parsed uid (firstLine content)), nameOf (firstLine content)⟩ := by
  have short := shortLines _ (takeWhile_mem_linesOf content)
  have whole : ((content.drop 0).take fixedPkgNameLength).takeWhile (· != newline) =
      content.takeWhile (· != newline) := by
    rw [List.drop_zero, ← List.take_takeWhile]
    exact List.take_of_length_le (Nat.le_of_lt short)
  have cut : (firstLine content).length < fixedPkgNameLength :=
    Nat.lt_of_le_of_lt (List.takeWhile_sublist _).length_le short
  have line : parseUname uid (firstLine content) fixedPkgNameLength =
      (parsed uid (firstLine content), nameOf (firstLine content)) := parseUname_eq uid cut
  have unsigned : parsed uid (firstLine content) ≥ 0 := UInt32.le_iff_toNat_le.mpr (Nat.zero_le _)
  unfold tcNsGetUname unameLoop PasswdFile.working
  simp only [Bool.true_eq_false, if_false]
  rw [whole, if_pos short]
  unfold firstLine at line unsigned ⊢
  rw [line, if_pos unsigned]

theorem nameOf_mem_length {line : List UInt8}
    (shortLines : ∀ line ∈ linesOf content, line.length < fixedPkgNameLength)
    (member : line ∈ linesOf content) : (nameOf line).length < 256 :=
  Nat.lt_of_le_of_lt (nameOf_length line) (shortLines line member)

theorem parsed_eq_iff {line : List UInt8} {length : Nat} (small : length < 256)
    (short : (nameOf line).length < 256) :
    parsed uid line = UInt32.ofNat length ↔
      acceptsUid uid line = true ∧ (nameOf line).length = length := by
  unfold parsed
  cases acceptsUid uid line with
  | false =>
      apply iff_of_false
      · intro same
        have values := congrArg UInt32.toNat same
        rw [if_neg (by decide), UInt32.toNat_ofNat'] at values
        have error : (0xFFFFFFFF : UInt32).toNat = 4294967295 := rfl
        omega
      · intro both
        cases both.1
  | true =>
      rw [if_pos rfl, and_iff_right rfl]
      constructor
      · intro same
        have values := congrArg UInt32.toNat same
        rw [UInt32.toNat_ofNat', UInt32.toNat_ofNat'] at values
        omega
      · intro same
        rw [same]

/-- What every run leaves is what a lookup is for. -/
def UnameFound (content : List UInt8) (uid : UInt32) : Prop :=
  ∃ result, (∀ fuel, tcNsGetUname (PasswdFile.working content) uid (fuel + 1) = some result) ∧
    LooksUp content uid result

/-- The name is the user's where `parse_uname` accepts the first line and that line has the
name of the first one with the uid. -/
theorem tcNsGetUname_correct_iff (content : List UInt8) (uid : UInt32)
    (shortLines : ∀ line ∈ linesOf content, line.length < fixedPkgNameLength) :
    UnameFound content uid ↔
      ∃ line, (linesOf content).find? (hasUid uid) = some line ∧
        acceptsUid uid (firstLine content) = true ∧
        nameOf (firstLine content) = nameOf line := by
  have runs : UnameFound content uid ↔ LooksUp content uid
      ⟨0, some (parsed uid (firstLine content)), nameOf (firstLine content)⟩ := by
    constructor
    · intro ⟨result, everyRun, looks⟩
      have first := everyRun 0
      rw [tcNsGetUname_eq shortLines] at first
      cases first
      exact looks
    · intro looks
      exact ⟨_, tcNsGetUname_eq shortLines, looks⟩
  rw [runs]
  unfold LooksUp
  have shortFirst : (nameOf (firstLine content)).length < 256 := by
    have cut : (firstLine content).length ≤ (content.takeWhile (· != newline)).length :=
      (List.takeWhile_sublist _).length_le
    have short := shortLines _ (takeWhile_mem_linesOf content)
    exact Nat.lt_of_le_of_lt (Nat.le_trans (nameOf_length _) cut) short
  cases user : (linesOf content).find? (hasUid uid) with
  | none =>
      apply iff_of_false
      · intro error
        exact error rfl
      · intro ⟨line, impossible, _⟩
        cases impossible
  | some line =>
      have small := nameOf_mem_length shortLines (List.mem_of_find?_eq_some user)
      simp only [Uname.mk.injEq, true_and, Option.some.injEq]
      rw [parsed_eq_iff small shortFirst]
      constructor
      · intro ⟨⟨accepted, _⟩, same⟩
        exact ⟨line, rfl, accepted, same⟩
      · intro ⟨_, rfl, accepted, same⟩
        exact ⟨⟨accepted, congrArg List.length same⟩, same⟩

def twoUsers : List UInt8 :=
  [114, 111, 111, 116, 58, 120, 58, 48, 10, 117, 115, 101, 114, 58, 120, 58, 49, 48, 48, 48]

theorem tcNsGetUname_correct_root :
    UnameFound twoUsers 0 ↔
      ∃ line, (linesOf twoUsers).find? (hasUid 0) = some line ∧
        acceptsUid 0 (firstLine twoUsers) = true ∧
        nameOf (firstLine twoUsers) = nameOf line :=
  tcNsGetUname_correct_iff twoUsers 0 (by decide +kernel)

/-- The second user gets the first one's name and a length of `0xFFFFFFFF`, as does a uid
that no line has. -/
theorem second_user_gets_first_name :
    (∀ line ∈ linesOf twoUsers, line.length < fixedPkgNameLength) ∧
      (linesOf twoUsers).find? (hasUid 1000) =
        some [117, 115, 101, 114, 58, 120, 58, 49, 48, 48, 48] ∧
      (linesOf twoUsers).find? (hasUid 7) = none ∧
      tcNsGetUname (PasswdFile.working twoUsers) 1000 1 =
        some ⟨0, some 0xFFFFFFFF, [114, 111, 111, 116]⟩ ∧
      tcNsGetUname (PasswdFile.working twoUsers) 7 1 =
        some ⟨0, some 0xFFFFFFFF, [114, 111, 111, 116]⟩ ∧
      ¬UnameFound twoUsers 1000 ∧ ¬UnameFound twoUsers 7 := by
  have user : tcNsGetUname (PasswdFile.working twoUsers) 1000 1 =
      some ⟨0, some 0xFFFFFFFF, [114, 111, 111, 116]⟩ := by decide +kernel
  have nobody : tcNsGetUname (PasswdFile.working twoUsers) 7 1 =
      some ⟨0, some 0xFFFFFFFF, [114, 111, 111, 116]⟩ := by decide +kernel
  have second : (linesOf twoUsers).find? (hasUid 1000) =
      some [117, 115, 101, 114, 58, 120, 58, 49, 48, 48, 48] := by decide +kernel
  have missing : (linesOf twoUsers).find? (hasUid 7) = none := by decide +kernel
  apply And.intro
  · decide +kernel
  · refine ⟨second, missing, user, nobody, ?_, ?_⟩
    · intro ⟨result, everyRun, looks⟩
      have first := everyRun 0
      rw [user] at first
      cases first
      unfold LooksUp at looks
      rw [second] at looks
      simp only [Uname.mk.injEq] at looks
      exact absurd looks.2.2 (by decide)
    · intro ⟨result, everyRun, looks⟩
      have first := everyRun 0
      rw [nobody] at first
      cases first
      unfold LooksUp at looks
      rw [missing] at looks
      exact looks rfl

end Lookup

end TzDriver.Auth
