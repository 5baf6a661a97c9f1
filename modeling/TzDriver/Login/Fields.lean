/-
The login fields of a dev_file (`struct tc_ns_dev_file` in `teek_ns_client.h`) and
the byte functions that the login parsers use.
-/

import TzDriver.Session.LoginInfo

namespace TzDriver.Login

open TzDriver.Session

def Bytes : Type := Nat → UInt8

namespace Bytes

def word (bytes : Bytes) (offset : Nat) : UInt32 :=
  (bytes offset).toUInt32 ||| (bytes (offset + 1)).toUInt32 <<< 8 |||
    (bytes (offset + 2)).toUInt32 <<< 16 ||| (bytes (offset + 3)).toUInt32 <<< 24

def drop (bytes : Bytes) (count : Nat) : Bytes :=
  fun position => bytes (position + count)

/-- `dest` with the first `count` bytes of `src` over it. -/
def copy (dest src : Bytes) (count : Nat) : Bytes :=
  fun position => if position < count then src position else dest position

def ofList (bytes : List UInt8) : Bytes :=
  fun position => bytes.getD position 0

def ofWord (value : UInt32) : Bytes :=
  .ofList [value.toUInt8, (value >>> 8).toUInt8, (value >>> 16).toUInt8, (value >>> 24).toUInt8]

def strnlen (bytes : Bytes) : Nat → Nat
  | 0 => 0
  | count + 1 => if bytes 0 = 0 then 0 else (bytes.drop 1).strnlen count + 1

theorem strnlen_le_of_zero {bytes : Bytes} {count end_ : Nat} (inside : end_ < count)
    (zero : bytes end_ = 0) : bytes.strnlen count ≤ end_ := by
  induction count generalizing bytes end_ with
  | zero => exact absurd inside (Nat.not_lt_zero end_)
  | succ count ih =>
      rw [strnlen]
      split
      · exact Nat.zero_le _
      · next first =>
          cases end_ with
          | zero => exact absurd zero first
          | succ rest => exact Nat.succ_le_succ (ih (Nat.lt_of_succ_lt_succ inside) zero)

end Bytes

def securecStringMaxLen : Nat := 0x7fffffff

/-- `strncpy_s(dest, destMax, src, count)` between separate areas. -/
def strncpyS (dest : Bytes) (destMax : Nat) (src : Bytes) (count : Nat) : Int × Bytes :=
  if count > securecStringMaxLen ∨ destMax ≤ src.strnlen count then
    (eRangeAndReset, dest.copy (.ofList [0]) 1)
  else
    (0, (dest.copy (.ofList []) (src.strnlen count + 1)).copy src (src.strnlen count))

structure LoginFields where
  pkgName : Bytes
  pkgNameLen : UInt32
  pubKey : Bytes
  pubKeyLen : UInt32
  loginSetup : Bool

/-- The zeroed dev_file of `tc_ns_client_open`. -/
def LoginFields.opened : LoginFields :=
  { pkgName := .ofList [], pkgNameLen := 0, pubKey := .ofList [], pubKeyLen := 0
    loginSetup := false }

/-- Both lengths are those of something that fits into its field. -/
structure LoginFields.Fit (fields : LoginFields) : Prop where
  name : fields.pkgNameLen < maxPackageNameLen
  key : fields.pubKeyLen ≤ maxPubkeyLen

theorem LoginFields.opened_fit : LoginFields.opened.Fit :=
  ⟨by decide, by decide⟩

/-- The part of a login field that a call reads. -/
inductive FieldRead where
  | name (length : Nat)
  | key (length : Nat)
deriving DecidableEq, Repr

/-- The read stays inside `pkg_name[MAX_PACKAGE_NAME_LEN]` or
`pub_key[MAX_PUBKEY_LEN]`. -/
def FieldRead.Inside : FieldRead → Prop
  | .name length => length ≤ maxPackageNameLen.toNat
  | .key length => length ≤ maxPubkeyLen.toNat

theorem LoginFields.Fit.name_inside {fields : LoginFields} (fit : fields.Fit) :
    (FieldRead.name fields.pkgNameLen.toNat).Inside := by
  have bound := UInt32.lt_iff_toNat_lt.mp fit.name
  exact Nat.le_of_lt bound

theorem LoginFields.Fit.key_inside {fields : LoginFields} (fit : fields.Fit) :
    (FieldRead.key fields.pubKeyLen.toNat).Inside :=
  UInt32.le_iff_toNat_le.mp fit.key

end TzDriver.Login
