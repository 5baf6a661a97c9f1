/-
What the digest of a login tells about the identity behind it
(`construct_hashdata` in `linux/auth/client_hash_auth.c`).

The name and the key are joined without their lengths.
-/

import TzDriver.Login.Hash

namespace TzDriver.Login

open TzDriver.Session

namespace Hash

/-- Login fields within the limits that a login or the open of a kernel CA leaves, after
`set_login_information` has put the uid in the place of a missing key. -/
structure Caller where
  fields : LoginFields
  named : fields.pkgNameLen ≠ 0
  name : fields.pkgNameLen < maxPackageNameLen
  keyed : fields.pubKeyLen ≠ 0
  key : fields.pubKeyLen ≤ maxPubkeyLen

def Caller.identity (caller : Caller) : Identity :=
  caller.fields.identity

def Distinguishes (first second : Caller) : Prop :=
  ∀ indata, constructHashdata first.fields = some indata →
    constructHashdata second.fields = some indata → first.identity = second.identity

/-- The second name goes on with the first bytes of the first key. -/
def Shifted (first second : Identity) : Prop :=
  ∃ moved, moved ≠ [] ∧ second.name = first.name ++ moved ∧ first.key = moved ++ second.key

theorem constructHashdata_caller (caller : Caller) :
    constructHashdata caller.fields = some caller.identity.bytes := by
  have name : caller.fields.pkgNameLen.toNat < 255 := UInt32.lt_iff_toNat_lt.mp caller.name
  have key : caller.fields.pubKeyLen.toNat ≤ 1024 := UInt32.le_iff_toNat_le.mp caller.key
  have keyed : caller.fields.pubKeyLen.toNat ≠ 0 := fun zero =>
    caller.keyed (UInt32.toNat_inj.mp zero)
  have total : (caller.fields.pkgNameLen + caller.fields.pubKeyLen).toNat =
      caller.fields.pkgNameLen.toNat + caller.fields.pubKeyLen.toNat := by
    rw [UInt32.toNat_add]
    omega
  have rest : caller.fields.pkgNameLen + caller.fields.pubKeyLen - caller.fields.pkgNameLen =
      caller.fields.pubKeyLen := by
    rw [UInt32.add_comm]
    exact UInt32.add_sub_cancel _ _
  unfold constructHashdata
  simp only
  rw [rest, total,
    if_neg (not_not_intro (memcpyS_eq_zero.mpr ⟨by omega, by unfold securecMemMaxLen; omega,
      by omega, rfl⟩)),
    if_neg (not_not_intro (memcpyS_eq_zero.mpr ⟨by omega, by unfold securecMemMaxLen; omega,
      Nat.le_refl _, rfl⟩))]
  rfl

theorem identity_ext {first second : Identity} (name : first.name = second.name)
    (key : first.key = second.key) : first = second := by
  cases first
  cases second
  simp only at name key
  rw [name, key]

/-- Two identities of the same bytes are equal or shifted against each other. -/
theorem bytes_eq_iff (first second : Identity) :
    first.bytes = second.bytes ↔
      first = second ∨ Shifted first second ∨ Shifted second first := by
  unfold Identity.bytes
  rw [List.append_eq_append_iff]
  constructor
  · intro given
    rcases given with ⟨moved, name, key⟩ | ⟨moved, name, key⟩
    · by_cases nothing : moved = []
      · rw [nothing, List.append_nil] at name
        rw [nothing, List.nil_append] at key
        exact Or.inl (identity_ext name.symm key)
      · exact Or.inr (Or.inl ⟨moved, nothing, name, key⟩)
    · by_cases nothing : moved = []
      · rw [nothing, List.append_nil] at name
        rw [nothing, List.nil_append] at key
        exact Or.inl (identity_ext name key.symm)
      · exact Or.inr (Or.inr ⟨moved, nothing, name, key⟩)
  · intro given
    rcases given with same | ⟨moved, -, name, key⟩ | ⟨moved, -, name, key⟩
    · rw [same]
      exact Or.inl ⟨[], (List.append_nil _).symm, rfl⟩
    · exact Or.inl ⟨moved, name, key⟩
    · exact Or.inr ⟨moved, name, key⟩

theorem Shifted.ne {first second : Identity} (shifted : Shifted first second) : first ≠ second := by
  obtain ⟨moved, nonempty, name, -⟩ := shifted
  intro same
  rw [same] at name
  exact nonempty (List.append_cancel_left (name.symm.trans (List.append_nil _).symm))

/-- Two callers are told apart if and only if neither name goes on with bytes that start the
other's key before the own key. -/
theorem hash_input_distinguishes_iff (first second : Caller) :
    Distinguishes first second ↔
      ¬Shifted first.identity second.identity ∧ ¬Shifted second.identity first.identity := by
  constructor
  · intro distinguishes
    have told (same : first.identity.bytes = second.identity.bytes) :
        first.identity = second.identity := by
      apply distinguishes first.identity.bytes (constructHashdata_caller first)
      rw [same]
      exact constructHashdata_caller second
    constructor
    · intro shifted
      exact shifted.ne (told ((bytes_eq_iff _ _).mpr (Or.inr (Or.inl shifted))))
    · intro shifted
      exact shifted.ne (told ((bytes_eq_iff _ _).mpr (Or.inr (Or.inr shifted)))).symm
  · intro given indata fromFirst fromSecond
    have same : first.identity.bytes = second.identity.bytes := by
      rw [constructHashdata_caller first] at fromFirst
      rw [constructHashdata_caller second] at fromSecond
      exact Option.some.inj (fromFirst.trans fromSecond.symm)
    rcases (bytes_eq_iff _ _).mp same with equal | shifted | shifted
    · exact equal
    · exact absurd shifted given.1
    · exact absurd shifted given.2

def shortName : Caller :=
  { fields := ⟨.ofList [97], 1, .ofList [98, 99], 2, true⟩
    named := by decide
    name := by decide
    keyed := by decide
    key := by decide }

def longName : Caller :=
  { fields := ⟨.ofList [97, 98], 2, .ofList [99], 1, true⟩
    named := by decide
    name := by decide
    keyed := by decide
    key := by decide }

/-- Both callers are given the same digest in the place of their names. -/
theorem shifted_names_share_digest :
    ¬Distinguishes shortName longName ∧
      ∀ (sha256 : List UInt8 → Bytes) (env : Env), env.allocated = true → env.digested = true →
        (setLoginInformationHash sha256 env ⟨shortName.fields, false⟩).2.fields.identity.name =
          (setLoginInformationHash sha256 env ⟨longName.fields, false⟩).2.fields.identity.name := by
  have short : constructHashdata shortName.fields = some [97, 98, 99] := by decide
  have long : constructHashdata longName.fields = some [97, 98, 99] := by decide
  constructor
  · intro distinguishes
    have same := distinguishes [97, 98, 99] short long
    exact absurd same (by decide)
  · intro sha256 env allocated digested
    unfold setLoginInformationHash
    rw [short, long, allocated, digested]
    refine (Bytes.take_copy _ _ (Nat.le_refl _)).trans ?_
    exact (Bytes.take_copy _ _ (Nat.le_refl _)).symm

end Hash

end TzDriver.Login
