/-
The sessions on the session lists, as the TEE knows them: by dev_file id, uuid of
the service and session id.
-/

import Mathlib.Data.Multiset.Bind
import TzDriver.Session.Refine

namespace TzDriver.Session

structure TeeSession where
  devFileId : UInt32
  uuid : Uuid
  sessionId : UInt32
deriving DecidableEq, Repr

namespace Book

variable {Dev : Type} (book : Book Dev) (ids : Dev → UInt32) (sessionIds : Nat → UInt32)

/-- A session has an owner from its publication on. -/
def key (service session : Nat) : Option TeeSession :=
  (book.owner session).map fun dev => ⟨ids dev, book.uuid service, sessionIds session⟩

def serviceKeys (service : Nat) : Multiset TeeSession :=
  ↑((book.sessionList service).filterMap (book.key ids sessionIds service))

def keys : Multiset TeeSession :=
  (book.serviceList : Multiset Nat).bind (book.serviceKeys ids sessionIds)

variable {book ids sessionIds}

theorem bind_eq_add {Index Item : Type} {list : List Index} (once : list.Nodup) {at_ : Index}
    (member : at_ ∈ list) {first second : Index → Multiset Item} {extra : Multiset Item}
    (same : ∀ index ∈ list, index ≠ at_ → first index = second index)
    (here : first at_ = extra + second at_) :
    (list : Multiset Index).bind first = extra + (list : Multiset Index).bind second := by
  obtain ⟨rest, split⟩ := Multiset.exists_cons_of_mem (Multiset.mem_coe.mpr member)
  have absent : at_ ∉ rest := by
    have distinct : (at_ ::ₘ rest).Nodup := split ▸ Multiset.coe_nodup.mpr once
    exact (Multiset.nodup_cons.mp distinct).1
  have others : rest.bind first = rest.bind second := by
    apply Multiset.bind_congr
    intro index present
    refine same index ?_ ?_
    · exact Multiset.mem_coe.mp (split ▸ Multiset.mem_cons_of_mem present)
    · intro equal
      subst equal
      exact absent present
  rw [split, Multiset.cons_bind, Multiset.cons_bind, here, others, add_assoc]

theorem serviceKeys_eq_zero {service : Nat} (empty : book.sessionList service = []) :
    book.serviceKeys ids sessionIds service = 0 := by
  rw [serviceKeys, empty]
  rfl

theorem keys_newService (created : ∀ service ∈ book.serviceList, service < book.serviceCount)
    (uuid : Uuid) :
    (book.newService uuid).keys ids sessionIds = book.keys ids sessionIds := by
  have old : ∀ service ∈ (book.serviceList : Multiset Nat),
      (book.newService uuid).serviceKeys ids sessionIds service =
        book.serviceKeys ids sessionIds service := by
    intro service listed
    have different : service ≠ book.serviceCount := Nat.ne_of_lt (created service listed)
    have sameKey : (book.newService uuid).key ids sessionIds service =
        book.key ids sessionIds service := by
      funext session
      simp only [key, newService, Function.update_of_ne different]
    have list : (book.newService uuid).sessionList service = book.sessionList service :=
      Function.update_of_ne different _ _
    rw [serviceKeys, sameKey, list]
    rfl
  have new : (book.newService uuid).serviceKeys ids sessionIds book.serviceCount = 0 :=
    serviceKeys_eq_zero (Function.update_self _ _ _)
  change (↑(book.serviceList ++ [book.serviceCount]) : Multiset Nat).bind _ = _
  rw [← Multiset.coe_add, Multiset.add_bind, Multiset.bind_congr old]
  change _ + Multiset.bind {book.serviceCount} _ = _
  rw [Multiset.singleton_bind, new, add_zero]
  rfl

/-- A service that goes must have no session left. -/
theorem keys_putService {service : Nat} (listed : service ∈ book.serviceList)
    (unused : book.usage service - 1 = 0 → book.serviceKeys ids sessionIds service = 0) :
    (book.putService service).keys ids sessionIds = book.keys ids sessionIds := by
  unfold putService
  split
  · next last =>
      change (↑(book.serviceList.erase service) : Multiset Nat).bind
        (book.serviceKeys ids sessionIds) = _
      have split := Multiset.cons_erase (Multiset.mem_coe.mpr listed)
      rw [keys, ← split, Multiset.cons_bind, unused last, zero_add, Multiset.coe_erase]
  · rfl

theorem keys_publish (once : book.serviceList.Nodup) {service : Nat}
    (listed : service ∈ book.serviceList)
    (born : ∀ target, ∀ session ∈ book.sessionList target, session < book.sessionCount)
    (dev : Dev) (sessionId : UInt32) :
    (book.publish dev service).keys ids (Function.update sessionIds book.sessionCount sessionId) =
      ⟨ids dev, book.uuid service, sessionId⟩ ::ₘ book.keys ids sessionIds := by
  have oldKey (target session : Nat) (present : session ∈ book.sessionList target) :
      (book.publish dev service).key ids
          (Function.update sessionIds book.sessionCount sessionId) target session =
        book.key ids sessionIds target session := by
    have different : session ≠ book.sessionCount := Nat.ne_of_lt (born target session present)
    simp only [key, publish, Function.update_of_ne different]
  have newKey : (book.publish dev service).key ids
      (Function.update sessionIds book.sessionCount sessionId) service book.sessionCount =
        some ⟨ids dev, book.uuid service, sessionId⟩ := by
    simp only [key, publish, Function.update_self, Option.map_some]
  have oldKeys (target : Nat) : (book.sessionList target).filterMap
      ((book.publish dev service).key ids
        (Function.update sessionIds book.sessionCount sessionId) target) =
      (book.sessionList target).filterMap (book.key ids sessionIds target) :=
    List.filterMap_congr (oldKey target)
  rw [← Multiset.singleton_add]
  change (book.serviceList : Multiset Nat).bind _ = _
  refine bind_eq_add once listed ?_ ?_
  · intro target _ different
    have list : (book.publish dev service).sessionList target = book.sessionList target :=
      Function.update_of_ne different _ _
    rw [serviceKeys, list, oldKeys]
    rfl
  · have list : (book.publish dev service).sessionList service =
        book.sessionList service ++ [book.sessionCount] := Function.update_self _ _ _
    rw [serviceKeys, list, List.filterMap_append, oldKeys, List.filterMap_cons_some newKey,
      List.filterMap_nil, ← Multiset.coe_add, add_comm]
    rfl

theorem keys_unlink (once : book.serviceList.Nodup) {service session : Nat}
    (listed : service ∈ book.serviceList) (member : session ∈ book.sessionList service) {dev : Dev}
    (owned : book.owner session = some dev) :
    book.keys ids sessionIds = ⟨ids dev, book.uuid service, sessionIds session⟩ ::ₘ
      (book.unlink service session).keys ids sessionIds := by
  have found : book.key ids sessionIds service session =
      some ⟨ids dev, book.uuid service, sessionIds session⟩ := by
    rw [key, owned]
    rfl
  rw [← Multiset.singleton_add]
  refine bind_eq_add once listed ?_ ?_
  · intro target _ different
    have list : (book.unlink service session).sessionList target = book.sessionList target :=
      Function.update_of_ne different _ _
    rw [serviceKeys, serviceKeys, list]
    rfl
  · have list : (book.unlink service session).sessionList service =
        (book.sessionList service).erase session := Function.update_self _ _ _
    have order := (List.perm_cons_erase member).filterMap (book.key ids sessionIds service)
    rw [List.filterMap_cons_some found] at order
    rw [serviceKeys, serviceKeys, list, Multiset.coe_eq_coe.mpr order]
    rfl

end Book

namespace Tables

variable {Dev : Type} (tables : Tables Dev)

def sessionIds : Nat → UInt32 :=
  fun session => (tables.sessions session).sessionId

def openSessions (ids : Dev → UInt32) : Multiset TeeSession :=
  tables.book.keys ids tables.sessionIds

@[simp] theorem sessionIds_getServiceStruct (service : Nat) :
    (tables.getServiceStruct service).sessionIds = tables.sessionIds := rfl

@[simp] theorem sessionIds_putServiceStruct (service : Nat) :
    (tables.putServiceStruct service).sessionIds = tables.sessionIds := by
  simp only [putServiceStruct]
  split <;> rfl

@[simp] theorem sessionIds_initNewSessNode (dev : Dev) (service : Nat) (sessionId : UInt32) :
    (tables.initNewSessNode dev service sessionId).sessionIds =
      Function.update tables.sessionIds tables.book.sessionCount sessionId :=
  field_update TcNsSession.sessionId tables.sessions tables.sessionCount _

theorem sessionIds_setSession {session : Nat} {value : TcNsSession Dev}
    (kept : value.sessionId = (tables.sessions session).sessionId) :
    (tables.setSession session value).sessionIds = tables.sessionIds := by
  have updated := field_update TcNsSession.sessionId tables.sessions session value
  rw [kept] at updated
  exact updated.trans (Function.update_eq_self session tables.sessionIds)

@[simp] theorem sessionIds_getSessionStruct (session : Nat) :
    (tables.getSessionStruct session).sessionIds = tables.sessionIds :=
  sessionIds_setSession (tables.touchSessions [session]) rfl

@[simp] theorem sessionIds_putSessionStruct (session : Nat) :
    (tables.putSessionStruct session).sessionIds = tables.sessionIds :=
  sessionIds_setSession (tables.touchSessions [session]) rfl

@[simp] theorem sessionIds_unlinkSession (service session : Nat) :
    (tables.unlinkSession service session).sessionIds = tables.sessionIds :=
  sessionIds_setSession tables rfl

end Tables

end TzDriver.Session
