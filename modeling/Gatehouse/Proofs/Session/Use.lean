/-
What uses leave of a session.

A session is made once and then used: its time is extended, warnings and traffic are
noted, message types are added, parts of the program keep data with it, and its set
of permissions is asked to change.  All of this is about its activity.  What it was
made with is the same after every use (`SameOrigin`), the permissions included, as
the set is read-only.

A record is made of what the session was made with and of its message types, so only
a subscription shows in it.
-/
import Gatehouse.Session.Basic
import Gatehouse.Proofs.Permission.History
import Gatehouse.Proofs.Session.DataBag

namespace Gatehouse

theorem SessionId.isEmpty_iff {id : SessionId} : id.isEmpty = true ↔ id = .empty := by
  constructor
  · intro h
    exact SessionId.ext (beq_iff_eq.1 h)
  · rintro rfl
    rfl

/-- What is minted is not the id of the Empty session. -/
theorem IdGenerator.mint_isEmpty (g : IdGenerator) (d : Draw) : (g.mint d).1.isEmpty = false := by
  show (((g.counter + d.step).toUInt64 <<< 32 ||| d.low.toUInt64) == 0) = false
  rw [beq_eq_false_iff_ne]
  intro h
  have hlow : d.low.toUInt64 = 0 := (UInt64.or_eq_zero_iff.1 h).2
  have hnat : d.low.toNat = 0 := by simpa using congrArg UInt64.toNat hlow
  exact d.low_ne (UInt32.toNat_inj.1 hnat)

namespace Session

/-- What can be done with a session. -/
inductive Use where
  /-- It is used on behalf of its user. -/
  | refresh
  /-- A warning was sent. -/
  | markWarned (time : Instant)
  /-- Traffic is counted. -/
  | countTraffic (incoming outgoing : Option UInt64)
  /-- Message types are added. -/
  | subscribe (types : List String)
  /-- Parts of the program change what they keep with it. -/
  | changeData (change : DataBag.Change DatumType.Value)
  /-- Its set of permissions is asked to change. -/
  | changePermissions (change : PermissionSet.Change)

/-- The session after a use at `now` from an address. -/
def after (s : Session) (now : Instant) (address : String) : Use → Session
  | .refresh => (s.refresh now address).1
  | .markWarned time => s.markWarned time
  | .countTraffic incoming outgoing => (s.countTraffic now incoming outgoing).1
  | .subscribe types => s.subscribe types
  | .changeData change => s.changeData (·.apply change)
  | .changePermissions change => s.changePermissions (·.apply change)

/-- Two states of a session that was made once: all that it was made with is the same. -/
structure SameOrigin (s t : Session) : Prop where
  id : t.id = s.id
  userId : t.userId = s.userId
  login : t.login = s.login
  createdTime : t.createdTime = s.createdTime
  createdIp : t.createdIp = s.createdIp
  permissions : t.permissions = s.permissions
  culture : t.culture = s.culture
  orgGroupId : t.orgGroupId = s.orgGroupId
  productName : t.productName = s.productName
  trafficFlushMinutes : t.trafficFlushMinutes = s.trafficFlushMinutes
  services : t.services = s.services

variable {s t : Session} {now : Instant} {address : String}

namespace SameOrigin

/-- A session whose activity alone differs. -/
theorem of_activity (s : Session) (lastAccessedTime : Instant) (lastAccessedIp : String)
    (expirationTime : Instant) (warningSent : Option Instant) (incoming outgoing : UInt64)
    (lastFlush : Instant) (messageTypes : SortedMap String Unit) (data : SessionData) :
    SameOrigin s { s with
      lastAccessedTime := lastAccessedTime, lastAccessedIp := lastAccessedIp
      expirationTime := expirationTime, warningSent := warningSent
      incoming := incoming, outgoing := outgoing, lastFlush := lastFlush
      messageTypes := messageTypes, data := data } :=
  ⟨rfl, rfl, rfl, rfl, rfl, rfl, rfl, rfl, rfl, rfl, rfl⟩

theorem refl (s : Session) : SameOrigin s s := of_activity ..

theorem trans {u : Session} (hst : SameOrigin s t) (htu : SameOrigin t u) : SameOrigin s u where
  id := htu.id.trans hst.id
  userId := htu.userId.trans hst.userId
  login := htu.login.trans hst.login
  createdTime := htu.createdTime.trans hst.createdTime
  createdIp := htu.createdIp.trans hst.createdIp
  permissions := htu.permissions.trans hst.permissions
  culture := htu.culture.trans hst.culture
  orgGroupId := htu.orgGroupId.trans hst.orgGroupId
  productName := htu.productName.trans hst.productName
  trafficFlushMinutes := htu.trafficFlushMinutes.trans hst.trafficFlushMinutes
  services := htu.services.trans hst.services

theorem isEmpty (h : SameOrigin s t) : t.isEmpty = s.isEmpty := by
  unfold Session.isEmpty
  rw [h.id]

theorem audited (h : SameOrigin s t) : t.audited = s.audited := by
  unfold Session.audited
  rw [h.services]

/-- The record differs in the message types alone. -/
theorem toRecord (h : SameOrigin s t) :
    t.toRecord = { s.toRecord with messageTypes := t.messageTypes.keys } := by
  unfold Session.toRecord
  rw [h.id, h.userId, h.login, h.createdIp, h.permissions, h.culture, h.orgGroupId, h.productName]

end SameOrigin

/-! ### One use -/

/-- Without services a refresh does nothing.  Otherwise it notes the use, and puts off the end if the
new one can be represented. -/
theorem refresh_cases (s : Session) (now : Instant) (address : String) :
    (s.services = none ∧ s.refresh now address = (s, .ok ())) ∨
    ∃ services, s.services = some services ∧
      let used := { s with
        lastAccessedTime := max s.lastAccessedTime now, lastAccessedIp := address }
      (used.lastAccessedTime.add? (lifetime services) = none ∧
        s.refresh now address = (used, .error .outOfRange)) ∨
      ∃ expiration, used.lastAccessedTime.add? (lifetime services) = some expiration ∧
        s.refresh now address = ({ used with expirationTime := expiration }, .ok ()) := by
  unfold refresh
  cases hs : s.services with
  | none => exact .inl ⟨rfl, rfl⟩
  | some services =>
    refine .inr ⟨services, rfl, ?_⟩
    dsimp only
    cases hend : (max s.lastAccessedTime now).add? (lifetime services) with
    | none => exact .inl ⟨rfl, rfl⟩
    | some expiration => exact .inr ⟨expiration, rfl, rfl⟩

theorem refresh_keeps : SameOrigin s (s.refresh now address).1 ∧
    (s.refresh now address).1.messageTypes = s.messageTypes := by
  rcases refresh_cases s now address with
    ⟨-, heq⟩ | ⟨services, -, ⟨-, heq⟩ | ⟨expiration, -, heq⟩⟩
  · rw [heq]
    exact ⟨.refl s, rfl⟩
  · rw [heq]
    exact ⟨.of_activity .., rfl⟩
  · rw [heq]
    exact ⟨.of_activity .., rfl⟩

theorem markWarned_keeps {time : Instant} : SameOrigin s (s.markWarned time) ∧
    (s.markWarned time).messageTypes = s.messageTypes := by
  unfold markWarned
  by_cases hs : s.isEmpty = true
  · rw [if_pos hs]
    exact ⟨.refl s, rfl⟩
  · rw [if_neg hs]
    exact ⟨.of_activity .., rfl⟩

theorem countTraffic_keeps {incoming outgoing : Option UInt64} :
    SameOrigin s (s.countTraffic now incoming outgoing).1 ∧
    (s.countTraffic now incoming outgoing).1.messageTypes = s.messageTypes := by
  unfold countTraffic
  by_cases hoff : s.trafficFlushMinutes = 0 ∨ s.services = none
  · rw [if_pos hoff]
    exact ⟨.refl s, rfl⟩
  · rw [if_neg hoff]
    dsimp only
    by_cases hforced : incoming = none ∧ outgoing = none
    · rw [if_pos hforced]
      exact ⟨.of_activity .., rfl⟩
    · rw [if_neg hforced]
      split
      · exact ⟨.of_activity .., rfl⟩
      · split
        · exact ⟨.of_activity .., rfl⟩
        · exact ⟨.of_activity .., rfl⟩

theorem subscribe_keeps (types : List String) : SameOrigin s (s.subscribe types) := by
  unfold subscribe
  by_cases hs : s.isEmpty = true
  · rw [if_pos hs]
    exact .refl s
  · rw [if_neg hs]
    exact .of_activity ..

/-- Apart from subscriptions, a use keeps what the session was made with, as its set of permissions
is read-only, and its message types. -/
theorem after_keeps (h : s.permissions.readOnly = true) {u : Use}
    (hu : ∀ types, u ≠ .subscribe types) :
    SameOrigin s (s.after now address u) ∧
      (s.after now address u).messageTypes = s.messageTypes := by
  cases u with
  | refresh => exact refresh_keeps
  | markWarned time => exact markWarned_keeps
  | countTraffic incoming outgoing => exact countTraffic_keeps
  | subscribe types => exact absurd rfl (hu types)
  | changeData change => exact ⟨.of_activity .., rfl⟩
  | changePermissions change =>
    have hsame : s.after now address (.changePermissions change) = s := by
      show { s with permissions := s.permissions.apply change } = s
      rw [PermissionSet.apply_of_readOnly h change]
    rw [hsame]
    exact ⟨.refl s, rfl⟩

theorem after_sameOrigin (h : s.permissions.readOnly = true) (u : Use) :
    SameOrigin s (s.after now address u) := by
  by_cases hu : ∀ types, u ≠ .subscribe types
  · exact (after_keeps h hu).1
  · obtain ⟨types, htypes⟩ := not_forall.1 hu
    rw [not_not.1 htypes]
    exact subscribe_keeps types

/-- Without a subscription the record stays as it is. -/
theorem toRecord_after (h : s.permissions.readOnly = true) {u : Use}
    (hu : ∀ types, u ≠ .subscribe types) : (s.after now address u).toRecord = s.toRecord := by
  rw [(after_keeps h hu).1.toRecord, (after_keeps h hu).2]
  rfl

/-! ### Making -/

theorem make_ok {id : SessionId} {r : LoginRequest} {services : Services} {resolved : String}
    (h : make id r services now resolved = .ok s) :
    s.id = id ∧ s.services = some services ∧ s.permissions = r.permissions.snapshot := by
  unfold make at h
  split at h
  · cases h
  · cases h
    exact ⟨rfl, rfl, rfl⟩

theorem ofRecord_ok {r : SessionRecord} {services : Services} (h : ofRecord r services now = .ok s) :
    s.id = r.sessionId ∧ s.services = some services ∧
      s.permissions = (requestOfRecord r).permissions.snapshot := by
  unfold ofRecord at h
  cases hmade : make r.sessionId (requestOfRecord r) services now "" with
  | error e =>
    rw [hmade] at h
    cases h
  | ok made =>
    rw [hmade] at h
    obtain ⟨hid, hservices, hpermissions⟩ := make_ok hmade
    cases h
    exact ⟨hid, hservices, hpermissions⟩

end Session

end Gatehouse
