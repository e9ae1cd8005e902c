/-
What is kept of a session elsewhere.

A record is what it takes to bring a session back: who it is for, what it may do
and what it listens to, but nothing about when it was used.  A traffic report is
what a session tells about the traffic it has carried since the report before.
-/
import Gatehouse.Json.Record
import Gatehouse.Session.Id
import Gatehouse.Time.Timestamp

namespace Gatehouse

/-- The record of a session. -/
structure SessionRecord where
  /-- The session's id. -/
  sessionId : SessionId
  /-- The user it is for. -/
  userId : Int32
  /-- The name that the user logged in by. -/
  login : String
  /-- The address that the session was made from. -/
  createdIp : String
  /-- The group of the user, if there is one. -/
  orgGroupId : Option Int32
  /-- The codes that the session is granted. -/
  permissions : List String
  /-- The language and region of the user. -/
  culture : String
  /-- The message types that the session listens to. -/
  messageTypes : List String
  /-- The product that the session is for. -/
  productName : String
  deriving DecidableEq, Inhabited

namespace SessionRecord

/-- The fields of a record, in declared order. -/
def fields : List Json.Field :=
  [⟨"SessionId", .required⟩, ⟨"UserId", .required⟩, ⟨"Login", .required⟩,
   ⟨"CreatedIP", .required⟩, ⟨"OrgGroupId", .optionalInObject⟩, ⟨"Permissions", .required⟩,
   ⟨"Culture", .required⟩, ⟨"MessageTypes", .required⟩, ⟨"ProductName", .defaulted⟩]

/-- The record in JSON, with the id in a form of the reader's choice. -/
def toJsonWith (idForm : SessionId → Json.Value) (r : SessionRecord) : Json.Value :=
  .ofMembers [("SessionId", idForm r.sessionId), ("UserId", .int r.userId.toInt),
    ("Login", .ofText r.login), ("CreatedIP", .ofText r.createdIp),
    ("OrgGroupId", .ofOption (r.orgGroupId.map fun g => .int g.toInt)),
    ("Permissions", .ofTexts r.permissions), ("Culture", .ofText r.culture),
    ("MessageTypes", .ofTexts r.messageTypes), ("ProductName", .ofText r.productName)]

/-- The record in JSON. -/
def toJson (r : SessionRecord) : Json.Value := r.toJsonWith fun id => .int id.raw.toNat

/-- Reads a record. -/
def ofJson? (v : Json.Value) : Option SessionRecord := do
  match ← v.fields? fields with
  | [some id, some user, some login, some ip, group, some permissions, some culture, some types,
      product] =>
    return {
      sessionId := ⟨← id.uint64?⟩
      userId := ← user.int32?
      login := ← login.text?
      createdIp := ← ip.text?
      orgGroupId := ← (group.getD .null).nullable? Json.Value.int32?
      permissions := ← permissions.texts?
      culture := ← culture.text?
      messageTypes := ← types.texts?
      productName := ← (product.getD (.ofText "")).text? }
  | _ => none

end SessionRecord

/-- A report on the traffic of a session. -/
structure TrafficReport where
  /-- The session's id. -/
  sessionId : SessionId
  /-- The name that the user logged in by. -/
  login : String
  /-- The bytes that came in. -/
  incoming : UInt64
  /-- The bytes that went out. -/
  outgoing : UInt64
  /-- When the report was made. -/
  flushedAt : Instant
  deriving DecidableEq, Inhabited

namespace TrafficReport

/-- The fields of a report, in declared order. -/
def fields : List Json.Field :=
  [⟨"session_id", .required⟩, ⟨"login", .required⟩, ⟨"incoming", .required⟩,
   ⟨"outgoing", .required⟩, ⟨"flushed_at", .required⟩]

/-- The report in JSON, with the id and the counts in forms of the reader's choice. -/
def toJsonWith (idForm : SessionId → Json.Value) (countForm : UInt64 → Json.Value)
    (r : TrafficReport) : Json.Value :=
  .ofMembers [("session_id", idForm r.sessionId), ("login", .ofText r.login),
    ("incoming", countForm r.incoming), ("outgoing", countForm r.outgoing),
    ("flushed_at", .ofText (Timestamp.write r.flushedAt))]

/-- The report in JSON. -/
def toJson (r : TrafficReport) : Json.Value :=
  r.toJsonWith (fun id => .int id.raw.toNat) fun n => .int n.toNat

/-- Reads a report. -/
def ofJson? (v : Json.Value) : Option TrafficReport := do
  match ← v.fields? fields with
  | [some id, some login, some incoming, some outgoing, some flushed] =>
    return {
      sessionId := ⟨← id.uint64?⟩
      login := ← login.text?
      incoming := ← incoming.uint64?
      outgoing := ← outgoing.uint64?
      flushedAt := ← Timestamp.read? (← flushed.text?) }
  | _ => none

end TrafficReport

end Gatehouse
