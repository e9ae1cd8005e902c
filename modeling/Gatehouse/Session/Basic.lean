/-
Sessions.

A session stands for a user who has logged in.  What it is made with, its rights
above all, stays as it is.  What changes is its activity: using the session moves
its end to one lifetime after the latest use, never back; a warning that the end
is near is due once after each use; traffic is counted and reported from time to
time; and message types are only ever added.

The Empty session stands for nobody.  It has no services, which is what everything
that changes a session needs, so nothing about it ever changes.
-/
import Gatehouse.Permission.Set
import Gatehouse.Session.DataBag
import Gatehouse.Session.Record
import Gatehouse.Settings.Basic
import Gatehouse.Time.Timestamp

namespace Gatehouse

/-- What a session is served by. -/
structure Services where
  /-- The settings it was made under. -/
  settings : SessionSettings
  /-- Whether there is an auth module to tell about it. -/
  audited : Bool
  deriving DecidableEq

/-- A request for a session. -/
structure LoginRequest where
  /-- The user it is for. -/
  userId : Int32
  /-- The name that the user logs in by. -/
  login : String
  /-- The address that the request comes from, if it is known. -/
  createdIp : Option String
  /-- What the session is to be granted. -/
  permissions : PermissionSet
  /-- The language and region of the user. -/
  culture : String
  /-- The group of the user, if there is one. -/
  orgGroupId : Option Int32
  /-- The product that the session is for. -/
  productName : String
  /-- How long traffic is collected, if not as long as the settings say. -/
  trafficFlushMinutes : Option UInt32

/-- A session. -/
structure Session where
  /-- Its id. -/
  id : SessionId
  /-- The user it is for. -/
  userId : Int32
  /-- The name that the user logged in by. -/
  login : String
  /-- When it was made. -/
  createdTime : Instant
  /-- The address it was made from. -/
  createdIp : String
  /-- What it is granted. -/
  permissions : PermissionSet
  /-- The language and region of the user; empty if unknown. -/
  culture : String
  /-- The group of the user, if there is one. -/
  orgGroupId : Option Int32
  /-- The product it is for. -/
  productName : String
  /-- How long traffic is collected; zero switches reports off. -/
  trafficFlushMinutes : UInt32
  /-- What it is served by; only the Empty session has none. -/
  services : Option Services
  /-- When it was last used. -/
  lastAccessedTime : Instant
  /-- The address it was last used from. -/
  lastAccessedIp : String
  /-- When it ends. -/
  expirationTime : Instant
  /-- When a warning was last sent that the end is near. -/
  warningSent : Option Instant
  /-- The bytes that came in since the last report. -/
  incoming : UInt64
  /-- The bytes that went out since the last report. -/
  outgoing : UInt64
  /-- When the last report was made, or the session itself. -/
  lastFlush : Instant
  /-- The message types it listens to. -/
  messageTypes : SortedMap String Unit
  /-- What parts of the program keep with it. -/
  data : SessionData

namespace Session

/-! ### Making sessions -/

/-- The session that stands for nobody. -/
def empty : Session where
  id := .empty
  userId := 0
  login := ""
  createdTime := .first
  createdIp := ""
  permissions := .readOnlyOfCodes []
  culture := ""
  orgGroupId := none
  productName := ""
  trafficFlushMinutes := 0
  services := none
  lastAccessedTime := .first
  lastAccessedIp := ""
  expirationTime := .last
  warningSent := none
  incoming := 0
  outgoing := 0
  lastFlush := .first
  messageTypes := ∅
  data := .detachedBag

instance : Inhabited Session := ⟨empty⟩

/-- Whether the session stands for nobody. -/
def isEmpty (s : Session) : Bool := s.id.isEmpty

/-- How long a session lives after it was last used. -/
def lifetime (services : Services) : Int := minutes services.settings.ttlMinutes.toNat

/-- The session for a request, made at `now`.  An address that the request does not know is the one
resolved. -/
def make (id : SessionId) (r : LoginRequest) (services : Services) (now : Instant)
    (resolved : String) : Except DateOverflow Session :=
  match now.add? (lifetime services) with
  | none => .error .outOfRange
  | some expiration =>
    let ip := r.createdIp.getD resolved
    .ok {
      id := id
      userId := r.userId
      login := r.login
      createdTime := now
      createdIp := ip
      permissions := r.permissions.snapshot
      culture := r.culture
      orgGroupId := r.orgGroupId
      productName := r.productName
      trafficFlushMinutes := r.trafficFlushMinutes.getD services.settings.trafficFlushMinutes
      services := some services
      lastAccessedTime := now
      lastAccessedIp := ip
      expirationTime := expiration
      warningSent := none
      incoming := 0
      outgoing := 0
      lastFlush := now
      messageTypes := ∅
      data := .empty }

/-- Message types added to others. -/
def addTypes (types : SortedMap String Unit) (more : List String) : SortedMap String Unit :=
  more.foldl (fun ts t => ts.insert t ()) types

/-- The request that a record stands for. -/
def requestOfRecord (r : SessionRecord) : LoginRequest where
  userId := r.userId
  login := r.login
  createdIp := some r.createdIp
  permissions := .ofCodes (r.permissions.map Code.mk)
  culture := r.culture
  orgGroupId := r.orgGroupId
  productName := r.productName
  trafficFlushMinutes := none

/-- The session that a record stands for, made anew at `now`. -/
def ofRecord (r : SessionRecord) (services : Services) (now : Instant) :
    Except DateOverflow Session :=
  (make r.sessionId (requestOfRecord r) services now "").map fun s =>
    { s with messageTypes := addTypes s.messageTypes r.messageTypes }

/-- The record of the session. -/
def toRecord (s : Session) : SessionRecord where
  sessionId := s.id
  userId := s.userId
  login := s.login
  createdIp := s.createdIp
  orgGroupId := s.orgGroupId
  permissions := s.permissions.codes.map Code.text
  culture := s.culture
  messageTypes := s.messageTypes.keys
  productName := s.productName

/-! ### Asking -/

/-- The culture, if it is known. -/
def knownCulture (s : Session) : Option String := if s.culture.isEmpty then none else some s.culture

/-- Whether there is an auth module to tell about the session. -/
def audited (s : Session) : Bool :=
  match s.services with
  | some services => services.audited
  | none => false

/-- Whether the session has ended before `now`. -/
def isExpired (s : Session) (now : Instant) : Bool := s.expirationTime < now

/-- Whether a warning is due: the end is near, has not come, and no warning was sent since the
session was last used. -/
def needsWarning (s : Session) (now : Instant) (window : Int) : Except DateOverflow Bool :=
  if s.expirationTime < now then .ok false
  else
    match s.expirationTime.sub? window with
    | none => .error .outOfRange
    | some begins =>
      if now < begins then .ok false
      else
        match s.warningSent with
        | some sent => .ok (sent < s.lastAccessedTime)
        | none => .ok true

/-- Whether the session listens to a message type. -/
def isSubscribed (s : Session) (type : String) : Bool := s.messageTypes.contains type

/-- The session in a word. -/
def display (s : Session) : String :=
  if s.isEmpty then "<no session>" else s.login ++ "#" ++ s.id.text

/-- The session as reports show it. -/
def report (s : Session) : String :=
  "Session \x7b id: " ++ s.id.report ++ ", login: " ++ Text.quoted s.login
    ++ ", created_ip: " ++ Text.quoted s.createdIp
    ++ ", expiration_time: " ++ Timestamp.write s.expirationTime ++ ", .. \x7d"

/-! ### Activity -/

/-- Uses the session at `now` from an address.  If its new end cannot be represented, the use
counts all the same and the end stays. -/
def refresh (s : Session) (now : Instant) (address : String) :
    Session × Except DateOverflow Unit :=
  match s.services with
  | none => (s, .ok ())
  | some services =>
    let used := { s with lastAccessedTime := max s.lastAccessedTime now, lastAccessedIp := address }
    match used.lastAccessedTime.add? (lifetime services) with
    | none => (used, .error .outOfRange)
    | some expiration => ({ used with expirationTime := expiration }, .ok ())

/-- Notes that a warning was sent. -/
def markWarned (s : Session) (time : Instant) : Session :=
  if s.isEmpty then s else { s with warningSent := some time }

/-- The sum of two counts, or the largest count if it is larger. -/
def addSaturating (a b : UInt64) : UInt64 := .ofNat (min (a.toNat + b.toNat) (UInt64.size - 1))

/-- The session with its counts reported and set back. -/
def flush (s : Session) (now : Instant) : Session × TrafficReport :=
  ({ s with incoming := 0, outgoing := 0, lastFlush := now },
    ⟨s.id, s.login, s.incoming, s.outgoing, now⟩)

/-- Counts traffic.  A report is due if nothing is given to count, or if more than the interval has
passed since the last one. -/
def countTraffic (s : Session) (now : Instant) (incoming outgoing : Option UInt64) :
    Session × Except DateOverflow (Option TrafficReport) :=
  if s.trafficFlushMinutes = 0 ∨ s.services = none then (s, .ok none)
  else
    let counted := { s with
      incoming := addSaturating s.incoming (incoming.getD 0)
      outgoing := addSaturating s.outgoing (outgoing.getD 0) }
    if incoming = none ∧ outgoing = none then
      let (flushed, report) := counted.flush now
      (flushed, .ok (some report))
    else
      match s.lastFlush.add? (minutes s.trafficFlushMinutes.toNat) with
      | none => (counted, .error .outOfRange)
      | some due =>
        if now ≤ due then (counted, .ok none)
        else
          let (flushed, report) := counted.flush now
          (flushed, .ok (some report))

/-- Adds message types. -/
def subscribe (s : Session) (types : List String) : Session :=
  if s.isEmpty then s else { s with messageTypes := addTypes s.messageTypes types }

/-- Changes what parts of the program keep with the session. -/
def changeData (s : Session) (change : SessionData → SessionData) : Session :=
  { s with data := change s.data }

/-- Passes a change on to the session's set of permissions, which refuses it. -/
def changePermissions (s : Session) (change : PermissionSet → PermissionSet) : Session :=
  { s with permissions := change s.permissions }

end Session

end Gatehouse
