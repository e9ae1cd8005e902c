/-
What happens to sessions in a house.

Making a session asks the auth module first, and only then mints an id.  If the
end of the new session cannot be represented, the id is used up and there is no
session.  What happens to a session later is worked out on the session itself; the
house supplies the time and the address, and passes on what the auth module is to
know.
-/
import Gatehouse.House.State

namespace Gatehouse.House

/-- Asks the auth module, if there is one, to approve a session. -/
def review (h : House) (login : String) : House × Except ServiceError Unit :=
  match h.auth with
  | none => (h, .ok ())
  | some m => ({ h with auth := some (m.review login).1 }, (m.review login).2)

/-- Makes a session.  The draw is used only if the session is approved. -/
def create (h : House) (draw : Draw) (r : LoginRequest) : House × Except Failure SessionRef :=
  match h.review r.login with
  | (h, .error e) => (h, .error (.refused (AuthModule.asVeto e)))
  | (h, .ok ()) =>
    let (id, ids) := h.ids.mint draw
    let h := { h with ids := ids }
    match Session.make id r h.services h.now h.address.resolve with
    | .error _ => (h, .error .overflow)
    | .ok s =>
      let (h, ref) := h.addSession s
      (h, .ok ref)

/-- Brings back the session of a record. -/
def restore (h : House) (r : SessionRecord) : House × Except Failure SessionRef :=
  if r.sessionId.isEmpty then
    (h, .error (.refused (.invalid "session id 0 is reserved for the Empty session")))
  else
    match Session.ofRecord r h.services h.now with
    | .error _ => (h, .error .overflow)
    | .ok s =>
      let (h, ref) := h.addSession s
      (h, .ok ref)

/-- Uses a session. -/
def refresh (h : House) (r : SessionRef) : House × Except DateOverflow Unit :=
  let (s, outcome) := (h.session r).refresh h.now h.address.resolve
  (h.setSession r s, outcome)

/-- Notes that a warning was sent. -/
def markWarned (h : House) (r : SessionRef) (time : Instant) : House :=
  h.setSession r ((h.session r).markWarned time)

/-- Counts the traffic of a session, and passes on the report if one is due. -/
def countTraffic (h : House) (r : SessionRef) (incoming outgoing : Option UInt64) :
    House × Except DateOverflow Unit :=
  match (h.session r).countTraffic h.now incoming outgoing with
  | (s, .error e) => (h.setSession r s, .error e)
  | (s, .ok none) => (h.setSession r s, .ok ())
  | (s, .ok (some report)) =>
    let h := h.setSession r s
    (if s.audited then h.notify (.traffic report) else h, .ok ())

/-- Adds message types to a session, and passes on all that it now listens to. -/
def subscribe (h : House) (r : SessionRef) (types : List String) : House :=
  let s := (h.session r).subscribe types
  let h := h.setSession r s
  if !s.isEmpty && s.audited then h.notify (.messageTypes s.id s.messageTypes.keys) else h

/-- Changes what parts of the program keep with a session. -/
def changeData (h : House) (r : SessionRef) (change : SessionData → SessionData) : House :=
  h.setSession r ((h.session r).changeData change)

/-- Passes a change on to a session's set of permissions. -/
def changePermissions (h : House) (r : SessionRef) (change : PermissionSet → PermissionSet) : House :=
  h.setSession r ((h.session r).changePermissions change)

end Gatehouse.House
