/-
The store of sessions.

Sessions are objects: two may carry the same id and still be two.  They are
therefore designated by reference, and the store keeps one reference under each
id.  What is in the store is never replaced: whoever offers another session with
an id in use gets the one that is there.
-/
import Gatehouse.Session.Basic

namespace Gatehouse

/-- Which session object is meant.  Reference zero is the Empty session. -/
abbrev SessionRef := Nat

/-- The reference of the Empty session. -/
def emptyRef : SessionRef := 0

/-- A store: the session kept under each id. -/
abbrev Store := SortedMap SessionId SessionRef

namespace Store

/-- Why a session cannot be stored under a key, if it cannot. -/
def refusal (key : SessionId) (s : Session) : Option ServiceError :=
  if s.id ≠ key then
    some (.invalid ("session " ++ s.id.text ++ " cannot be stored under key " ++ key.text))
  else if key.isEmpty then some (.invalid "the Empty session cannot be stored")
  else none

/-- The references of the sessions of which something holds. -/
def select (store : Store) (resolve : SessionRef → Session) (p : Session → Bool) : List SessionRef :=
  store.values.filter fun r => p (resolve r)

/-- The sessions that have ended before `now`. -/
def expired (store : Store) (resolve : SessionRef → Session) (now : Instant) : List SessionRef :=
  store.select resolve fun s => s.isExpired now

/-- The sessions of a user who logged in by the given name. -/
def findByLogin (store : Store) (resolve : SessionRef → Session) (login : String) : List SessionRef :=
  store.select resolve fun s => s.login == login

/-- The sessions that are due a warning. -/
def pendingWarnings (store : Store) (resolve : SessionRef → Session) (now : Instant) (window : Int) :
    Except DateOverflow (List SessionRef) :=
  go store.values
where
  /-- Those of a list that are due a warning. -/
  go : List SessionRef → Except DateOverflow (List SessionRef)
    | [] => .ok []
    | r :: rs => do
      let due ← (resolve r).needsWarning now window
      let rest ← go rs
      return if due then r :: rest else rest

/-- The store as reports show it. -/
def report (store : Store) (audited : Bool) : String :=
  Text.labelled "SessionStore"
    [("sessions", toString store.size), ("auth_module", toString audited)]

end Store

end Gatehouse
