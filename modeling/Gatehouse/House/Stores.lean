/-
What happens to the stores of a house.

The main store tells the auth module what it takes in and gives up, once each and
in order; a call that changes nothing tells nothing, except that clearing is told
even of an empty store.
-/
import Gatehouse.House.State

namespace Gatehouse.House

/-- The store of the given name. -/
def store (h : House) : StoreName → Store
  | .main => h.main
  | .bare => h.bare

/-- Replaces a store by its next state. -/
def setStore (h : House) (name : StoreName) (store : Store) : House :=
  match name with
  | .main => { h with main := store }
  | .bare => { h with bare := store }

/-- Whether a store tells an auth module. -/
def isAudited (h : House) : StoreName → Bool
  | .main => h.auth.isSome
  | .bare => false

/-- Tells the auth module something, if the store does. -/
def notifyFrom (h : House) (name : StoreName) (n : Notice) : House :=
  if h.isAudited name then h.notify n else h

/-- Stores a session under a key, which must be its id, unless one is there already.  The answer is
the session that is there afterwards. -/
def getOrAdd (h : House) (name : StoreName) (key : SessionId) (r : SessionRef) :
    House × Except ServiceError SessionRef :=
  match Store.refusal key (h.session r) with
  | some e => (h, .error e)
  | none =>
    match (h.store name).get? key with
    | some there => (h, .ok there)
    | none =>
      let h := h.setStore name ((h.store name).insert key r)
      (h.notifyFrom name (.persist (h.session r).toRecord), .ok r)

/-- Stores a session under its id. -/
def add (h : House) (name : StoreName) (r : SessionRef) : House × Except ServiceError SessionRef :=
  h.getOrAdd name (h.session r).id r

/-- The session stored under a key. -/
def find (h : House) (name : StoreName) (key : SessionId) : Option SessionRef :=
  (h.store name).get? key

/-- Takes out the session under a key. -/
def remove (h : House) (name : StoreName) (key : SessionId) : House × Option SessionRef :=
  match (h.store name).get? key with
  | none => (h, none)
  | some r =>
    let h := h.setStore name ((h.store name).erase key)
    (h.notifyFrom name (.remove (h.session r).id), some r)

/-- Takes out everything. -/
def clear (h : House) (name : StoreName) : House :=
  (h.setStore name ∅).notifyFrom name .clear

/-- The stored sessions that have ended before `now`. -/
def expired (h : House) (name : StoreName) (now : Instant) : List SessionRef :=
  (h.store name).expired h.session now

/-- Takes out one of the sessions found to have ended, if what is stored under its id has. -/
def evictOne (h : House) (name : StoreName) (now : Instant) (candidate : SessionRef) :
    House × List SessionId :=
  let id := (h.session candidate).id
  match (h.store name).get? id with
  | none => (h, [])
  | some r =>
    if (h.session r).isExpired now then
      let h := h.setStore name ((h.store name).erase id)
      (h.notifyFrom name (.remove (h.session r).id), [id])
    else (h, [])

/-- Takes out each of the sessions found to have ended. -/
def evictAll (h : House) (name : StoreName) (now : Instant) :
    List SessionRef → House × List SessionId
  | [] => (h, [])
  | r :: rs =>
    let (h, ids) := h.evictOne name now r
    let (h, more) := h.evictAll name now rs
    (h, ids ++ more)

/-- Takes out the sessions that have ended before `now`, and gives their ids. -/
def evict (h : House) (name : StoreName) (now : Instant) : House × List SessionId :=
  h.evictAll name now (h.expired name now)

/-- The stored sessions that are due a warning. -/
def pendingWarnings (h : House) (name : StoreName) (now : Instant) (window : Int) :
    Except DateOverflow (List SessionRef) :=
  (h.store name).pendingWarnings h.session now window

/-- The stored sessions of a user who logged in by the given name. -/
def findByLogin (h : House) (name : StoreName) (login : String) : List SessionRef :=
  (h.store name).findByLogin h.session login

end Gatehouse.House
