/-
The house: everything that a running service holds.

Sessions are objects that are shared and change, so the house holds them all in a
list and everyone else holds references into it.  The Empty session is the first
of the list.  The auth module, if there is one, is the same for sessions and for
the main store; the bare store has none.

Calls come one after the other.  What is logged of them is left out, and so is where
the clock's time and the random parts of ids come from: these are given.
-/
import Gatehouse.Access.Dispatcher
import Gatehouse.Session.AuthModule
import Gatehouse.Session.Store

namespace Gatehouse

/-- Where the address of whoever is calling is taken from. -/
inductive AddressSource where
  /-- An address that can be changed. -/
  | settable (address : String)
  /-- An address that stays. -/
  | fixed (address : String)
  deriving DecidableEq, Inhabited

namespace AddressSource

/-- The address of whoever is calling. -/
def resolve : AddressSource → String
  | .settable a => a
  | .fixed a => a

/-- Changes the address, where it can be changed. -/
def set (a : AddressSource) (address : String) : AddressSource :=
  match a with
  | .settable _ => .settable address
  | .fixed f => .fixed f

end AddressSource

/-- The two stores. -/
inductive StoreName where
  /-- The store that tells the auth module. -/
  | main
  /-- The store that tells nobody. -/
  | bare
  deriving DecidableEq, Inhabited

/-- Why something that was asked of the house was not done. -/
inductive Failure where
  /-- It was refused. -/
  | refused (cause : ServiceError)
  /-- It would have moved time out of range. -/
  | overflow
  deriving DecidableEq

/-- The state of a service. -/
structure House where
  /-- The settings that sessions are made under. -/
  settings : SessionSettings
  /-- The time. -/
  now : Instant
  /-- Where addresses are taken from. -/
  address : AddressSource
  /-- What mints ids. -/
  ids : IdGenerator
  /-- The auth module, if there is one. -/
  auth : Option AuthModule
  /-- Every session there has been, the Empty session first. -/
  sessions : List Session
  /-- The store that tells the auth module. -/
  main : Store
  /-- The store that tells nobody. -/
  bare : Store
  /-- The program as a client. -/
  client : Client
  /-- The registries, by name.  One that is not here is empty. -/
  registries : SortedMap String Registry

namespace House

/-- A house in which nothing has happened. -/
def fresh (settings : SessionSettings) (now : Instant) (address : AddressSource)
    (auth : Option AuthModule) : House where
  settings := settings
  now := now
  address := address
  ids := .fresh
  auth := auth
  sessions := [.empty]
  main := ∅
  bare := ∅
  client := .fresh
  registries := ∅

/-! ### Sessions as objects -/

/-- The session that a reference designates. -/
def session (h : House) (r : SessionRef) : Session := h.sessions.getD r .empty

/-- Replaces the session that a reference designates by its next state. -/
def setSession (h : House) (r : SessionRef) (s : Session) : House :=
  { h with sessions := h.sessions.set r s }

/-- Adds a session; its reference is the next one. -/
def addSession (h : House) (s : Session) : House × SessionRef :=
  ({ h with sessions := h.sessions ++ [s] }, h.sessions.length)

/-- What new sessions are served by. -/
def services (h : House) : Services := ⟨h.settings, h.auth.isSome⟩

/-! ### The auth module -/

/-- Tells the auth module something, if there is one.  Whether it could keep it makes no
difference. -/
def notify (h : House) (n : Notice) : House :=
  { h with auth := h.auth.map fun m => (m.deliver n).1 }

/-- What the auth module was asked and told. -/
def journal (h : House) : List Notice :=
  match h.auth with
  | some m => m.journal
  | none => []

/-- Changes the auth module, if there is one. -/
def changeAuth (h : House) (change : AuthModule → AuthModule) : House :=
  { h with auth := h.auth.map change }

/-! ### Time, registries, context -/

/-- Sets the clock. -/
def setClock (h : House) (t : Instant) : House := { h with now := t }

/-- Moves the clock. -/
def advance (h : House) (d : Int) : Except DateOverflow House :=
  match h.now.add? d with
  | some t => .ok (h.setClock t)
  | none => .error .outOfRange

/-- The name of the registry that the whole program shares. -/
def globalRegistry : String := "global"

/-- The registry of the given name. -/
def registry (h : House) (name : String) : Registry := (h.registries.get? name).getD ∅

/-- Replaces a registry by its next state. -/
def setRegistry (h : House) (name : String) (r : Registry) : House :=
  { h with registries := h.registries.insert name r }

/-- Who is answerable inside scopes, the innermost first. -/
def active (h : House) (scopes : List (Scope SessionRef)) : Active SessionRef :=
  .resolve scopes h.client

/-- What a check inside scopes looks at. -/
def surroundings (h : House) (scopes : List (Scope SessionRef)) : Surroundings :=
  ⟨(h.active scopes).map h.session, h.registry⟩

/-- The session that is answerable inside scopes, or the Empty session. -/
def currentSession (h : House) (scopes : List (Scope SessionRef)) : SessionRef :=
  (h.active scopes).sessionOr emptyRef

end House

end Gatehouse
