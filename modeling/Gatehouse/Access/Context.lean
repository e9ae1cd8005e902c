/-
Who is answerable for a call.

Code runs inside scopes, of which the innermost counts: a scope of a session makes
that session answerable, a scope of the system makes the program itself so.
Outside all scopes, a program that has logged in as a client is answerable by what
it was granted then.  Otherwise nobody is.
-/
import Gatehouse.Session.Basic

namespace Gatehouse

/-! ### The client -/

/-- What a client was granted when it logged in. -/
structure ClientSnapshot where
  /-- What it may do. -/
  permissions : PermissionSet
  /-- The session it logged in with. -/
  sessionId : SessionId

/-- The program as a client. -/
structure Client where
  /-- What it was granted, while it is logged in. -/
  current : Option ClientSnapshot
  /-- The session it last logged in with; zero before the first time. -/
  lastRaw : UInt64

namespace Client

/-- A program that has not logged in. -/
def fresh : Client := ⟨none, 0⟩

instance : Inhabited Client := ⟨fresh⟩

/-- Logs in. -/
def login (_ : Client) (permissions : PermissionSet) (id : SessionId) : Client :=
  ⟨some ⟨permissions.snapshot, id⟩, id.raw⟩

/-- Logs out.  The session it last logged in with stays known. -/
def logout (c : Client) : Client := { c with current := none }

/-- What it may do, while it is logged in. -/
def currentPermissions (c : Client) : Option PermissionSet := c.current.map (·.permissions)

/-- The session it last logged in with, if it was one. -/
def lastSessionId (c : Client) : Option SessionId :=
  if c.lastRaw = 0 then none else some ⟨c.lastRaw⟩

end Client

/-! ### Scopes -/

/-- A scope, with sessions designated by `σ`. -/
inductive Scope (σ : Type) where
  /-- A session is answerable. -/
  | session (s : σ)
  /-- The program itself is answerable. -/
  | system
  deriving DecidableEq

/-- Who is answerable, with sessions designated by `σ`. -/
inductive Active (σ : Type) where
  /-- A session. -/
  | session (s : σ)
  /-- The program itself. -/
  | system
  /-- The program as a client. -/
  | client (c : ClientSnapshot)
  /-- Nobody. -/
  | unbound

namespace Active

variable {σ τ : Type}

/-- Who is answerable inside scopes, the innermost first. -/
def resolve (scopes : List (Scope σ)) (client : Client) : Active σ :=
  match scopes with
  | .session s :: _ => .session s
  | .system :: _ => .system
  | [] =>
    match client.current with
    | some c => .client c
    | none => .unbound

/-- The same with sessions designated otherwise. -/
def map (f : σ → τ) : Active σ → Active τ
  | .session s => .session (f s)
  | .system => .system
  | .client c => .client c
  | .unbound => .unbound

/-- Whether the program itself is answerable. -/
def isSystem : Active σ → Bool
  | .system => true
  | _ => false

/-- The session that is answerable, or the given one if none is. -/
def sessionOr (fallback : σ) : Active σ → σ
  | .session s => s
  | _ => fallback

/-- The kind of who is answerable. -/
def kind : Active σ → String
  | .session _ => "session"
  | .system => "system"
  | .client _ => "client"
  | .unbound => "unbound"

end Active

/-- What a check looks at: who is answerable, and the registries that word denials. -/
structure Surroundings where
  /-- Who is answerable. -/
  active : Active Session
  /-- The registries of the service. -/
  registries : Registries

end Gatehouse
