/-
Access checks.

A checker asks whether whoever is answerable may do something.  A session must be
logged on and hold the permission; a client must hold it; the program itself may
do everything; and for nobody the policy decides.
-/
import Gatehouse.Access.Context
import Gatehouse.Access.Fault

namespace Gatehouse

/-- What checks are made by. -/
structure Checker where
  /-- What happens to a call that nobody is answerable for. -/
  policy : UnboundPolicy
  /-- Who words denials. -/
  reasons : Option Reason

namespace Checker

/-- The checker that is used where none is named. -/
def default : Checker := ⟨.allow, none⟩

instance : Inhabited Checker := ⟨default⟩

/-- A checker by the settings of access checks. -/
def ofSettings (s : AuthorizationSettings) : Checker := ⟨s.unboundPolicy, none⟩

/-- The checker with denials worded by a provider. -/
def withReasons (c : Checker) (r : Reason) : Checker := { c with reasons := some r }

/-- Passes if a set grants the code. -/
def checkSet (c : Checker) (registries : Registries) (permissions : PermissionSet) (code : String)
    (culture : Option String) : Except Fault Unit :=
  match permissions.check registries c.reasons code culture with
  | .ok () => .ok ()
  | .error d => .error (.denied d)

/-- Passes if the session is logged on. -/
def requireLoggedOn (s : Session) : Except Fault Unit :=
  if s.isEmpty then .error .notLoggedOn else .ok ()

/-- Passes if the session is logged on and granted the code. -/
def checkSession (c : Checker) (registries : Registries) (s : Session) (code : String) :
    Except Fault Unit := do
  requireLoggedOn s
  c.checkSet registries s.permissions code s.knownCulture

/-- What the policy says about a call that nobody is answerable for. -/
def checkUnbound (c : Checker) : Except Fault Unit :=
  match c.policy with
  | .allow => .ok ()
  | .deny => .error .notLoggedOn

/-- Passes if whoever is answerable may do what the code stands for. -/
def check (c : Checker) (around : Surroundings) (code : String) : Except Fault Unit :=
  match around.active with
  | .session s => c.checkSession around.registries s code
  | .client snapshot => c.checkSet around.registries snapshot.permissions code none
  | .system => .ok ()
  | .unbound => c.checkUnbound

/-- The code that a kind is checked by: its own, or its path if it has none. -/
def codeOfKind (k : Kind) : String :=
  match k.code with
  | some code => code.text
  | none => k.path

/-- Passes if whoever is answerable may do what the kind stands for. -/
def checkKind (c : Checker) (around : Surroundings) (k : Kind) : Except Fault Unit :=
  c.check around (codeOfKind k)

/-- Passes if a set grants one of the codes; otherwise the first is missing. -/
def checkAnyOf (c : Checker) (registries : Registries) (permissions : PermissionSet)
    (first : String) (rest : List String) (culture : Option String) : Except Fault Unit :=
  if (first :: rest).any permissions.contains then .ok ()
  else c.checkSet registries permissions first culture

/-- Passes if whoever is answerable may do what one of the codes stands for, or if there is none. -/
def checkAny (c : Checker) (around : Surroundings) : List String → Except Fault Unit
  | [] => .ok ()
  | first :: rest =>
    match around.active with
    | .session s => do
      requireLoggedOn s
      c.checkAnyOf around.registries s.permissions first rest s.knownCulture
    | .client snapshot => c.checkAnyOf around.registries snapshot.permissions first rest none
    | .system => .ok ()
    | .unbound => c.checkUnbound

/-- The session that is answerable, which must be logged on.  Sessions are designated by `σ`. -/
def requireSession {σ : Type} (isEmpty : σ → Bool) (active : Active σ) : Except Fault σ :=
  match active with
  | .session s => if isEmpty s then .error .notLoggedOn else .ok s
  | _ => .error .notLoggedOn

/-- The checker as reports show it. -/
def report (c : Checker) : String :=
  Text.labelled "AccessChecker"
    [("policy", c.policy.report), ("reasons", toString c.reasons.isSome)]

end Checker

end Gatehouse
