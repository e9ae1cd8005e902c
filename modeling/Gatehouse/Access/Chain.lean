/-
Guard chains.

A chain is a list of requirements that a call must meet, asked in order up to the
first that is not met.  Most ask the chain's checker; a licence asks a policy about
the session; and a guard may ask anything.  The program itself needs neither a
session nor a licence.

What a chain guards may take its time, or be done at once: that is left to the monad
that it runs in.
-/
import Gatehouse.Access.Checker

namespace Gatehouse

/-- A policy that admits a session or says why it does not. -/
structure LicensePolicy where
  /-- The policy's answer. -/
  answer : Session → Except String Unit

/-- A requirement of its own making. -/
structure Guard where
  /-- What it is called. -/
  name : String
  /-- Whether it is met. -/
  evaluate : Checker → Surroundings → Except Fault Unit

/-- Something that a call must meet. -/
inductive Requirement where
  /-- Someone is logged on. -/
  | session
  /-- A permission is held. -/
  | code (c : Code)
  /-- The permission of a kind is held. -/
  | kind (k : Kind)
  /-- One of several permissions is held. -/
  | any (cs : List Code)
  /-- A licence covers the session. -/
  | license (policy : LicensePolicy)
  /-- A guard is satisfied. -/
  | guard (g : Guard)

namespace Requirement

/-- The requirement in a word. -/
def describe : Requirement → String
  | .session => "session"
  | .code c => "code:" ++ c.text
  | .kind k => "kind:" ++ k.path
  | .any cs => "any:[" ++ ",".intercalate (cs.map Code.text) ++ "]"
  | .license _ => "license"
  | .guard g => "guard:" ++ g.name

/-- Whether the requirement is met. -/
def evaluate (checker : Checker) (around : Surroundings) : Requirement → Except Fault Unit
  | .session =>
    if around.active.isSystem then .ok ()
    else (Checker.requireSession Session.isEmpty around.active).map fun _ => ()
  | .license policy =>
    if around.active.isSystem then .ok ()
    else
      match Checker.requireSession Session.isEmpty around.active with
      | .error fault => .error fault
      | .ok s =>
        match policy.answer s with
        | .ok () => .ok ()
        | .error reason => .error (.licenseExhausted reason)
  | .code c => checker.check around c.text
  | .kind k => checker.checkKind around k
  | .any cs => checker.checkAny around (cs.map Code.text)
  | .guard g => g.evaluate checker around

end Requirement

/-- The fault of the first requirement that is not met. -/
def evaluateAll (checker : Checker) (around : Surroundings) : List Requirement → Except Fault Unit
  | [] => .ok ()
  | r :: rs =>
    match r.evaluate checker around with
    | .error fault => .error fault
    | .ok () => evaluateAll checker around rs

/-- The same where asking for a requirement has an effect of its own, besides being answered. -/
def evaluateAllM {m : Type → Type} [Monad m] (touch : Requirement → m Unit) (checker : Checker)
    (around : Surroundings) : List Requirement → m (Except Fault Unit)
  | [] => return .ok ()
  | r :: rs => do
    touch r
    match r.evaluate checker around with
    | .error fault => return .error fault
    | .ok () => evaluateAllM touch checker around rs

/-- A guard chain. -/
structure Chain where
  /-- What it is called. -/
  name : String
  /-- What its requirements ask. -/
  checker : Checker
  /-- Its requirements, in order. -/
  requirements : List Requirement

namespace Chain

/-- The name of a chain that was given none. -/
def noName : String := "unnamed"

/-- A chain of requirements, in which a name and a checker may be left out. -/
def ofRequirements (name : Option String) (checker : Option Checker) (rs : List Requirement) : Chain :=
  ⟨name.getD noName, checker.getD .default, rs⟩

/-- The chain that requires nothing. -/
def unguarded : Chain := ofRequirements none none []

instance : Inhabited Chain := ⟨unguarded⟩

/-- Whether the chain's requirements are met. -/
def evaluate (c : Chain) (around : Surroundings) : Except Fault Unit :=
  evaluateAll c.checker around c.requirements

/-- Whether they are met, where asking for a requirement has an effect of its own. -/
def evaluateM {m : Type → Type} [Monad m] (c : Chain) (touch : Requirement → m Unit)
    (around : Surroundings) : m (Except Fault Unit) :=
  evaluateAllM touch c.checker around c.requirements

/-- Does something if the chain's requirements are met. -/
def runM {m : Type → Type} [Monad m] {α : Type} (c : Chain) (touch : Requirement → m Unit)
    (around : Surroundings) (operation : m α) : m (Except Fault α) := do
  match ← c.evaluateM touch around with
  | .error fault => return .error fault
  | .ok () => return .ok (← operation)

/-- How many requirements the chain has. -/
def size (c : Chain) : Nat := c.requirements.length

/-- Whether the chain requires nothing. -/
def isEmpty (c : Chain) : Bool := c.requirements.isEmpty

/-- The chain as reports show it. -/
def report (c : Chain) : String :=
  Text.labelled "GuardChain"
    [("name", Text.quoted c.name),
     ("requirements", Text.bracketed (c.requirements.map fun r => Text.quoted r.describe))]

end Chain

/-! ### Building chains -/

/-- What has been said of a chain that is being built. -/
structure ChainBuilder where
  /-- What it is to be called. -/
  name : Option String
  /-- What its requirements are to ask. -/
  checker : Option Checker
  /-- Its requirements so far, in order. -/
  requirements : List Requirement

namespace ChainBuilder

/-- Nothing has been said. -/
def fresh : ChainBuilder := ⟨none, none, []⟩

instance : Inhabited ChainBuilder := ⟨fresh⟩

/-- Names the chain. -/
def named (b : ChainBuilder) (name : String) : ChainBuilder := { b with name := some name }

/-- Sets what all requirements ask, those included that are there already. -/
def withChecker (b : ChainBuilder) (checker : Checker) : ChainBuilder :=
  { b with checker := some checker }

/-- Adds a requirement, after those that are there. -/
def require (b : ChainBuilder) (r : Requirement) : ChainBuilder :=
  { b with requirements := b.requirements ++ [r] }

/-- The chain. -/
def build (b : ChainBuilder) : Chain := .ofRequirements b.name b.checker b.requirements

end ChainBuilder

/-! ### Policies and guards in common use -/

/-- The policy that refuses some products, for one reason. -/
def LicensePolicy.refusing (products : List String) (reason : String) : LicensePolicy :=
  ⟨fun s => if products.contains s.productName then .error reason else .ok ()⟩

namespace Guard

/-- A guard that is always satisfied. -/
def passing (name : String) : Guard := ⟨name, fun _ _ => .ok ()⟩

/-- A guard that answers with a fault. -/
def refusing (name : String) (fault : Fault) : Guard := ⟨name, fun _ _ => .error fault⟩

/-- A guard that checks a code. -/
def checking (name code : String) : Guard := ⟨name, fun checker around => checker.check around code⟩

/-- A guard that wants someone logged on. -/
def loggedOn (name : String) : Guard :=
  ⟨name, fun _ around =>
    (Checker.requireSession Session.isEmpty around.active).map fun _ => ()⟩

end Guard

end Gatehouse
