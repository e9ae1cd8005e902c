/-
What is bound around a call.

A scope is not passed along to what runs inside it.  It binds a value in a slot, runs
its body and puts back what the slot held before, and whoever wants to know the scope
reads the slot.  Three questions are answered from there, each on its own: who is
answerable, which session is current, and whether the program itself is at work.  The
house is the same for all of them, inside scopes and outside.

How a slot keeps its value is not settled here, only what it is to do (`Slot.Lawful`).  A
flow is one line of calls: one that is started beside others has a slot of its own, and how
such flows take turns is left out.
-/
import Gatehouse.House.State

namespace Gatehouse

/-! ### Slots -/

/-- Where a value can be bound for as long as a body runs. -/
structure Slot (α : Type) where
  /-- What the slot is at a time. -/
  Cell : Type
  /-- At the start. -/
  vacant : Cell
  /-- The value that is bound, if one is. -/
  read : Cell → Option α
  /-- Binds a value. -/
  bind : Cell → α → Cell
  /-- Ends a binding, given what the slot was when the value was bound and what it is now. -/
  release : Cell → Cell → Cell

/-- A slot holds what is bound, and when a binding ends it holds what it held before. -/
structure Slot.Lawful {α : Type} (slot : Slot α) : Prop where
  /-- At the start nothing is bound. -/
  read_vacant : slot.read slot.vacant = none
  /-- A value that is bound is read. -/
  read_bind : ∀ cell a, slot.read (slot.bind cell a) = some a
  /-- Afterwards what was bound before is read. -/
  read_release : ∀ before after, slot.read (slot.release before after) = slot.read before

/-- A slot that is the value it holds. -/
def Slot.plain (α : Type) : Slot α where
  Cell := Option α
  vacant := none
  read := id
  bind := fun _ a => some a
  release := fun before _ => before

theorem Slot.lawful_plain (α : Type) : (Slot.plain α).Lawful :=
  ⟨rfl, fun _ _ => rfl, fun _ _ => rfl⟩

/-! ### Flows -/

/-- A flow of calls: the house, and the slot for scopes. -/
structure Flow (slot : Slot (Scope SessionRef)) where
  /-- The house. -/
  house : House
  /-- The slot. -/
  cell : slot.Cell

namespace Flow

variable {slot : Slot (Scope SessionRef)} {α : Type}

/-- A flow outside all scopes. -/
def start (slot : Slot (Scope SessionRef)) (h : House) : Flow slot := ⟨h, slot.vacant⟩

/-- The flow with another house. -/
def withHouse (f : Flow slot) (h : House) : Flow slot := { f with house := h }

/-- The flow inside a scope. -/
def enter (f : Flow slot) (s : Scope SessionRef) : Flow slot :=
  { f with cell := slot.bind f.cell s }

/-- Runs a body inside a scope.  The outcome is that of the body. -/
def within (f : Flow slot) (s : Scope SessionRef) (body : Flow slot → Flow slot × α) :
    Flow slot × α :=
  let (inside, outcome) := body (f.enter s)
  ({ inside with cell := slot.release f.cell inside.cell }, outcome)

/-- The scope that is bound. -/
def bound (f : Flow slot) : Option (Scope SessionRef) := slot.read f.cell

/-- The session of the scope that is bound, or the Empty session. -/
def currentSession (f : Flow slot) : SessionRef :=
  (f.bound.bind fun
    | .session r => some r
    | .system => none).getD emptyRef

/-- Whether the scope that is bound is one of the system. -/
def isSystem (f : Flow slot) : Bool :=
  f.bound.any fun
    | .session _ => false
    | .system => true

/-- Who is answerable: the scope that is bound, or the program as a client, or nobody. -/
def active (f : Flow slot) : Active SessionRef :=
  match f.bound with
  | some (.session r) => .session r
  | some .system => .system
  | none =>
    match f.house.client.current with
    | some c => .client c
    | none => .unbound

/-- What a check looks at. -/
def surroundings (f : Flow slot) : Surroundings :=
  ⟨f.active.map f.house.session, f.house.registry⟩

end Flow

end Gatehouse
