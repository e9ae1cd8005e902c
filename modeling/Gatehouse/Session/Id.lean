/-
Session ids.

An id is a number of sixty-four bits.  The upper half is a counter that moves on
by a small random step for each id, so that ids come in an order that cannot be
counted; the lower half is random and never zero.  The id zero belongs to the
Empty session and is never minted.
-/
namespace Gatehouse

/-- The id of a session. -/
structure SessionId where
  /-- The id as a number. -/
  raw : UInt64
  deriving DecidableEq, Inhabited

namespace SessionId

instance : LE SessionId := ⟨fun a b => a.raw ≤ b.raw⟩
instance : LT SessionId := ⟨fun a b => a.raw < b.raw⟩
instance (a b : SessionId) : Decidable (a ≤ b) := inferInstanceAs (Decidable (a.raw ≤ b.raw))
instance (a b : SessionId) : Decidable (a < b) := inferInstanceAs (Decidable (a.raw < b.raw))

@[ext] theorem ext {a b : SessionId} (h : a.raw = b.raw) : a = b := by
  cases a; cases b; simp_all

instance : Std.IsLinearOrder SessionId where
  le_refl a := UInt64.le_refl a.raw
  le_trans _ _ _ h₁ h₂ := UInt64.le_trans h₁ h₂
  le_antisymm _ _ h₁ h₂ := SessionId.ext (UInt64.le_antisymm h₁ h₂)
  le_total a b := UInt64.le_total a.raw b.raw

instance : Std.LawfulOrderLT SessionId where
  lt_iff a b := by
    show a.raw < b.raw ↔ a.raw ≤ b.raw ∧ ¬ b.raw ≤ a.raw
    rw [UInt64.not_le]
    exact ⟨fun h => ⟨UInt64.le_of_lt h, h⟩, And.right⟩

/-- The id of the Empty session. -/
def empty : SessionId := ⟨0⟩

/-- Whether it is the id of the Empty session. -/
def isEmpty (id : SessionId) : Bool := id.raw == 0

/-- The upper half. -/
def sequence (id : SessionId) : UInt32 := (id.raw >>> 32).toUInt32

/-- The lower half. -/
def low (id : SessionId) : UInt32 := id.raw.toUInt32

/-- The id of the given halves. -/
def ofHalves (sequence low : UInt32) : SessionId :=
  ⟨(sequence.toUInt64 <<< 32) ||| low.toUInt64⟩

/-- The id in decimal. -/
def text (id : SessionId) : String := toString id.raw

/-- The id as reports show it. -/
def report (id : SessionId) : String := "SessionId(" ++ id.text ++ ")"

end SessionId

/-! ### Minting -/

/-- The least step of the counter. -/
def leastStep : UInt32 := 3

/-- The first step that is too large. -/
def stepBound : UInt32 := 13

/-- What is drawn at random for one id. -/
structure Draw where
  /-- How far the counter moves. -/
  step : UInt32
  /-- The lower half of the id. -/
  low : UInt32
  /-- The step is one of those allowed. -/
  step_mem : leastStep ≤ step ∧ step < stepBound
  /-- The lower half is not zero. -/
  low_ne : low ≠ 0

/-- What mints ids. -/
structure IdGenerator where
  /-- The upper half of the id minted last. -/
  counter : UInt32
  deriving DecidableEq, Inhabited

namespace IdGenerator

/-- A generator that has minted nothing. -/
def fresh : IdGenerator := ⟨0⟩

/-- Mints an id. -/
def mint (g : IdGenerator) (d : Draw) : SessionId × IdGenerator :=
  let sequence := g.counter + d.step
  (.ofHalves sequence d.low, ⟨sequence⟩)

/-- Mints an id for each draw. -/
def mintAll : IdGenerator → List Draw → List SessionId
  | _, [] => []
  | g, d :: ds => (g.mint d).1 :: (g.mint d).2.mintAll ds

end IdGenerator

/-- Whether the counter has moved from one id to the next by a step that is allowed. -/
def SessionId.followsWithin (a b : SessionId) : Bool :=
  let gap := b.sequence - a.sequence
  leastStep ≤ gap && gap < stepBound

end Gatehouse
