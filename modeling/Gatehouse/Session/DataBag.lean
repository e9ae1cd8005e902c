/-
Data that parts of a program keep with a session.

Each part is an owner and has keys of its own; the same key of two owners is two
keys.  What is kept has a type, and asking for it as another type finds nothing.
Which types there are is left open: a bag is given them by their values.
An owner without keys leaves no trace, so a bag is empty exactly when nothing is
kept in it.  A detached bag keeps nothing at all.
-/
import Gatehouse.SortedMap
import Gatehouse.Text.Quoted

namespace Gatehouse

/-! ### Data -/

/-- Something that is kept: a value of one of the types whose values are `V`. -/
structure Datum {τ : Type} (V : τ → Type) where
  /-- What type it is of. -/
  type : τ
  /-- What it is. -/
  value : V type

namespace Datum

variable {τ : Type} {V : τ → Type} [DecidableEq τ]

/-- The value, if it is of the given type. -/
def as? (d : Datum V) (type : τ) : Option (V type) :=
  if h : d.type = type then some (h ▸ d.value) else none

theorem as?_eq_some_iff {d : Datum V} {type : τ} {v : V type} :
    d.as? type = some v ↔ d = ⟨type, v⟩ := by
  constructor
  · intro h
    obtain ⟨type', v'⟩ := d
    by_cases htype : type' = type
    · subst htype
      exact congrArg (Datum.mk type') (Option.some.inj ((dif_pos rfl).symm.trans h))
    · cases (dif_neg htype).symm.trans h
  · rintro rfl
    exact dif_pos rfl

end Datum

/-- The types that sessions keep. -/
inductive DatumType where
  /-- Numbers of thirty-two bits. -/
  | uint32
  /-- Signed numbers of sixty-four bits. -/
  | int64
  /-- Truth values. -/
  | bool
  /-- Texts. -/
  | string
  deriving DecidableEq, Inhabited

/-- The values of a type that sessions keep. -/
def DatumType.Value : DatumType → Type
  | .uint32 => UInt32
  | .int64 => Int64
  | .bool => Bool
  | .string => String

namespace Datum

/-- A number of thirty-two bits. -/
def uint32 (n : UInt32) : Datum DatumType.Value := ⟨.uint32, n⟩

/-- A signed number of sixty-four bits. -/
def int64 (n : Int64) : Datum DatumType.Value := ⟨.int64, n⟩

/-- A truth value. -/
def bool (b : Bool) : Datum DatumType.Value := ⟨.bool, b⟩

/-- A text. -/
def string (s : String) : Datum DatumType.Value := ⟨.string, s⟩

end Datum

/-! ### Bags -/

/-- A bag of data. -/
structure DataBag {τ : Type} (V : τ → Type) where
  /-- What each owner keeps, by key. -/
  owners : SortedMap String (SortedMap String (Datum V))
  /-- Whether the bag keeps nothing. -/
  detached : Bool
  /-- Each owner that is listed keeps something. -/
  inhabited : ∀ e ∈ owners.entries, e.2.isEmpty = false
  /-- A detached bag has no owners. -/
  detached_empty : detached = true → owners = ∅

namespace DataBag

variable {τ : Type} {V : τ → Type}

/-- The bag with nothing in it. -/
def empty : DataBag V := ⟨∅, false, (by intro e he; cases he), fun _ => rfl⟩

/-- The bag that keeps nothing. -/
def detachedBag : DataBag V := ⟨∅, true, (by intro e he; cases he), fun _ => rfl⟩

instance : Inhabited (DataBag V) := ⟨empty⟩

/-- What an owner keeps. -/
def ownedBy (b : DataBag V) (owner : String) : SortedMap String (Datum V) :=
  (b.owners.get? owner).getD ∅

/-- What an owner keeps under a key, of whatever type. -/
def kept? (b : DataBag V) (owner key : String) : Option (Datum V) := (b.ownedBy owner).get? key

/-- What an owner keeps under a key, if it is of the given type. -/
def get? [DecidableEq τ] (b : DataBag V) (owner key : String) (type : τ) : Option (V type) :=
  (b.kept? owner key).bind (·.as? type)

/-- The bag in which an owner keeps all that is given, which is something. -/
def withOwned (b : DataBag V) (hb : b.detached = false) (owner : String)
    (owned : SortedMap String (Datum V)) (howned : owned.isEmpty = false) : DataBag V where
  owners := b.owners.insert owner owned
  detached := b.detached
  inhabited e he := by
    rcases SortedMap.mem_insert he with rfl | he
    · exact howned
    · exact b.inhabited e he
  detached_empty hd := absurd (hb.symm.trans hd) Bool.false_ne_true

/-- Keeps a datum for an owner under a key. -/
def set (b : DataBag V) (owner key : String) (d : Datum V) : DataBag V :=
  if h : b.detached = true then b
  else
    b.withOwned (Bool.eq_false_iff.2 h) owner ((b.ownedBy owner).insert key d)
      (SortedMap.isEmpty_insert ..)

/-- Forgets all that an owner keeps. -/
def clearOwner (b : DataBag V) (owner : String) : DataBag V where
  owners := b.owners.erase owner
  detached := b.detached
  inhabited e he := b.inhabited e (SortedMap.mem_erase he)
  detached_empty hd := by
    rw [b.detached_empty hd]
    rfl

theorem detached_eq_false_of_get? {b : DataBag V} {owner : String}
    {owned : SortedMap String (Datum V)} (h : b.owners.get? owner = some owned) :
    b.detached = false := by
  cases hd : b.detached with
  | false => rfl
  | true =>
    rw [b.detached_empty hd] at h
    cases h

/-- Forgets what an owner keeps under a key, and says whether that was anything.  An owner that
keeps nothing any more is forgotten. -/
def remove (b : DataBag V) (owner key : String) : DataBag V × Bool :=
  match h : b.owners.get? owner with
  | none => (b, false)
  | some owned =>
    let rest := owned.erase key
    (if hrest : rest.isEmpty = true then b.clearOwner owner
      else
        b.withOwned (detached_eq_false_of_get? h) owner rest (Bool.eq_false_iff.2 hrest),
      owned.contains key)

/-- The keys of an owner, in order. -/
def keys (b : DataBag V) (owner : String) : List String := (b.ownedBy owner).keys

/-- Whether no owner is listed. -/
def isEmpty (b : DataBag V) : Bool := b.owners.isEmpty

/-- The bag as reports show it: the keys of each owner. -/
def report (b : DataBag V) : String :=
  "\x7b" ++ ", ".intercalate (b.owners.entries.map fun e =>
    Text.quoted e.1 ++ ": " ++ Text.bracketed (e.2.keys.map Text.quoted)) ++ "\x7d"

end DataBag

/-- What parts of a program keep with a session. -/
abbrev SessionData := DataBag DatumType.Value

end Gatehouse
