/-
Permission sets.

A set holds codes without regard to letter case and remembers, for each, the
spelling that came first.  A read-only set is the same thing with its operations
switched off: asked to change, it stays as it is.  Sets are values, so a copy
keeps what it had whatever happens to the set it was taken from, and what copies
differ in is only whether they may change.
-/
import Gatehouse.Permission.Catalog
import Gatehouse.Permission.Reason
import Gatehouse.Permission.Thumbprint
import Gatehouse.Text.Quoted

namespace Gatehouse

/-- A set of permission codes. -/
structure PermissionSet where
  /-- The spellings, filed under their normal forms. -/
  spellings : Catalog Code Code.normalized
  /-- Whether the set refuses to change. -/
  readOnly : Bool

namespace PermissionSet

/-! ### Making sets -/

/-- The set that grants nothing and may change. -/
def empty : PermissionSet := ⟨∅, false⟩

instance : EmptyCollection PermissionSet := ⟨empty⟩
instance : Inhabited PermissionSet := ⟨empty⟩

/-- The set of some codes, which may change. -/
def ofCodes (codes : List Code) : PermissionSet := ⟨(∅ : Catalog _ _).addAll codes, false⟩

/-- The set of some codes, which may not change. -/
def readOnlyOfCodes (codes : List Code) : PermissionSet := ⟨(∅ : Catalog _ _).addAll codes, true⟩

/-- A copy that may not change. -/
def snapshot (s : PermissionSet) : PermissionSet := { s with readOnly := true }

/-- A copy that may change. -/
def toMutable (s : PermissionSet) : PermissionSet := { s with readOnly := false }

/-! ### Asking -/

/-- Whether the set grants the code. -/
def contains (s : PermissionSet) (code : String) : Bool := s.spellings.contains (Text.upper code)

/-- Whether the set grants the code or the normal form of something under it. -/
def containsDescendantOf (s : PermissionSet) (ancestor : String) : Bool :=
  s.contains ancestor || s.spellings.forms.any fun f => liesUnder f.toList ancestor.toList

/-- The codes as they were first spelled, in the order of their normal forms. -/
def codes (s : PermissionSet) : List Code := s.spellings.items

/-- How many codes the set grants. -/
def size (s : PermissionSet) : Nat := s.spellings.size

/-- Whether the set grants nothing. -/
def isEmpty (s : PermissionSet) : Bool := s.spellings.isEmpty

/-- The digest of the normal forms. -/
def thumbprint (s : PermissionSet) : Thumbprint := .ofForms s.spellings.forms

/-- Sets are equal when their thumbprints are. -/
instance : BEq PermissionSet := ⟨fun s t => s.thumbprint == t.thumbprint⟩

/-- Passes if the set grants the code; otherwise the denial, in the words of the provider. -/
def check (s : PermissionSet) (registries : Registries) (reason : Option Reason) (code : String)
    (culture : Option String) : Except Denial Unit :=
  if s.contains code then .ok ()
  else
    let worded := reason.bind fun r => r.answer registries code culture
    .error ⟨code, worded.getD (Denial.defaultMessage code code)⟩

/-! ### Changing -/

/-- The set after a change of its codes, if it may change. -/
def update (s : PermissionSet)
    (change : Catalog Code Code.normalized → Catalog Code Code.normalized) : PermissionSet :=
  if s.readOnly then s else { s with spellings := change s.spellings }

/-- Grants each of the codes. -/
def addAll (s : PermissionSet) (codes : List Code) : PermissionSet := s.update (·.addAll codes)

/-- Grants a code. -/
def add (s : PermissionSet) (code : Code) : PermissionSet := s.addAll [code]

/-- Withdraws each of the codes. -/
def removeAll (s : PermissionSet) (codes : List String) : PermissionSet :=
  s.update (·.dropAll (codes.map Text.upper))

/-- Withdraws a code. -/
def remove (s : PermissionSet) (code : String) : PermissionSet := s.removeAll [code]

/-- Withdraws everything. -/
def clear (s : PermissionSet) : PermissionSet := s.update fun _ => ∅

/-! ### Reports -/

/-- The set as reports show it. -/
def report (s : PermissionSet) : String :=
  Text.labelled "PermissionSet"
    [("codes", Text.bracketed (s.spellings.forms.map Text.quoted)),
     ("thumbprint", s.thumbprint.report),
     ("read_only", toString s.readOnly)]

@[simp] theorem update_of_readOnly {s : PermissionSet} (h : s.readOnly = true)
    (change : Catalog Code Code.normalized → Catalog Code Code.normalized) : s.update change = s := by
  simp [update, h]

end PermissionSet

end Gatehouse
