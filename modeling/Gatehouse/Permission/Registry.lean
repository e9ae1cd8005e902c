/-
Registries of permissions.

A registry knows what permissions are called.  It keeps one descriptor for each
normal form, and the first one stays: registering the same code again changes
nothing, and only an equal descriptor takes it out.  What a registry does not
know goes by its code.
-/
import Gatehouse.Permission.Catalog
import Gatehouse.Permission.Denial
import Gatehouse.Permission.Kind
import Gatehouse.ServiceError

namespace Gatehouse

/-- What is known about one permission. -/
structure Descriptor where
  /-- Its code. -/
  code : Code
  /-- What it is called. -/
  name : String
  /-- What it is for. -/
  description : Option String
  deriving DecidableEq, Inhabited

namespace Descriptor

/-- The form of the code under which the descriptor is filed. -/
def form (d : Descriptor) : String := d.code.normalized

/-- The descriptor of a kind, which must have a code. -/
def ofKind (k : Kind) : Except ServiceError Descriptor :=
  match k.code with
  | some code => .ok ⟨code, k.name, k.description⟩
  | none => .error (.invalidPermissionKind k.path)

/-- The descriptor of a code that nobody has registered. -/
def unregistered (code : String) : Descriptor := ⟨⟨code⟩, code, none⟩

/-- The fields of a descriptor, in declared order. -/
def fields : List Json.Field :=
  [⟨"code", .required⟩, ⟨"name", .required⟩, ⟨"description", .optionalInObject⟩]

/-- The descriptor in JSON. -/
def toJson (d : Descriptor) : Json.Value :=
  .ofMembers [("code", .ofText d.code.text), ("name", .ofText d.name),
    ("description", .ofOption (d.description.map .ofText))]

/-- Reads a descriptor. -/
def ofJson? (v : Json.Value) : Option Descriptor :=
  match v.fields? fields with
  | some [some c, some n, d] => do
    return ⟨⟨← c.text?⟩, ← n.text?, ← (d.getD .null).nullable? Json.Value.text?⟩
  | _ => none

end Descriptor

/-- A registry: the descriptors it keeps, filed under the normal forms of their codes. -/
structure Registry where
  /-- The descriptors. -/
  descriptors : Catalog Descriptor Descriptor.form
  deriving Inhabited

namespace Registry

/-- The registry that knows nothing. -/
def empty : Registry := ⟨∅⟩

instance : EmptyCollection Registry := ⟨empty⟩

/-- Keeps the descriptor unless its code is taken. -/
def register (r : Registry) (d : Descriptor) : Registry := ⟨r.descriptors.add d⟩

/-- Whether a descriptor with this code would be kept. -/
def accepts (r : Registry) (d : Descriptor) : Bool := !r.descriptors.contains d.form

/-- Keeps the kind's descriptor, and says whether it did. -/
def registerKind (r : Registry) (k : Kind) : Except ServiceError (Registry × Bool) := do
  let d ← Descriptor.ofKind k
  return (r.register d, r.accepts d)

/-- Keeps each descriptor in turn, counting those kept. -/
def registerCounting : Registry → List Descriptor → Registry × Nat
  | r, [] => (r, 0)
  | r, d :: ds =>
    let (s, n) := (r.register d).registerCounting ds
    (s, if r.accepts d then n + 1 else n)

/-- Keeps the descriptors of all kinds, and says how many are new.  If one of the kinds has no
code, none is kept. -/
def registerKinds (r : Registry) (ks : List Kind) : Except ServiceError (Registry × Nat) := do
  let ds ← ks.mapM Descriptor.ofKind
  return r.registerCounting ds

/-- Takes the descriptor out if it is the very one that is kept. -/
def unregister (r : Registry) (d : Descriptor) : Registry :=
  if r.descriptors.get? d.form = some d then ⟨r.descriptors.drop d.form⟩ else r

/-- Takes out each descriptor that is the very one kept. -/
def unregisterAll (r : Registry) (ds : List Descriptor) : Registry := ds.foldl unregister r

/-- Takes out the descriptors of those kinds that have a code. -/
def unregisterKinds (r : Registry) (ks : List Kind) : Registry :=
  r.unregisterAll (ks.filterMap fun k => (Descriptor.ofKind k).toOption)

/-- What is known about a code, which may be nothing but the code. -/
def get (r : Registry) (code : String) : Descriptor :=
  (r.descriptors.get? (Text.upper code)).getD (.unregistered code)

/-- Whether the code is registered. -/
def contains (r : Registry) (code : String) : Bool := r.descriptors.contains (Text.upper code)

/-- All descriptors, in the order of their normal forms. -/
def toList (r : Registry) : List Descriptor := r.descriptors.items

/-- How many descriptors are kept. -/
def size (r : Registry) : Nat := r.descriptors.size

/-- Whether none is kept. -/
def isEmpty (r : Registry) : Bool := r.descriptors.isEmpty

/-- What the permission is called on each level from the top down, with points between. -/
def fullName (r : Registry) (code : String) : String :=
  String.ofList (joinPoints ((Code.mk code).prefixes.map fun p => (r.get p.text).name.toList))

/-- How a denial of the code is worded, if the code is registered. -/
def denialReason (r : Registry) (code : String) : Option String :=
  (r.descriptors.get? (Text.upper code)).map fun d => Denial.defaultMessage code d.name

end Registry

end Gatehouse
