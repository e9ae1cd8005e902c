/-
Records and choices in JSON.

A record is an object with the record's field names, or an array with its fields
in their declared order.  An object may hold other members, which are ignored,
but no declared one twice; an array may be too short only if everything it leaves
out has a default, and never too long.  A choice between alternatives is the
name of one that carries nothing, or an object whose only member is named for the
alternative and holds what it carries.
-/
import Gatehouse.Json.Value

namespace Gatehouse.Json

/-- Where a field may be left out. -/
inductive Presence where
  /-- The field is always there. -/
  | required
  /-- The field may be missing from an object. -/
  | optionalInObject
  /-- The field has a default and may be missing from both forms. -/
  | defaulted
  deriving DecidableEq, Repr

/-- A declared field of a record. -/
structure Field where
  /-- Its name in an object. -/
  name : String
  /-- Where it may be left out. -/
  presence : Presence := .required

/-- The value of the first member with the given name. -/
def lookup (name : String) : List (Option String × Value) → Option Value
  | [] => none
  | m :: ms => if m.1 = some name then some m.2 else lookup name ms

/-- How many members have the given name. -/
def occurrences (name : String) (ms : List (Option String × Value)) : Nat :=
  ms.countP fun m => m.1 = some name

/-- The values of the declared fields in an object, in declared order. -/
def fieldsOfMembers? (fields : List Field) (ms : List (Option String × Value)) :
    Option (List (Option Value)) :=
  if ms.all (fun m => m.1.isSome) && fields.all (fun f => occurrences f.name ms ≤ 1) then
    fields.mapM fun f =>
      match lookup f.name ms with
      | some v => some (some v)
      | none => if f.presence = .required then none else some none
  else none

/-- The values of the declared fields in an array, in declared order. -/
def fieldsOfItems? : List Field → List Value → Option (List (Option Value))
  | [], [] => some []
  | [], _ :: _ => none
  | _ :: fs, v :: vs => (fieldsOfItems? fs vs).map (some v :: ·)
  | f :: fs, [] => if f.presence = .defaulted then (fieldsOfItems? fs []).map (none :: ·) else none

/-- The values of the declared fields, in declared order, of either form of a record. -/
def Value.fields? (fields : List Field) : Value → Option (List (Option Value))
  | .obj ms => fieldsOfMembers? fields ms
  | .arr vs => fieldsOfItems? fields vs
  | _ => none

/-- The name of the alternative chosen, and what it carries. -/
def Value.choice? : Value → Option (String × Option Value)
  | .str (some name) => some (name, none)
  | .obj [(some name, v)] => some (name, some v)
  | _ => none

/-- Whether an alternative that carries nothing is written in one of its two forms. -/
def carriesNothing : Option Value → Bool
  | none => true
  | some .null => true
  | some _ => false

/-- The text that a record of one text field holds. -/
def Value.soleText? (field : String) (v : Value) : Option String :=
  match v.fields? [⟨field, .required⟩] with
  | some [some t] => t.text?
  | _ => none

end Gatehouse.Json
