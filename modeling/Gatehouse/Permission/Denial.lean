/-
Denials.

A denial says which permission was asked for, as it was asked, and why it is
refused.  Where nobody has worded the refusal, the wording is made from the code
and the name that the permission goes by.
-/
import Gatehouse.Json.Record

namespace Gatehouse

/-- The refusal of one permission. -/
structure Denial where
  /-- The code that was asked for, as it was asked. -/
  code : String
  /-- Why it is refused. -/
  message : String
  deriving DecidableEq, Inhabited

namespace Denial

/-- The wording for a permission that goes by the given name. -/
def defaultMessage (code name : String) : String :=
  if code = name then "access denied: permission '" ++ code ++ "' is required"
  else "access denied: permission '" ++ name ++ "' (" ++ code ++ ") is required"

/-- A denial that nobody has worded. -/
def ofCode (code : String) : Denial := ⟨code, defaultMessage code code⟩

/-- The fields of a denial, in declared order. -/
def fields : List Json.Field := [⟨"code", .required⟩, ⟨"message", .required⟩]

/-- The denial in JSON. -/
def toJson (d : Denial) : Json.Value :=
  .ofMembers [("code", .ofText d.code), ("message", .ofText d.message)]

/-- Reads a denial. -/
def ofJson? (v : Json.Value) : Option Denial :=
  match v.fields? fields with
  | some [some c, some m] => do return ⟨← c.text?, ← m.text?⟩
  | _ => none

end Denial

end Gatehouse
