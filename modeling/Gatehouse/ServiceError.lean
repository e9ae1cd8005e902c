/-
What can go wrong in the service, short of a denial.

An error is its cause; the wording is made from the cause in one place.
-/
import Gatehouse.Json.Record

namespace Gatehouse

/-- The cause of an error. -/
inductive ServiceError where
  /-- A value that makes no sense where it is given. -/
  | invalid (message : String)
  /-- Something asked for that is not there. -/
  | notFound (message : String)
  /-- A kind that has no code. -/
  | invalidPermissionKind (path : String)
  /-- A session that was not approved. -/
  | vetoed (message : String)
  /-- Something that could not be kept. -/
  | persistence (message : String)
  /-- Settings that could not be read. -/
  | config (message : String)
  /-- Anything else. -/
  | internal (message : String)
  deriving DecidableEq, Inhabited

namespace ServiceError

/-- The name of the cause. -/
def kind : ServiceError → String
  | .invalid _ => "Invalid"
  | .notFound _ => "NotFound"
  | .invalidPermissionKind _ => "InvalidPermissionKind"
  | .vetoed _ => "Vetoed"
  | .persistence _ => "Persistence"
  | .config _ => "Config"
  | .internal _ => "Internal"

/-- What the cause is about. -/
def detail : ServiceError → String
  | .invalid m | .notFound m | .invalidPermissionKind m | .vetoed m | .persistence m
  | .config m | .internal m => m

/-- The error in words. -/
def message : ServiceError → String
  | .invalid m => "Invalid: " ++ m
  | .notFound m => "Not found: " ++ m
  | .invalidPermissionKind p => "Invalid permission kind: " ++ p
  | .vetoed m => "Session creation vetoed: " ++ m
  | .persistence m => "Persistence error: " ++ m
  | .config m => "Config error: " ++ m
  | .internal m => "Internal error: " ++ m

/-- The error with a cause of the given name. -/
def ofKind? (kind detail : String) : Option ServiceError :=
  match kind with
  | "Invalid" => some (.invalid detail)
  | "NotFound" => some (.notFound detail)
  | "InvalidPermissionKind" => some (.invalidPermissionKind detail)
  | "Vetoed" => some (.vetoed detail)
  | "Persistence" => some (.persistence detail)
  | "Config" => some (.config detail)
  | "Internal" => some (.internal detail)
  | _ => none

/-- The error for a file that could not be read. -/
def ofFileError (missing : Bool) (message : String) : ServiceError :=
  if missing then .notFound message else .internal message

/-- The name of the field that holds the detail. -/
def detailField : ServiceError → String
  | .invalidPermissionKind _ => "path"
  | _ => "message"

/-- The error in JSON: its kind, holding the detail. -/
def toJson (e : ServiceError) : Json.Value :=
  .ofMembers [(e.kind, .ofMembers [(e.detailField, .ofText e.detail)])]

/-- Reads an error. -/
def ofJson? (v : Json.Value) : Option ServiceError := do
  match ← v.choice? with
  | (kind, some body) => do
    let sample ← ofKind? kind ""
    ofKind? kind (← body.soleText? sample.detailField)
  | (_, none) => none

end ServiceError

end Gatehouse
