/-
Why a call is refused.

There are three reasons: nobody is logged on, a permission is missing, or a
licence does not cover the call.
-/
import Gatehouse.Permission.Denial
import Gatehouse.Text.Quoted

namespace Gatehouse

/-- The reason for refusing a call. -/
inductive Fault where
  /-- Nobody is logged on. -/
  | notLoggedOn
  /-- A permission is missing. -/
  | denied (denial : Denial)
  /-- A licence does not cover the call. -/
  | licenseExhausted (reason : String)
  deriving DecidableEq, Inhabited

namespace Fault

/-- The name of the reason. -/
def kind : Fault → String
  | .notLoggedOn => "not_logged_on"
  | .denied _ => "access_denied"
  | .licenseExhausted _ => "license_exhausted"

/-- The code that is missing, if that is the reason. -/
def deniedCode : Fault → Option String
  | .denied d => some d.code
  | _ => none

/-- The reason in words. -/
def message : Fault → String
  | .notLoggedOn => "not logged on"
  | .denied d => d.message
  | .licenseExhausted reason => "license exhausted: " ++ reason

/-- The fault as reports show it. -/
def report : Fault → String
  | .notLoggedOn => "NotLoggedOn"
  | .denied d =>
    "AccessDenied(" ++ Text.labelled "AccessDenied"
      [("code", Text.quoted d.code), ("message", Text.quoted d.message)] ++ ")"
  | .licenseExhausted reason => Text.labelled "LicenseExhausted" [("reason", Text.quoted reason)]

/-- The fault in JSON. -/
def toJson : Fault → Json.Value
  | .notLoggedOn => .ofText "NotLoggedOn"
  | .denied d => .ofMembers [("AccessDenied", d.toJson)]
  | .licenseExhausted reason =>
    .ofMembers [("LicenseExhausted", .ofMembers [("reason", .ofText reason)])]

/-- Reads a fault. -/
def ofJson? (v : Json.Value) : Option Fault := do
  match ← v.choice? with
  | ("NotLoggedOn", body) => if Json.carriesNothing body then some .notLoggedOn else none
  | ("AccessDenied", some body) => return .denied (← Denial.ofJson? body)
  | ("LicenseExhausted", some body) => return .licenseExhausted (← body.soleText? "reason")
  | _ => none

end Fault

end Gatehouse
