/-
Settings.

A service has a few settings: how long a session lives without being used, how
often its traffic is reported, how long before the end a warning is due, and
whether a call that nobody is answerable for is let through.  Everything has a
default.  A warning must be due before the end, and a session must live at all;
settings that break this can be written down but are not valid.
-/
import Gatehouse.Json.Record
import Gatehouse.ServiceError
import Gatehouse.Text.Blank
import Gatehouse.Text.Decimal
import Gatehouse.Text.Quoted
import Gatehouse.Text.Uppercase
import Gatehouse.Toml.Document

namespace Gatehouse

/-- What happens to a call that nobody is answerable for. -/
inductive UnboundPolicy where
  /-- It is let through. -/
  | allow
  /-- It is refused. -/
  | deny
  deriving DecidableEq, Inhabited

namespace UnboundPolicy

/-- The policy's name. -/
def name : UnboundPolicy → String
  | .allow => "allow"
  | .deny => "deny"

/-- The policy as reports show it. -/
def report : UnboundPolicy → String
  | .allow => "Allow"
  | .deny => "Deny"

/-- The policy of exactly the given name. -/
def ofName? (s : String) : Option UnboundPolicy :=
  if s = "allow" then some .allow else if s = "deny" then some .deny else none

/-- The policy that a person named: blanks around it and the case of ASCII letters do not
matter. -/
def parse (s : String) : Except ServiceError UnboundPolicy :=
  let t := Text.lowerAscii (Text.trim s)
  match ofName? t with
  | some p => .ok p
  | none => .error (.invalid ("unknown unbound policy '" ++ t ++ "', expected 'allow' or 'deny'"))

/-- The policy in JSON: its name. -/
def toJson (p : UnboundPolicy) : Json.Value := .ofText p.name

/-- Reads a policy. -/
def ofJson? (v : Json.Value) : Option UnboundPolicy := do
  let (name, body) ← v.choice?
  if Json.carriesNothing body then ofName? name else none

/-- Reads a policy in a settings file. -/
def ofToml? (v : Toml.Value) : Option UnboundPolicy := v.choice?.bind ofName?

end UnboundPolicy

/-- The settings of sessions.  Times are in minutes. -/
structure SessionSettings where
  /-- How long a session lives after it was last used. -/
  ttlMinutes : UInt32
  /-- How long traffic is collected before it is reported; zero switches reports off. -/
  trafficFlushMinutes : UInt32
  /-- How long before the end of a session a warning is due. -/
  expirationWarningMinutes : UInt32
  deriving DecidableEq

namespace SessionSettings

/-- The settings that hold where nothing else is said. -/
def default : SessionSettings := ⟨20, 0, 2⟩

instance : Inhabited SessionSettings := ⟨default⟩

/-- Why settings are not valid, if they are not. -/
def validate (s : SessionSettings) : Except ServiceError Unit :=
  if s.ttlMinutes = 0 then .error (.invalid "session.ttl_minutes must be positive")
  else if s.ttlMinutes ≤ s.expirationWarningMinutes then
    .error (.invalid ("session.expiration_warning_minutes (" ++ toString s.expirationWarningMinutes
      ++ ") must be below session.ttl_minutes (" ++ toString s.ttlMinutes ++ ")"))
  else .ok ()

/-- The settings in JSON. -/
def toJson (s : SessionSettings) : Json.Value :=
  .ofMembers [("ttl_minutes", .int s.ttlMinutes.toNat),
    ("traffic_flush_minutes", .int s.trafficFlushMinutes.toNat),
    ("expiration_warning_minutes", .int s.expirationWarningMinutes.toNat)]

/-- The names of the settings, in declared order. -/
def fieldNames : List String :=
  ["ttl_minutes", "traffic_flush_minutes", "expiration_warning_minutes"]

/-- A setting, which is `fallback` where it is left out. -/
def setting {α β : Type} (read : α → Option β) (fallback : β) : Option α → Option β
  | none => some fallback
  | some v => read v

/-- The settings from the values of their fields, each of which may be left out. -/
def ofFields? {α : Type} (read : α → Option UInt32) : List (Option α) → Option SessionSettings
  | [ttl, flush, warning] => do
    return ⟨← setting read default.ttlMinutes ttl,
      ← setting read default.trafficFlushMinutes flush,
      ← setting read default.expirationWarningMinutes warning⟩
  | _ => none

/-- Reads the settings. -/
def ofJson? (v : Json.Value) : Option SessionSettings := do
  ofFields? Json.Value.uint32? (← v.fields? (fieldNames.map (⟨·, .defaulted⟩)))

/-- Reads the settings in a settings file. -/
def ofToml? (v : Toml.Value) : Option SessionSettings := do
  ofFields? Toml.Value.uint32? (← v.fields? fieldNames)

/-- The settings as reports show them. -/
def report (s : SessionSettings) : String :=
  Text.labelled "SessionConfig"
    [("ttl_minutes", toString s.ttlMinutes),
     ("traffic_flush_minutes", toString s.trafficFlushMinutes),
     ("expiration_warning_minutes", toString s.expirationWarningMinutes)]

end SessionSettings

/-- The settings of access checks. -/
structure AuthorizationSettings where
  /-- What happens to a call that nobody is answerable for. -/
  unboundPolicy : UnboundPolicy
  deriving DecidableEq

namespace AuthorizationSettings

/-- The settings that hold where nothing else is said. -/
def default : AuthorizationSettings := ⟨.allow⟩

instance : Inhabited AuthorizationSettings := ⟨default⟩

/-- The settings in JSON. -/
def toJson (s : AuthorizationSettings) : Json.Value :=
  .ofMembers [("unbound_policy", s.unboundPolicy.toJson)]

/-- Reads the settings. -/
def ofJson? (v : Json.Value) : Option AuthorizationSettings := do
  match ← v.fields? [⟨"unbound_policy", .defaulted⟩] with
  | [p] => return ⟨← SessionSettings.setting UnboundPolicy.ofJson? .allow p⟩
  | _ => none

/-- Reads the settings in a settings file. -/
def ofToml? (v : Toml.Value) : Option AuthorizationSettings := do
  match ← v.fields? ["unbound_policy"] with
  | [p] => return ⟨← SessionSettings.setting UnboundPolicy.ofToml? .allow p⟩
  | _ => none

end AuthorizationSettings

/-- All settings. -/
structure Settings where
  /-- Those of sessions. -/
  session : SessionSettings
  /-- Those of access checks. -/
  authorization : AuthorizationSettings
  deriving DecidableEq

namespace Settings

/-- The settings that hold where nothing else is said. -/
def default : Settings := ⟨.default, .default⟩

instance : Inhabited Settings := ⟨default⟩

/-- Why settings are not valid, if they are not. -/
def validate (s : Settings) : Except ServiceError Unit := s.session.validate

/-- The settings in JSON. -/
def toJson (s : Settings) : Json.Value :=
  .ofMembers [("session", s.session.toJson), ("authorization", s.authorization.toJson)]

/-- Reads the settings. -/
def ofJson? (v : Json.Value) : Option Settings := do
  match ← v.fields? [⟨"session", .defaulted⟩, ⟨"authorization", .defaulted⟩] with
  | [s, a] =>
    return ⟨← SessionSettings.setting SessionSettings.ofJson? .default s,
      ← SessionSettings.setting AuthorizationSettings.ofJson? .default a⟩
  | _ => none

/-- Reads the settings in a settings file. -/
def ofToml? (v : Toml.Value) : Option Settings := do
  match ← v.fields? ["session", "authorization"] with
  | [s, a] =>
    return ⟨← SessionSettings.setting SessionSettings.ofToml? .default s,
      ← SessionSettings.setting AuthorizationSettings.ofToml? .default a⟩
  | _ => none

end Settings

end Gatehouse
