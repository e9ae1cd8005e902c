/-
Where settings come from.

Settings are read from a file and then overridden by variables.  A file must be
UTF-8, well formed and valid.  Variables are taken one after the other, those
that mean nothing are passed over, and the first that cannot be read ends it, with
the earlier ones in force; whether the result is valid is asked only at the end,
so two variables may change together what neither may change alone.
-/
import Gatehouse.Settings.Basic

namespace Gatehouse

/-! ### Files -/

/-- Why settings could not be loaded. -/
inductive LoadError where
  /-- The file could not be read, for the given reason. -/
  | unreadable (path reason : String)
  /-- What the file holds is no text. -/
  | notText (path : String)
  /-- The text is not well formed, or a setting has a value that it cannot have. -/
  | illFormed
  /-- The settings are not valid. -/
  | invalid (cause : ServiceError)

/-- The error with its wording.  Of a text that is not well formed only the kind of error is
fixed. -/
def LoadError.toServiceError : LoadError → ServiceError
  | .unreadable path reason => .config ("Failed to read " ++ path ++ ": " ++ reason)
  | .notText path => .config ("Failed to read " ++ path ++ ": stream did not contain valid UTF-8")
  | .illFormed => .config "settings are not well formed"
  | .invalid cause => cause

namespace Settings

/-- The settings that a text holds, which must be valid. -/
def ofText (text : String) : Except LoadError Settings :=
  match (Toml.read? text).bind ofToml? with
  | none => .error .illFormed
  | some s =>
    match s.validate with
    | .ok () => .ok s
    | .error e => .error (.invalid e)

/-- The settings that the bytes of a file hold. -/
def ofBytes (path : String) (bytes : List UInt8) : Except LoadError Settings :=
  match String.fromUTF8? ⟨bytes.toArray⟩ with
  | none => .error (.notText path)
  | some text => ofText text

/-! ### Variables -/

/-- What the names of all variables begin with. -/
def variableStart : String := "KEYSTONE_"

/-- A setting that a variable overrides. -/
inductive Variable where
  /-- How long a session lives. -/
  | ttl
  /-- How long traffic is collected. -/
  | trafficFlush
  /-- When a warning is due. -/
  | expirationWarning
  /-- What happens to calls that nobody is answerable for. -/
  | unboundPolicy
  deriving DecidableEq

/-- The name of the variable, without what all names begin with. -/
def Variable.name : Variable → String
  | .ttl => "SESSION_TTL_MINUTES"
  | .trafficFlush => "SESSION_TRAFFIC_FLUSH_MINUTES"
  | .expirationWarning => "SESSION_EXPIRATION_WARNING_MINUTES"
  | .unboundPolicy => "AUTHORIZATION_UNBOUND_POLICY"

/-- All variables. -/
def Variable.all : List Variable := [.ttl, .trafficFlush, .expirationWarning, .unboundPolicy]

/-- The variable of the given full name. -/
def Variable.ofName? (name : String) : Option Variable :=
  Variable.all.find? fun v => name == variableStart ++ v.name

/-- The number of minutes that a variable's value stands for. -/
def minutes (v : Variable) (value : String) : Except ServiceError UInt32 :=
  match Text.readNat 0xFFFFFFFF (Text.trimmed value.toList) with
  | .ok n => .ok (.ofNat n)
  | .error e =>
    .error (.config (variableStart ++ v.name ++ ": expected minutes, got '" ++ value ++ "' ("
      ++ e.message ++ ")"))

/-- The settings with one of them overridden. -/
def override (s : Settings) (v : Variable) (value : String) : Except ServiceError Settings :=
  match v with
  | .ttl => do return { s with session.ttlMinutes := ← minutes v value }
  | .trafficFlush => do return { s with session.trafficFlushMinutes := ← minutes v value }
  | .expirationWarning => do
    return { s with session.expirationWarningMinutes := ← minutes v value }
  | .unboundPolicy => do
    return { s with authorization.unboundPolicy := ← UnboundPolicy.parse value }

/-- The settings after the variables, and the error that ended it or made the result invalid. -/
def merge : Settings → List (String × String) → Settings × Except ServiceError Unit
  | s, [] => (s, s.validate)
  | s, (name, value) :: rest =>
    match Variable.ofName? name with
    | none => s.merge rest
    | some v =>
      match s.override v value with
      | .ok t => t.merge rest
      | .error e => (s, .error e)

end Settings

end Gatehouse
