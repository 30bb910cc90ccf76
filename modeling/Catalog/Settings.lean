import Catalog.Json.Reader
import Catalog.Text.Blank

set_option autoImplicit false

namespace Catalog

open Document (withDefault)

structure Settings where
  host : String := "0.0.0.0"
  port : Nat := 54321
  -- no origin at all means that any origin is allowed
  corsOrigins : List String := ["http://localhost:5173", "http://localhost:3000"]
  seedPath : Option String := none
  logFilter : String := "info"
deriving DecidableEq, Repr

inductive SettingsError where
  | read (path message : String)
  | parse (path message : String)
  | invalid (message : String)
deriving DecidableEq, Repr

def SettingsError.message : SettingsError → String
  | .read path message => "failed to read config " ++ path ++ ": " ++ message
  | .parse path message => "invalid config JSON " ++ path ++ ": " ++ message
  | .invalid message => "invalid config: " ++ message

namespace Settings

def withPort (port : Nat) : Settings := { port }

def fieldNames : List String := ["host", "port", "cors_origins", "seed_path", "log_filter"]

def port? (d : Document) : Option Nat :=
  d.nat?.filter (· < Nat.pow 2 16)

def ofDocument? (d : Document) : Option Settings := do
  match ← d.fields? fieldNames with
  | [host, port, corsOrigins, seedPath, logFilter] =>
    let defaults : Settings := {}
    return {
      host := ← withDefault defaults.host Document.text? host
      port := ← withDefault defaults.port port? port
      corsOrigins :=
        ← withDefault defaults.corsOrigins (Document.listOf? Document.text?) corsOrigins
      seedPath := ← withDefault none (Document.nullable? Document.text?) seedPath
      logFilter := ← withDefault defaults.logFilter Document.text? logFilter }
  | _ => none

def validate (s : Settings) : Except SettingsError Settings :=
  if s.port = 0 then .error (.invalid "port must be > 0")
  else if Text.trim s.host = "" then .error (.invalid "host must not be empty")
  else .ok s

def ofText (path text : String) : Except SettingsError Settings :=
  match (Document.read? text).bind ofDocument? with
  | some s => s.validate
  | none => .error (.parse path "not a configuration")

def address (s : Settings) : String :=
  s.host ++ ":" ++ Numeral.text s.port

end Settings
end Catalog
