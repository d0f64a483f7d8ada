import ServiceCatalog.Text.Decimal
import ServiceCatalog.Text.Quoted
import ServiceCatalog.Toml.Value

/-!
# Profiles

A profile holds settings for one management service. A configuration file names profiles and may choose one of them.
-/

namespace ServiceCatalog.Config

/-- The settings for one management service, all of which may be left out. -/
structure Profile where
  serverUrl : Option String := none
  region : Option String := none
  cluster : Option String := none
  tlsEnabled : Option Bool := none
  caFile : Option String := none
  certFile : Option String := none
  keyFile : Option String := none
  waitTimeout : Option UInt64 := none
  waitInterval : Option UInt64 := none
  requestTimeout : Option UInt64 := none
deriving DecidableEq, Repr

end ServiceCatalog.Config

namespace ServiceCatalog

/-- What a configuration file says. No two profiles have the same name. -/
structure Config where
  defaultProfile : Option String := none
  profiles : List (String × Config.Profile) := []
deriving DecidableEq, Repr

namespace Config

open Toml

/-- A value as it is named to the user. -/
def describe : Value → String
  | .text _ value => "string " ++ Text.quoted value
  | .integer _ value => "integer " ++ String.ofList (Text.signedDigits value)
  | .real _ => "floating point number"
  | .truth _ value => if value then "boolean true" else "boolean false"
  | .moment _ => "map"
  | .array _ _ _ => "sequence"
  | .table _ _ _ => "map"

/-- A value that is not of the type that is needed. -/
def mismatch {α : Type} (value : Value) (expected : String) : Except Fault α :=
  .error ⟨value.place, s!"invalid type: {describe value}, expected {expected}"⟩

/-- A text. -/
def text : Value → Except Fault String
  | .text _ value => .ok value
  | value => mismatch value "a string"

/-- A truth value. -/
def truth : Value → Except Fault Bool
  | .truth _ value => .ok value
  | value => mismatch value "a boolean"

/-- A number of seconds. -/
def seconds : Value → Except Fault UInt64
  | .integer place value =>
    if 0 ≤ value ∧ value ≤ Text.maxWord64 then .ok (.ofNat value.toNat) else mismatch (.integer place value) "u64"
  | value => mismatch value "u64"

/-- A value that may be left out. -/
def optional {α : Type} (read : Value → Except Fault α) : Option Value → Except Fault (Option α)
  | none => .ok none
  | some value => (read value).map some

/-- The names of a profile's settings, in their order. -/
def settings : List String :=
  ["server_url", "region", "cluster", "tls_enabled", "ca_file", "cert_file", "key_file", "wait_timeout_secs",
    "wait_interval_secs", "request_timeout_secs"]

/-- Reads the settings of a profile, those in a table in the order of their names. -/
def Profile.ofFields (fields : Fields) : Except Fault Profile := do
  let caFile ← optional text (fields.lookup "ca_file")
  let certFile ← optional text (fields.lookup "cert_file")
  let cluster ← optional text (fields.lookup "cluster")
  let keyFile ← optional text (fields.lookup "key_file")
  let region ← optional text (fields.lookup "region")
  let requestTimeout ← optional seconds (fields.lookup "request_timeout_secs")
  let serverUrl ← optional text (fields.lookup "server_url")
  let tlsEnabled ← optional truth (fields.lookup "tls_enabled")
  let waitInterval ← optional seconds (fields.lookup "wait_interval_secs")
  let waitTimeout ← optional seconds (fields.lookup "wait_timeout_secs")
  pure { serverUrl, region, cluster, tlsEnabled, caFile, certFile, keyFile, waitTimeout, waitInterval, requestTimeout }

/-- Reads a profile: a table of its settings, or a list of the first ones. -/
def Profile.ofValue : Value → Except Fault Profile
  | .table _ _ fields => Profile.ofFields fields
  | .array place ofTables items =>
    if items.length ≤ settings.length then Profile.ofFields (settings.zip items)
    else mismatch (.array place ofTables items) "a shorter list"
  | value => mismatch value "struct Profile"

/-- Reads the profiles of a file in the order of their names. -/
def profilesOf : Value → Except Fault (List (String × Profile))
  | .table _ _ fields => (ordered fields).mapM fun f => (Profile.ofValue f.2).map fun profile => (f.1, profile)
  | value => mismatch value "a map"

/-- Reads the fields of a file. -/
def ofFields (fields : Fields) : Except Fault Config := do
  let defaultProfile ← optional text (fields.lookup "default_profile")
  let profiles ← optional profilesOf (fields.lookup "profiles")
  pure ⟨defaultProfile, profiles.getD []⟩

end Config

end ServiceCatalog
