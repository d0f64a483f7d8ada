import ServiceCatalog.Files
import ServiceCatalog.Url.Basic

/-!
# Faults of the configuration

Why no connection to the management service can be set up.
-/

namespace ServiceCatalog.Connection

/-- One of the files that secure a connection. -/
inductive TlsFile where
  | ca
  | cert
  | key
deriving DecidableEq, Repr

/-- The name of a file. -/
def TlsFile.name : TlsFile → String
  | ca => "ca file"
  | cert => "cert file"
  | key => "key file"

/-- Something that keeps a connection from being set up. -/
inductive Fault where
  /-- Some of the three files are missing. -/
  | incompleteTls (enabled : Bool) (ca cert key : Option String)
  /-- A path refers to a variable that is not set. -/
  | unknownVariable (path name : String)
  /-- The address of the management service is none. -/
  | badUrl (text : String) (cause : Url.Error)
  /-- A file cannot be read. -/
  | unreadable (file : TlsFile) (path : String) (cause : Files.Error)
  /-- The files of certificate and key do not make an identity. -/
  | badIdentity
  /-- Authority and identity were read but cannot be put to use. -/
  | noClient
  | other (text : String)
deriving DecidableEq

/-- A path as it is shown, also when it is missing. -/
def shown (path : Option String) : String := path.getD "<unset>"

/-- What the user is told about files that do not do. -/
def unusable : String := "builder error"

/-- What the user is told about a fault. -/
def Fault.message : Fault → String
  | incompleteTls enabled ca cert key =>
    let switch := if enabled then "enabled" else "disabled"
    s!"tls {switch} with incomplete material: " ++
      s!"ca file {shown ca}, cert file {shown cert}, key file {shown key}"
  | unknownVariable path name =>
    s!"failed to expand path '{path}': error looking key '{name}' up: environment variable not found"
  | badUrl text cause => s!"invalid server url '{text}': {cause.message}"
  | unreadable file path cause => s!"failed to read {file.name} {path}: {cause.message}"
  | badIdentity => s!"invalid cert or key file: {unusable}"
  | noClient => s!"failed to create HTTP client: {unusable}"
  | other text => text

end ServiceCatalog.Connection
