import ServiceCatalog.Json.Record

/-!
# Config files of a service
-/

namespace ServiceCatalog.Service

open Json

/-- A config file with its content. -/
structure ConfigFile where
  serviceUuid : String
  fileId : String
  name : String
  content : String
deriving DecidableEq, Repr

/-- The JSON form of a config file. -/
def ConfigFile.toJson (f : ConfigFile) : Json :=
  .object [("service_uuid", .string f.serviceUuid), ("file_id", .string f.fileId), ("file_name", .string f.name),
    ("content", .string f.content)]

/-- Reads a config file. Its name may be left out. -/
def ConfigFile.ofJson? (value : Json) : Option ConfigFile := do
  match ← record? ["service_uuid", "file_id", "file_name", "content"] value with
  | [uuid, id, name, content] =>
    some ⟨← required? text? uuid, ← required? text? id, ← withDefault? "" text? name, ← required? text? content⟩
  | _ => none

end ServiceCatalog.Service
