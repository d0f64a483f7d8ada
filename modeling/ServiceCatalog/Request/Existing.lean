import ServiceCatalog.Service.Credentials
import ServiceCatalog.Service.Identity
import ServiceCatalog.Service.Kind

/-!
# Requests about services that exist
-/

namespace ServiceCatalog.Request

open Json Service

/-- The JSON form of a kind of service. -/
def kindToJson (kind : Kind) : Json := .string kind.name

/-- Reads a kind of service: its name, or an object whose only field has that name and the value `null`. -/
def kindOfJson? : Json → Option Kind
  | .string s => Kind.all.find? fun k => k.name = s
  | .object [(key, .null)] => Kind.all.find? fun k => k.name = key
  | _ => none

/-- Asks whether a created service is initialized. -/
structure CheckInit where
  kind : Kind
  service : Identity
  admin : Credentials
deriving DecidableEq

/-- The JSON form of a check. -/
def CheckInit.toJson (r : CheckInit) : Json :=
  .object [("service_type", kindToJson r.kind), ("service", r.service.toJson), ("admin", r.admin.toJson)]

/-- Reads a check. -/
def CheckInit.ofJson? (value : Json) : Option CheckInit := do
  match ← record? ["service_type", "service", "admin"] value with
  | [kind, service, admin] =>
    some ⟨← required? kindOfJson? kind, ← required? Identity.ofJson? service, ← required? Credentials.ofJson? admin⟩
  | _ => none

/-- Asks for the services of a cluster whose names start with a text. -/
structure ListServices where
  region : String
  cluster : String
  namesStart : String
deriving DecidableEq

/-- The JSON form of a list request. -/
def ListServices.toJson (r : ListServices) : Json :=
  .object [("region", .string r.region), ("cluster", .string r.cluster), ("prefix", .string r.namesStart)]

/-- Reads a list request. The start of the names may be left out. -/
def ListServices.ofJson? (value : Json) : Option ListServices := do
  match ← record? ["region", "cluster", "prefix"] value with
  | [region, cluster, namesStart] =>
    some ⟨← required? text? region, ← required? text? cluster, ← withDefault? "" text? namesStart⟩
  | _ => none

/-- Asks for one config file of a service. -/
structure GetConfigFile where
  region : String
  cluster : String
  serviceUuid : String
  fileId : String
deriving DecidableEq

/-- The JSON form of a request for a config file. -/
def GetConfigFile.toJson (r : GetConfigFile) : Json :=
  .object [("region", .string r.region), ("cluster", .string r.cluster), ("service_uuid", .string r.serviceUuid),
    ("file_id", .string r.fileId)]

/-- Reads a request for a config file. -/
def GetConfigFile.ofJson? (value : Json) : Option GetConfigFile := do
  match ← record? ["region", "cluster", "service_uuid", "file_id"] value with
  | [region, cluster, uuid, id] =>
    some ⟨← required? text? region, ← required? text? cluster, ← required? text? uuid, ← required? text? id⟩
  | _ => none

end ServiceCatalog.Request
