import ServiceCatalog.Json.Record

/-!
# Service identities
-/

namespace ServiceCatalog.Service

open Json

/-- What tells one service from all others: its region, its cluster and its name. -/
structure Identity where
  region : String
  cluster : String
  name : String
deriving DecidableEq, Repr

/-- The JSON form of an identity. -/
def Identity.toJson (s : Identity) : Json :=
  .object [("region", .string s.region), ("cluster", .string s.cluster), ("service_name", .string s.name)]

/-- Reads an identity. -/
def Identity.ofJson? (value : Json) : Option Identity := do
  match ← record? ["region", "cluster", "service_name"] value with
  | [region, cluster, name] =>
    some ⟨← required? text? region, ← required? text? cluster, ← required? text? name⟩
  | _ => none

end ServiceCatalog.Service
