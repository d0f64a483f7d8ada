import ServiceCatalog.Output.Payload
import ServiceCatalog.Proofs.Json.Sorted

/-!
# The payload of a deletion
-/

namespace ServiceCatalog.Output

open Json

/-- The payload of a deletion names the service and the volumes, in the order of the keys. -/
theorem payload_deleted (d : Deletion) : payload (.deleted d) =
    .object [("service", .object [("cluster", .string d.service.cluster), ("region", .string d.service.region),
      ("service_name", .string d.service.name)]), ("volume_ids", strings d.volumeIds)] := by
  have hcluster : "cluster" < "region" := by decide
  have hname : ¬ "service_name" < "cluster" ∧ ¬ "service_name" < "region" := by decide
  have hids : ¬ "volume_ids" < "service" := by decide
  have hservice : d.service.toJson.sorted = .object [("cluster", .string d.service.cluster),
      ("region", .string d.service.region), ("service_name", .string d.service.name)] := by
    simp [Service.Identity.toJson, sorted, sortedFields, orderFields, putField, hcluster, hname]
  have hvolumes : (strings d.volumeIds).sorted = strings d.volumeIds := by
    simp [strings, sorted, sortedItems_eq_map, Function.comp_def]
  simp [payload, sorted, sortedFields, orderFields, putField, hids, hservice, hvolumes]

end ServiceCatalog.Output
