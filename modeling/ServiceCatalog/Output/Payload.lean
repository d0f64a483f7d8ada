import ServiceCatalog.Output

/-!
# Results for machines
-/

namespace ServiceCatalog.Output

open Json

/-- A result as a JSON value in general form. -/
def payload (output : Output) : Json :=
  Json.sorted <| match output with
    | .created identity kind initialized =>
      .object [("service", identity.toJson), ("service_type", .string kind.name), ("initialized", .bool initialized)]
    | .initStatus identity initialized =>
      .object [("service", identity.toJson), ("initialized", .bool initialized)]
    | .deleted report =>
      .object [("service", report.service.toJson), ("volume_ids", strings report.volumeIds)]
    | .services list => .array (list.map (·.toJson))
    | .service attributes => attributes.toJson
    | .members list => .array (list.map (·.toJson))
    | .configFile file => file.toJson

end ServiceCatalog.Output
