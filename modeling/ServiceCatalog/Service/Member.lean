import ServiceCatalog.Json.Record

/-!
# Members of a service

A member is one replica with its volume and its config files.
-/

namespace ServiceCatalog.Service

open Json

/-- A config file that belongs to a member. -/
structure MemberConfig where
  fileName : String
  fileId : String
  md5 : String
deriving DecidableEq, Repr

/-- The JSON form of a member's config file. -/
def MemberConfig.toJson (c : MemberConfig) : Json :=
  .object [("file_name", .string c.fileName), ("file_id", .string c.fileId), ("file_md5", .string c.md5)]

/-- Reads a member's config file. The checksum may be left out. -/
def MemberConfig.ofJson? (value : Json) : Option MemberConfig := do
  match ← record? ["file_name", "file_id", "file_md5"] value with
  | [name, id, md5] => some ⟨← required? text? name, ← required? text? id, ← withDefault? "" text? md5⟩
  | _ => none

/-- One replica of a service. -/
structure Member where
  name : String
  zone : Option String
  volumeId : String
  configs : List MemberConfig
deriving DecidableEq, Repr

/-- The JSON form of a member. A zone that is not known is left out. -/
def Member.toJson (m : Member) : Json :=
  .object <| [("member_name", .string m.name)] ++
    (match m.zone with
      | some zone => [("available_zone", .string zone)]
      | none => []) ++
    [("volume_id", .string m.volumeId), ("configs", .array (m.configs.map MemberConfig.toJson))]

/-- Reads a member. Only the volume has to be there. -/
def Member.ofJson? (value : Json) : Option Member := do
  match ← record? ["member_name", "available_zone", "volume_id", "configs"] value with
  | [name, zone, volume, configs] =>
    some ⟨← withDefault? "" text? name, ← withDefault? none (nullable? text?) zone, ← required? text? volume,
      ← withDefault? [] (list? MemberConfig.ofJson?) configs⟩
  | _ => none

end ServiceCatalog.Service
