import ServiceCatalog.Service.Attributes
import ServiceCatalog.Service.ConfigFile
import ServiceCatalog.Service.Identity
import ServiceCatalog.Service.Kind
import ServiceCatalog.Service.Member

/-!
# What operations achieve
-/

namespace ServiceCatalog

open Service

/-- A service that is deleted, and the volumes of its members, which still exist. -/
structure Deletion where
  service : Identity
  volumeIds : List String
deriving DecidableEq

/-- The result of an operation. -/
inductive Output where
  /-- A service is created, and known to be initialized if that was waited for. -/
  | created (service : Identity) (kind : Kind) (initialized : Bool)
  | initStatus (service : Identity) (initialized : Bool)
  | deleted (deletion : Deletion)
  | services (services : List Attributes)
  | service (attributes : Attributes)
  | members (members : List Member)
  | configFile (file : ConfigFile)

end ServiceCatalog
