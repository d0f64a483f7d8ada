import ServiceCatalog.Connection.Tls
import ServiceCatalog.Duration

/-!
# Arguments of a run

What flags, environment and profile together ask for, before anything is checked.
-/

namespace ServiceCatalog

/-- All that can be asked of a run. -/
structure Arguments where
  operation : String := ""
  kind : Option String := none
  region : Option String := none
  cluster : String := "default"
  service : Option String := none
  namesStart : Option String := none
  replicas : Int64 := 3
  volumeSizeGb : Int64 := 0
  cpuUnits : Int64 := 256
  maxCpuUnits : Option Int64 := none
  memoryMb : Int64 := 256
  maxMemoryMb : Option Int64 := none
  admin : Option String := none
  password : Option String := none
  replicationUser : Option String := none
  replicationPassword : Option String := none
  serviceUuid : Option String := none
  fileId : Option String := none
  serverUrl : Option String := none
  tls : Connection.TlsOptions := {}
  requestTimeout : Duration := .ofSeconds 30
  wait : Bool := true
  waitInterval : Duration := .ofSeconds 10
  waitTimeout : Duration := .ofSeconds 600
deriving DecidableEq

end ServiceCatalog
