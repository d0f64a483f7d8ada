import ServiceCatalog.Arguments
import ServiceCatalog.Config.Profile
import ServiceCatalog.Output.Format

/-!
# Options

What the command line and the variables of the environment say. A setting they do not give is taken from the profile,
and one that the profile does not give either has a standard value.
-/

namespace ServiceCatalog.CommandLine

/-- The options of a run. -/
structure Options where
  profile : Option String := none
  configFile : Option String := none
  output : Output.Format := .auto
  verbose : Nat := 0
  operation : String := ""
  kind : Option String := none
  region : Option String := none
  cluster : Option String := none
  service : Option String := none
  namesStart : Option String := none
  replicas : Int64 := 3
  volumeSizeGb : Int64 := 0
  cpuUnits : Int64 := 256
  maxCpuUnits : Option Int64 := none
  memoryMb : Int64 := 256
  maxMemoryMb : Option Int64 := none
  admin : Option String := none
  password : Option String := none
  replicationUser : Option String := none
  replicationPassword : Option String := none
  tlsEnabled : Bool := false
  caFile : Option String := none
  certFile : Option String := none
  keyFile : Option String := none
  serverUrl : Option String := none
  serviceUuid : Option String := none
  fileId : Option String := none
  noWait : Bool := false
  waitTimeout : Option UInt64 := none
  waitInterval : Option UInt64 := none
  requestTimeout : Option UInt64 := none
deriving DecidableEq, Repr

/-- A number of seconds from an option, a profile, or neither. -/
def layeredSeconds (option profile : Option UInt64) (standard : UInt64) : Duration :=
  .ofSeconds ((option.or profile).getD standard)

/-- The arguments that options and the chosen profile make. -/
def Options.arguments (o : Options) (chosen : Option Config.Profile) : Arguments :=
  let p := chosen.getD {}
  { operation := o.operation
    kind := o.kind
    region := o.region.or p.region
    cluster := (o.cluster.or p.cluster).getD "default"
    service := o.service
    namesStart := o.namesStart
    replicas := o.replicas
    volumeSizeGb := o.volumeSizeGb
    cpuUnits := o.cpuUnits
    maxCpuUnits := o.maxCpuUnits
    memoryMb := o.memoryMb
    maxMemoryMb := o.maxMemoryMb
    admin := o.admin
    password := o.password
    replicationUser := o.replicationUser
    replicationPassword := o.replicationPassword
    serviceUuid := o.serviceUuid
    fileId := o.fileId
    serverUrl := o.serverUrl.or p.serverUrl
    tls :=
      { enabled := o.tlsEnabled || p.tlsEnabled.getD false
        ca := o.caFile.or p.caFile
        cert := o.certFile.or p.certFile
        key := o.keyFile.or p.keyFile }
    requestTimeout := layeredSeconds o.requestTimeout p.requestTimeout 30
    wait := !o.noWait
    waitInterval := layeredSeconds o.waitInterval p.waitInterval 10
    waitTimeout := layeredSeconds o.waitTimeout p.waitTimeout 600 }

end ServiceCatalog.CommandLine
