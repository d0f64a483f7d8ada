import ServiceCatalog.Operation
import ServiceCatalog.Service.Kind
import ServiceCatalog.Service.Resources

/-!
# Violations

What can be wrong with the input of a run before anything is sent. Each cause has one wording.
-/

namespace ServiceCatalog

open Service

/-- A rule of the input that is broken. -/
inductive Violation where
  | unknownOperation (text : String)
  | noService
  | noRegion
  | noCluster
  | noRequestTime
  | noInterval
  | noKind
  | unknownKind (text : String)
  | badSize (replicas volumeSizeGb : Int64)
  | cpuNotPositive (reserved max : Int64)
  | memoryNotPositive (reserved max : Int64)
  | cpuAboveMax (reserved max : Int64)
  | memoryAboveMax (reserved max : Int64)
  | replicationNotApplicable (kind : Kind)
  | noConfigFile
  | other (text : String)
deriving DecidableEq

namespace Violation

/-- The names of all operations, as they are listed to the user. -/
def operationNames (separator : String) : String := separator.intercalate (Operation.all.map Operation.name)

/-- What the user is told about a violation. -/
def message : Violation → String
  | unknownOperation text => s!"invalid operation '{text}', please specify " ++ operationNames "|"
  | noService => "please specify the valid service name"
  | noRegion => "please specify the region"
  | noCluster => "please specify the cluster"
  | noRequestTime => "request timeout must be greater than zero"
  | noInterval => "wait interval must be greater than zero"
  | noKind => "please specify the service type: document-store|relational-store"
  | unknownKind text => s!"invalid service type '{text}', please specify document-store|relational-store|generic"
  | badSize replicas volume =>
    "please specify the valid replica number and volume size " ++
      s!"(replicas {replicas.toInt}, volume size {volume.toInt}GB)"
  | cpuNotPositive reserved max => s!"cpu units must be positive (reserve {reserved.toInt}, max {max.toInt})"
  | memoryNotPositive reserved max => s!"memory must be positive (reserve {reserved.toInt}MB, max {max.toInt}MB)"
  | cpuAboveMax reserved max => s!"reserved cpu units {reserved.toInt} exceed max cpu units {max.toInt}"
  | memoryAboveMax reserved max => s!"reserved memory {reserved.toInt}MB exceeds max memory {max.toInt}MB"
  | replicationNotApplicable kind => s!"replication credentials only apply to relational-store, not {kind.name}"
  | noConfigFile => "please specify the service uuid and config file id"
  | other text => text

end Violation

/-- The operation a text names. -/
def Operation.read (text : String) : Except Violation Operation :=
  match ofText? text with
  | some operation => .ok operation
  | none => .error (.unknownOperation (Text.trim text))

/-- The kind of service a text names. -/
def Service.Kind.read (text : String) : Except Violation Kind :=
  match ofText? text with
  | some kind => .ok kind
  | none => .error (.unknownKind (normalize text))

/-- Fails with the first rule of container resources that is broken: all amounts are positive, and no reservation is
above its limit. -/
def Service.Resources.check (r : Resources) : Except Violation Unit :=
  if r.reservedCpuUnits ≤ 0 ∨ r.maxCpuUnits ≤ 0 then .error (.cpuNotPositive r.reservedCpuUnits r.maxCpuUnits)
  else if r.reservedMemoryMb ≤ 0 ∨ r.maxMemoryMb ≤ 0 then
    .error (.memoryNotPositive r.reservedMemoryMb r.maxMemoryMb)
  else if r.maxCpuUnits < r.reservedCpuUnits then .error (.cpuAboveMax r.reservedCpuUnits r.maxCpuUnits)
  else if r.maxMemoryMb < r.reservedMemoryMb then .error (.memoryAboveMax r.reservedMemoryMb r.maxMemoryMb)
  else .ok ()

end ServiceCatalog
