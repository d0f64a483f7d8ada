import ServiceCatalog.Json.Record

/-!
# Container resources
-/

namespace ServiceCatalog.Service

open Json

/-- The processor units and megabytes of memory of one container, reserved and at most. -/
structure Resources where
  maxCpuUnits : Int64
  reservedCpuUnits : Int64
  maxMemoryMb : Int64
  reservedMemoryMb : Int64
deriving DecidableEq

namespace Resources

/-- Resources whose limits equal their reservations. -/
def reserved (cpuUnits memoryMb : Int64) : Resources := ⟨cpuUnits, cpuUnits, memoryMb, memoryMb⟩

/-- What a service gets that asks for nothing. -/
def standard : Resources := reserved 256 256

/-- The JSON form of resources. -/
def toJson (r : Resources) : Json :=
  .object [("max_cpu_units", integer r.maxCpuUnits.toInt), ("reserve_cpu_units", integer r.reservedCpuUnits.toInt),
    ("max_mem_mb", integer r.maxMemoryMb.toInt), ("reserve_mem_mb", integer r.reservedMemoryMb.toInt)]

/-- Reads resources. -/
def ofJson? (value : Json) : Option Resources := do
  match ← record? ["max_cpu_units", "reserve_cpu_units", "max_mem_mb", "reserve_mem_mb"] value with
  | [maxCpu, reservedCpu, maxMemory, reservedMemory] =>
    some ⟨← required? int64? maxCpu, ← required? int64? reservedCpu, ← required? int64? maxMemory,
      ← required? int64? reservedMemory⟩
  | _ => none

end Resources

end ServiceCatalog.Service
