import ServiceCatalog.Connection.Fault
import ServiceCatalog.Duration
import ServiceCatalog.RemoteError
import ServiceCatalog.Violation

/-!
# Errors of an operation

Everything an operation can end with instead of an answer.
-/

namespace ServiceCatalog

/-- Why an operation failed. -/
inductive ServiceError where
  /-- The input breaks a rule. -/
  | validation (violation : Violation)
  /-- No connection can be set up. -/
  | configuration (fault : Connection.Fault)
  /-- A call to the management service failed. -/
  | remote (error : RemoteError)
  /-- The service was not initialized in time. -/
  | initTimeout (maxWait : Duration)
  /-- The service could not be deleted after its volumes were listed. -/
  | deleteFailed (volumeIds : List String) (source : RemoteError)
deriving DecidableEq

namespace ServiceError

/-- What the user is told about a failed operation. -/
def message : ServiceError → String
  | validation violation => "Validation error: " ++ violation.message
  | configuration fault => "Configuration error: " ++ fault.message
  | remote error => "Management service error: " ++ error.describe
  | initTimeout maxWait => s!"The catalog service is not initialized after {maxWait.seconds} seconds"
  | deleteFailed _ source => "Delete service failed: " ++ source.describe

/-- The kind of failure a call to the management service met, if one failed. -/
def remoteKind? : ServiceError → Option RemoteError.Kind
  | remote error => some error.kind
  | deleteFailed _ source => some source.kind
  | _ => none

/-- Whether what the operation is about does not exist. -/
def isNotFound (e : ServiceError) : Bool := e.remoteKind? == some .notFound

/-- Whether the management service does not accept who is calling. -/
def isUnauthorized (e : ServiceError) : Bool := e.remoteKind? == some .auth

/-- Whether the time to wait ran out. -/
def isTimeout : ServiceError → Bool
  | initTimeout _ => true
  | _ => false

/-- The volumes that were listed before the failure, if it was one to delete. -/
def retainedVolumeIds? : ServiceError → Option (List String)
  | deleteFailed volumeIds _ => some volumeIds
  | _ => none

end ServiceError

end ServiceCatalog
