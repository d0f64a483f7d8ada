import ServiceCatalog.Duration

/-!
# Progress of a wait
-/

namespace ServiceCatalog.Wait

/-- Something that is reported while a service is waited for. -/
inductive Event where
  /-- The wait begins. -/
  | started (service : String)
  /-- The service is about to be asked for once more. -/
  | polling (service : String) (attempt : UInt32) (elapsed : Duration)
  /-- Asking failed, and the wait goes on. -/
  | transientError (service : String) (attempt : UInt32) (text : String)
  /-- The service is initialized. -/
  | initialized (service : String) (elapsed : Duration)
  /-- The time to wait has run out. -/
  | timedOut (service : String) (maxWait : Duration)
deriving DecidableEq

end ServiceCatalog.Wait
