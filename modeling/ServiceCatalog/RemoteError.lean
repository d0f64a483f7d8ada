/-!
# Errors of the management service
-/

namespace ServiceCatalog

/-- What kind of failure a call to the management service met. -/
inductive RemoteError.Kind where
  /-- The service was not reached or gave an answer that means nothing. -/
  | network
  /-- The service does not accept who is calling. -/
  | auth
  /-- What the call is about does not exist. -/
  | notFound
  /-- The service does not accept what the call asks for. -/
  | validation
deriving DecidableEq, Repr

/-- The wording of a kind of failure. -/
def RemoteError.Kind.name : RemoteError.Kind → String
  | .network => "network error"
  | .auth => "authentication error"
  | .notFound => "not found"
  | .validation => "request rejected"

/-- The failure of a call to the management service. -/
structure RemoteError where
  kind : RemoteError.Kind
  message : String
deriving DecidableEq, Repr

/-- A failure with its kind. -/
def RemoteError.describe (e : RemoteError) : String := e.kind.name ++ ": " ++ e.message

end ServiceCatalog
