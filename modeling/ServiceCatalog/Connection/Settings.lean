import ServiceCatalog.Connection.Tls
import ServiceCatalog.Duration
import ServiceCatalog.Endpoint

/-!
# Settings of the connection

The address of the management service, how the connection is secured, and how long a request may take.
-/

namespace ServiceCatalog.Connection

/-- All that is settled about a connection before the first request. -/
structure Settings where
  server : Url
  tls : Option TlsFiles
  requestTimeout : Duration
deriving DecidableEq

/-- Settles a connection: the address goes by the scheme that the files call for. -/
def Settings.resolve (given : Option String) (cluster : String) (tls : Option TlsFiles) (requestTimeout : Duration) :
    Except Fault Settings :=
  let text := Endpoint.text given cluster (.secured tls.isSome)
  match Url.parse text with
  | .ok server => .ok ⟨server, tls, requestTimeout⟩
  | .error cause => .error (.badUrl text cause)

end ServiceCatalog.Connection
