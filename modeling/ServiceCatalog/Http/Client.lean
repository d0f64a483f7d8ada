import ServiceCatalog.Client
import ServiceCatalog.Http.Header
import ServiceCatalog.Http.Response
import ServiceCatalog.Json.Printer

/-!
# Calls over HTTP

Each call is one request to an address of its own underneath that of the management service. Requests are never
repeated.
-/

namespace ServiceCatalog.Http

open Json

/-- The segments of a call's address. -/
def segments : Call → List String
  | .create _ => ["v1", "services", "create"]
  | .checkInit _ => ["v1", "services", "check-init"]
  | .list _ => ["v1", "services", "list"]
  | .get _ => ["v1", "services", "get"]
  | .members _ => ["v1", "services", "members"]
  | .delete _ => ["v1", "services", "delete"]
  | .configFile _ => ["v1", "config-files", "get"]

/-- The request that makes a call. -/
def request (base : Url) (call : Call) : Request := ⟨base.join (segments call), call.requestJson.compact⟩

/-- The error of a request that the network failed. -/
def networkError (url : Url) (text : String) : RemoteError :=
  ⟨.network, text ++ " for url (" ++ url.anonymous.text ++ ")"⟩

/-- What is received for a request: the body of a successful answer. -/
def received (request : Request) : Reply → Except RemoteError (List UInt8)
  | .noAnswer => .error (networkError request.url "error sending request")
  | .stalled => .error (networkError request.url "request timed out: error sending request")
  | .cutShort => .error (networkError request.url "error decoding response body")
  | .complete status body => if isSuccess status then .ok body else .error (statusError status body)

/-- Sends a request, if it can be put together. -/
def send (server : Server) (earlier : List Request) (request : Request) : Except RemoteError (List UInt8) :=
  if request.isSendable then received request (server earlier request)
  else .error (networkError request.url "builder error")

/-- The value of a body, or an error that names the call's address. -/
def decoded {α : Type} (call : Call) (read? : Json → Option α) (body : List UInt8) : Except RemoteError α :=
  match (readOctets? body).bind read? with
  | some value => .ok value
  | none => .error ⟨.network, "invalid response from " ++ "/".intercalate (segments call) ++ ": unexpected content"⟩

/-- The answer to a call in the body of a successful answer. Creating and deleting have no answer to read. -/
def answer (call : Call) (body : List UInt8) : Except RemoteError call.Answer :=
  match call with
  | .create _ => .ok ()
  | .checkInit r => decoded (.checkInit r) initialized? body
  | .list r => decoded (.list r) services? body
  | .get s => decoded (.get s) Service.Attributes.ofJson? body
  | .members s => decoded (.members s) members? body
  | .delete _ => .ok ()
  | .configFile r => decoded (.configFile r) Service.ConfigFile.ofJson? body

/-- The management service as a server underneath an address answers for it. -/
def client (base : Url) (server : Server) : Client := fun earlier call => do
  let sent := (earlier.map (request base)).filter Request.isSendable
  answer call (← send server sent (request base call))

end ServiceCatalog.Http
