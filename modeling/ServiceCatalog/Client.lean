import ServiceCatalog.RemoteError
import ServiceCatalog.Request.Create
import ServiceCatalog.Service.Attributes
import ServiceCatalog.Service.ConfigFile
import ServiceCatalog.Service.Member

/-!
# Calls to the management service

A client answers calls one after another. What it answers may depend on all the calls it has answered before, and on
nothing else.
-/

namespace ServiceCatalog

open Request Service

/-- A call to the management service. -/
inductive Call where
  | create (request : Create)
  | checkInit (request : CheckInit)
  | list (request : ListServices)
  | get (service : Identity)
  | members (service : Identity)
  | delete (service : Identity)
  | configFile (request : GetConfigFile)
deriving DecidableEq

namespace Call

/-- What a call is answered with. -/
def Answer : Call → Type
  | create _ => Unit
  | checkInit _ => Bool
  | list _ => List Attributes
  | get _ => Attributes
  | members _ => List Member
  | delete _ => Unit
  | configFile _ => ConfigFile

/-- The JSON form of what a call asks for. -/
def requestJson : Call → Json
  | create request => request.toJson
  | checkInit request => request.toJson
  | list request => request.toJson
  | get service => service.toJson
  | members service => service.toJson
  | delete service => service.toJson
  | configFile request => request.toJson

end Call

/-- The management service as it is called: what it answers to a call after earlier calls. -/
abbrev Client := (earlier : List Call) → (call : Call) → Except RemoteError call.Answer

end ServiceCatalog
