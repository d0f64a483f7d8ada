import ServiceCatalog.Arguments
import ServiceCatalog.Request.Create

/-!
# Commands

One operation with a request in which nothing is left to check.
-/

namespace ServiceCatalog

open Request Service Text

/-- An operation with all it needs. -/
inductive Command where
  | create (request : Create)
  | checkInit (request : CheckInit)
  | delete (service : Identity)
  | list (request : ListServices)
  | get (service : Identity)
  | listMembers (service : Identity)
  | getConfig (request : GetConfigFile)
deriving DecidableEq

namespace Command

/-- The operation of a command. -/
def operation : Command → Operation
  | create _ => .create
  | checkInit _ => .checkInit
  | delete _ => .delete
  | list _ => .list
  | get _ => .get
  | listMembers _ => .listMembers
  | getConfig _ => .getConfig

/-- The JSON form of a command's request. -/
def requestJson : Command → Json
  | create request => request.toJson
  | checkInit request => request.toJson
  | delete service => service.toJson
  | list request => request.toJson
  | get service => service.toJson
  | listMembers service => service.toJson
  | getConfig request => request.toJson

end Command

namespace Arguments

/-- The service that the arguments are about. -/
def identity (args : Arguments) (region : String) : Identity :=
  ⟨region, args.cluster, (given? args.service).getD ""⟩

/-- The administrator's password. -/
def adminPassword (args : Arguments) : String := (given? args.password).getD defaultAdmin.password

/-- The administrator's name, where the kind of service leaves the choice. -/
def adminUser (args : Arguments) : String := (given? args.admin).getD defaultAdmin.user

/-- The resources asked for. A limit that is not given equals the reservation. -/
def resources (args : Arguments) : Resources where
  maxCpuUnits := args.maxCpuUnits.getD args.cpuUnits
  reservedCpuUnits := args.cpuUnits
  maxMemoryMb := args.maxMemoryMb.getD args.memoryMb
  reservedMemoryMb := args.memoryMb

/-- The account for standbys, if a part of it is given. -/
def replication (args : Arguments) : Option Credentials :=
  match given? args.replicationUser, given? args.replicationPassword with
  | none, none => none
  | user, password => some ⟨user.getD defaultReplication.user, password.getD defaultReplication.password⟩

/-- The order for the service that is asked for. -/
def createOrder (args : Arguments) (kind : Kind) (region : String) : CreateOrder where
  kind
  service := args.identity region
  replicas := args.replicas
  volumeSizeGb := args.volumeSizeGb
  resources := args.resources
  admin := ⟨args.adminUser, args.adminPassword⟩
  replication := args.replication

/-- The request to create a service. -/
def createRequest (args : Arguments) (region : String) : Except Violation Create := do
  match given? args.kind with
  | none => throw .noKind
  | some text => (args.createOrder (← Kind.read text) region).request

/-- The request to check a service. Without a kind it is generic, and a relational store has its own administrator. -/
def checkRequest (args : Arguments) (region : String) : Except Violation CheckInit := do
  let kind ← match given? args.kind with
    | none => pure .generic
    | some text => Kind.read text
  let user := match kind with
    | .relationalStore => relationalAdminUser
    | _ => args.adminUser
  pure ⟨kind, args.identity region, ⟨user, args.adminPassword⟩⟩

/-- The request for a config file. -/
def configFileRequest (args : Arguments) (region : String) : Except Violation GetConfigFile :=
  match given? args.serviceUuid, given? args.fileId with
  | some uuid, some id => .ok ⟨region, args.cluster, uuid, id⟩
  | _, _ => .error .noConfigFile

/-- The command that the arguments ask for. -/
def command (args : Arguments) (operation : Operation) (region : String) : Except Violation Command :=
  match operation with
  | .create => (args.createRequest region).map .create
  | .checkInit => (args.checkRequest region).map .checkInit
  | .delete => .ok (.delete (args.identity region))
  | .list => .ok (.list ⟨region, args.cluster, (given? args.namesStart).getD ""⟩)
  | .get => .ok (.get (args.identity region))
  | .listMembers => .ok (.listMembers (args.identity region))
  | .getConfig => (args.configFileRequest region).map .getConfig

end Arguments

end ServiceCatalog
