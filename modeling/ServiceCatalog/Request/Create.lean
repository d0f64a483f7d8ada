import ServiceCatalog.Request.Existing
import ServiceCatalog.Violation

/-!
# Requests to create a service

An order collects what is asked for and becomes a request when it breaks no rule. A relational store has an
administrator of its own name and an account for its standbys; the other kinds have the administrator asked for.
-/

namespace ServiceCatalog.Request

open Json Service

/-- What the requests for all kinds of service have in common. -/
structure CreateSpec where
  service : Identity
  resources : Resources
  replicas : Int64
  volumeSizeGb : Int64
  admin : Credentials
deriving DecidableEq

/-- A request to create a service. -/
inductive Create where
  | documentStore (spec : CreateSpec)
  | relationalStore (spec : CreateSpec) (replication : Credentials)
  | generic (spec : CreateSpec)
deriving DecidableEq

namespace Create

/-- The kind of the service to be created. -/
def kind : Create → Kind
  | documentStore _ => .documentStore
  | relationalStore _ _ => .relationalStore
  | generic _ => .generic

/-- The part that all kinds share. -/
def spec : Create → CreateSpec
  | documentStore spec => spec
  | relationalStore spec _ => spec
  | generic spec => spec

/-- The account of the standbys, if the kind of service has standbys. -/
def replication : Create → Option Credentials
  | relationalStore _ replication => some replication
  | _ => none

/-- The check whether the created service is initialized, with the administrator that was sent. -/
def checkInit (r : Create) : CheckInit := ⟨r.kind, r.spec.service, r.spec.admin⟩

end Create

/-- The fields of the common part. -/
def CreateSpec.fields (s : CreateSpec) : List Field :=
  [("service", s.service.toJson), ("resources", s.resources.toJson), ("replicas", integer s.replicas.toInt),
    ("volume_size_gb", integer s.volumeSizeGb.toInt), ("admin", s.admin.toJson)]

/-- The JSON form of a request: the kind first, the account of the standbys last. -/
def Create.toJson (r : Create) : Json :=
  .object <| [("service_type", kindToJson r.kind)] ++ r.spec.fields ++
    (match r.replication with
      | some c => [("replication", c.toJson)]
      | none => [])

/-- The administrator of a service that names none. -/
def defaultAdmin : Credentials := ⟨"dbadmin", "changeme"⟩

/-- The administrator's name in every relational store. -/
def relationalAdminUser : String := "postgres"

/-- The account of the standbys where none is named. -/
def defaultReplication : Credentials := ⟨"repluser", "replpassword"⟩

/-- A service as it is asked for. -/
structure CreateOrder where
  kind : Kind
  service : Identity
  replicas : Int64 := 3
  volumeSizeGb : Int64 := 0
  resources : Resources := .standard
  admin : Credentials := defaultAdmin
  replication : Option Credentials := none

/-- One thing asked for. A later step replaces an earlier one about the same thing. -/
inductive CreateStep where
  | replicas (count : Int64)
  | volumeSize (gigabytes : Int64)
  | resources (resources : Resources)
  | admin (account : Credentials)
  | replication (account : Credentials)

namespace CreateOrder

/-- An order for a service about which nothing else is asked. -/
def new (kind : Kind) (service : Identity) : CreateOrder where
  kind
  service

/-- The order after one step. -/
def apply (order : CreateOrder) : CreateStep → CreateOrder
  | .replicas count => { order with replicas := count }
  | .volumeSize gigabytes => { order with volumeSizeGb := gigabytes }
  | .resources resources => { order with resources }
  | .admin account => { order with admin := account }
  | .replication account => { order with replication := some account }

/-- The order after several steps. -/
def applyAll (order : CreateOrder) (steps : List CreateStep) : CreateOrder := steps.foldl apply order

/-- The common part of the request for an order. -/
def spec (order : CreateOrder) : CreateSpec :=
  ⟨order.service, order.resources, order.replicas, order.volumeSizeGb, order.admin⟩

/-- The request for an order, or the first rule it breaks: there are replicas and volumes, the resources are sound, and
only a relational store has an account for standbys. -/
def request (order : CreateOrder) : Except Violation Create := do
  if order.replicas ≤ 0 ∨ order.volumeSizeGb ≤ 0 then
    throw (.badSize order.replicas order.volumeSizeGb)
  order.resources.check
  match order.kind, order.replication with
  | .relationalStore, account =>
    let admin : Credentials := { order.admin with user := relationalAdminUser }
    pure (.relationalStore { order.spec with admin } (account.getD defaultReplication))
  | kind, some _ => throw (.replicationNotApplicable kind)
  | .documentStore, none => pure (.documentStore order.spec)
  | .generic, none => pure (.generic order.spec)

end CreateOrder

end ServiceCatalog.Request
