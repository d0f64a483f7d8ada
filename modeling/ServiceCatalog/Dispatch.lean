import ServiceCatalog.Client
import ServiceCatalog.Command
import ServiceCatalog.Output
import ServiceCatalog.ServiceError
import ServiceCatalog.Wait.Poller

/-!
# Carrying out commands

A command makes one call, with two exceptions. A service that is created may be waited for, and then it is checked with
the administrator it was created with. Before a service is deleted its members are listed, as nobody can tell its
volumes afterwards; if that fails nothing is deleted. Only a check within a wait is ever repeated.
-/

namespace ServiceCatalog

open Request Service

/-- Why a command did not come to its end. -/
inductive Stop where
  | failed (error : ServiceError)
  /-- The time of a wait cannot be counted any more. -/
  | overflowed
deriving DecidableEq

/-- A command carried out: the calls made, what was reported meanwhile, and the result. -/
structure Run where
  calls : List Call
  events : List Wait.Event := []
  result : Except Stop Output

namespace Client

/-- A run that ends with the failure of its last call. -/
def failure (calls : List Call) (error : RemoteError) : Run := ⟨calls, [], .error (.failed (.remote error))⟩

/-- A run that makes one call. -/
def once (client : Client) (call : Call) (output : call.Answer → Output) : Run :=
  match client [] call with
  | .ok answer => ⟨[call], [], .ok (output answer)⟩
  | .error e => failure [call] e

/-- What a check answers that is repeated after other calls. -/
def answers (client : Client) (earlier : List Call) (request : CheckInit) : Wait.Answers :=
  fun k => client (earlier ++ List.replicate k (.checkInit request)) (.checkInit request)

/-- The result of a wait. -/
def waitResult (budget : Wait.Budget) (output : Output) : Wait.Poller.Outcome → Except Stop Output
  | .initialized => .ok output
  | .timedOut => .error (.failed (.initTimeout budget.maxWait))
  | .overflowed => .error .overflowed

/-- Creates a service and waits until it is initialized. -/
def createAndWait (client : Client) (request : Create) (budget : Wait.Budget) : Run :=
  match client [] (.create request) with
  | .error e => failure [.create request] e
  | .ok _ =>
    let check := request.checkInit
    let wait := Wait.Poller.new.run budget check.service.name (client.answers [.create request] check)
    { calls := .create request :: List.replicate wait.checks (.checkInit check)
      events := wait.events
      result := waitResult budget (.created request.spec.service request.kind true) wait.outcome }

/-- Deletes a service after its volumes are known. -/
def deleteKeepingVolumes (client : Client) (service : Identity) : Run :=
  match client [] (.members service) with
  | .error e => failure [.members service] e
  | .ok members =>
    let volumeIds := List.map Member.volumeId members
    let calls := [.members service, .delete service]
    match client [.members service] (.delete service) with
    | .ok _ => ⟨calls, [], .ok (.deleted ⟨service, volumeIds⟩)⟩
    | .error e => ⟨calls, [], .error (.failed (.deleteFailed volumeIds e))⟩

/-- Carries out a command. -/
def dispatch (client : Client) (command : Command) (wait : Option Wait.Budget) : Run :=
  match command with
  | .create request =>
    match wait with
    | some budget => client.createAndWait request budget
    | none => client.once (.create request) fun _ => .created request.spec.service request.kind false
  | .checkInit request => client.once (.checkInit request) fun b => .initStatus request.service b
  | .delete service => client.deleteKeepingVolumes service
  | .list request => client.once (.list request) fun services => .services services
  | .get service => client.once (.get service) fun attributes => .service attributes
  | .listMembers service => client.once (.members service) fun members => .members members
  | .getConfig request => client.once (.configFile request) fun file => .configFile file

end Client

end ServiceCatalog
