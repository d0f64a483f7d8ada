import ServiceCatalog.Command
import ServiceCatalog.Connection.Settings
import ServiceCatalog.ServiceError
import ServiceCatalog.Wait.Budget

/-!
# Invocations

Arguments are checked in one go before anything is sent: operation, service, region, cluster, transport security,
request time, address, time to wait, and last what the operation itself needs. The first rule broken is reported.
-/

namespace ServiceCatalog

open Text

/-- A command with its connection, and how long to wait if waiting is asked for. -/
structure Invocation where
  command : Command
  connection : Connection.Settings
  wait : Option Wait.Budget

namespace Invocation

/-- An error of the input as an error of the operation. -/
def valid {α : Type} (result : Except Violation α) : Except ServiceError α := result.mapError .validation

/-- A fault of the configuration as an error of the operation. -/
def configured {α : Type} (result : Except Connection.Fault α) : Except ServiceError α :=
  result.mapError .configuration

/-- Fails with a violation unless a condition holds. -/
def require (condition : Bool) (violation : Violation) : Except ServiceError Unit :=
  if condition then .ok () else .error (.validation violation)

/-- The region that is given. -/
def region (args : Arguments) : Except ServiceError String :=
  match given? args.region with
  | some region => .ok region
  | none => .error (.validation .noRegion)

/-- How long to wait, if waiting is asked for. -/
def waitBudget (args : Arguments) : Except ServiceError (Option Wait.Budget) :=
  if args.wait then valid ((Wait.Budget.new args.waitInterval args.waitTimeout).map some) else .ok none

/-- The invocation that arguments ask for. -/
def ofArguments (env : Environment) (args : Arguments) : Except ServiceError Invocation := do
  let operation ← valid (Operation.read args.operation)
  require (!operation.needsService || (given? args.service).isSome) .noService
  let region ← region args
  require (!isBlankText args.cluster) .noCluster
  let tls ← configured (args.tls.resolve env)
  require (!args.requestTimeout.isZero) .noRequestTime
  let connection ← configured (Connection.Settings.resolve args.serverUrl args.cluster tls args.requestTimeout)
  let wait ← waitBudget args
  let command ← valid (args.command operation region)
  pure ⟨command, connection, wait⟩

end Invocation

end ServiceCatalog
