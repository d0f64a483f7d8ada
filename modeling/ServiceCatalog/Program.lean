import ServiceCatalog.CommandLine.Parser
import ServiceCatalog.CommandLine.Usage
import ServiceCatalog.Config.Load
import ServiceCatalog.Connection.Material
import ServiceCatalog.Dispatch
import ServiceCatalog.Failure
import ServiceCatalog.Http.Client
import ServiceCatalog.Invocation

/-!
# The program

A run of the whole program, as a function of its words, the environment, the files and the server. Everything is settled
before the first request: the configuration and its profile, the arguments, and the files that secure the connection.
-/

namespace ServiceCatalog.Program

open CommandLine

/-- The failure of a run that finds no configuration or no profile. -/
def failureOfConfig : Config.Error → Failure
  | .profileNotFound name => .profileNotFound name
  | e => .configuration e.message

/-- The profile that is chosen in the configuration. -/
def chosenProfile (env : Environment) (files : Files) (o : Options) : Except Failure (Option Config.Profile) :=
  ((Config.loadFrom env files o.configFile).bind fun config => config.resolve o.profile).mapError failureOfConfig

/-- What a run is to do. -/
def invocation (env : Environment) (files : Files) (o : Options) : Except Failure Invocation := do
  let profile ← chosenProfile env files o
  (Invocation.ofArguments env (o.arguments profile)).mapError Failure.ofServiceError

/-- What a run is to do, over a connection that can be used. -/
def prepare (env : Environment) (files : Files) (o : Options) : Except Failure Invocation := do
  let invocation ← invocation env files o
  (invocation.connection.check files).mapError fun fault => Failure.ofServiceError (.configuration fault)
  pure invocation

/-- How a run ends. -/
inductive Ending where
  | succeeded (output : String)
  | failed (failure : Failure)
  /-- The time of a wait cannot be counted any more. -/
  | aborted
deriving DecidableEq

/-- How a run ends whose command came to a result. -/
def endingOf (format : Output.Format) : Except Stop Output → Ending
  | .ok output => .succeeded (output.print format)
  | .error (.failed e) => .failed (.ofServiceError e)
  | .error .overflowed => .aborted

/-- A run with options: the requests that are sent, and how it ends. -/
structure Execution where
  requests : List Http.Request
  ending : Ending

/-- Does what the options ask for. -/
def execute (env : Environment) (files : Files) (server : Http.Server) (o : Options) : Execution :=
  match prepare env files o with
  | .error failure => ⟨[], .failed failure⟩
  | .ok invocation =>
    let base := invocation.connection.server
    let run := (Http.client base server).dispatch invocation.command invocation.wait
    ⟨(run.calls.map (Http.request base)).filter Http.Request.isSendable, endingOf o.output run.result⟩

/-- Whether a variable asks for something; "0" says no. -/
def switch (env : Environment) (name : String) : Option Bool := (env.get? name).map (· != "0")

/-- Whether colours are printed. They can be forced and forbidden; otherwise a terminal has them. -/
def usesColor (env : Environment) (terminal : Bool) : Bool :=
  if switch env "CLICOLOR_FORCE" = some true then true
  else if (switch env "NO_COLOR").isSome then false
  else (switch env "CLICOLOR").getD true && terminal

/-- What a run leaves behind. -/
structure Report where
  exitCode : UInt8
  out : String := ""
  err : String := ""
  requests : List Http.Request := []
  /-- Why the words were not accepted, if they were not. -/
  refusal : Option Refusal := none

/-- The report of words that yield no options. -/
def refusalReport (refusal : Refusal) : Report :=
  if refusal.isMistake then { exitCode := 1, err := "error: " ++ refusal.message ++ "\n", refusal := some refusal }
  else { exitCode := 0, out := refusal.message, refusal := some refusal }

/-- The report of a run with options. -/
def executionReport (color : Bool) (e : Execution) : Report :=
  match e.ending with
  | .succeeded output => { exitCode := 0, out := output, requests := e.requests }
  | .failed failure => { exitCode := 1, err := failure.diagnostic.print color, requests := e.requests }
  | .aborted => { exitCode := 101, err := Duration.overflowMessage ++ "\n", requests := e.requests }

/-- Runs the program with the words of a command line. -/
def run (env : Environment) (files : Files) (server : Http.Server) (terminal : Bool) (words : List String) : Report :=
  match parse env words with
  | .error refusal => refusalReport refusal
  | .ok o => executionReport (usesColor env terminal) (execute env files server o)

end ServiceCatalog.Program
