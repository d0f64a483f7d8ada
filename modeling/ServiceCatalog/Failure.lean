import ServiceCatalog.Diagnostic
import ServiceCatalog.ServiceError

/-!
# Failures of a run

A run fails with an error of its operation, with one of its configuration file, or because its result cannot be printed.
Each kind of failure has a heading and advice of its own.
-/

namespace ServiceCatalog

/-- Why a run failed. -/
inductive Failure where
  | configuration (text : String)
  | profileNotFound (name : String)
  | invalidInput (text : String)
  | authenticationFailed (text : String)
  | notFound (text : String)
  | apiError (text : String)
  | connectionError (text : String)
  | timeout (text : String)
  | deleteFailed (text : String) (volumeIds : List String)
  | outputError (text : String)
deriving DecidableEq, Repr

namespace Failure

/-- The failure of a run whose call to the management service failed. -/
def ofRemoteError (e : RemoteError) : Failure :=
  match e.kind with
  | .auth => .authenticationFailed e.message
  | .notFound => .notFound e.message
  | .validation => .apiError e.message
  | .network => .connectionError e.message

/-- The failure of a run whose operation failed. -/
def ofServiceError (e : ServiceError) : Failure :=
  match e with
  | .validation violation => .invalidInput violation.message
  | .configuration fault => .configuration fault.message
  | .remote error => ofRemoteError error
  | .initTimeout _ => .timeout e.message
  | .deleteFailed volumeIds source => .deleteFailed source.describe volumeIds

/-- The failure of a run whose result cannot be printed, with causes from the outermost to the innermost. -/
def ofCauses (causes : List String) : Failure := .outputError (": ".intercalate causes)

/-- What the user is told about a failed run. -/
def message : Failure → String
  | configuration text => "Configuration error: " ++ text
  | profileNotFound name => s!"Profile '{name}' not found"
  | invalidInput text => "Invalid input: " ++ text
  | authenticationFailed text => "Authentication failed: " ++ text
  | notFound text => "Not found: " ++ text
  | apiError text => "API error: " ++ text
  | connectionError text => "Connection error: " ++ text
  | timeout text => "Timeout: " ++ text
  | deleteFailed text _ => "Delete service failed: " ++ text
  | outputError text => "Output formatting error: " ++ text

/-- Whether a text occurs in another. -/
def occursIn (part : List Char) : List Char → Bool
  | [] => part.isEmpty
  | c :: rest => part.isPrefixOf (c :: rest) || occursIn part rest

/-- Whether a failure is said to be about something. -/
def mentions (text word : String) : Bool := occursIn word.toList text.toList

/-- Advice for a failure. -/
def suggestions : Failure → List String
  | profileNotFound name =>
    [s!"Add a [profiles.{name}] table to the config file", "Check profile name spelling"]
  | configuration text =>
    if mentions text "tls" then
      ["Provide all of --ca-file, --cert-file and --key-file, or none of them",
        "Pass --tls-enabled when the TLS files are set"]
    else []
  | invalidInput text =>
    if mentions text "operation" then ["Valid operations: " ++ Violation.operationNames ", "]
    else ["Check the command syntax: catalogctl --help"]
  | authenticationFailed _ =>
    ["Verify the CA, certificate and key files belong to this cluster",
      "Check that --tls-enabled matches the management service"]
  | connectionError _ =>
    ["Check network connectivity", "Verify the server URL: --server-url or the profile's server_url",
      "Check that --cluster names the right cluster"]
  | notFound _ => ["Check that --region and --cluster are correct"]
  | timeout _ => ["Wait longer next time with --wait-timeout"]
  | deleteFailed _ _ => ["Remove the retained volumes by hand once the service is gone"]
  | apiError _ => []
  | outputError _ => []

/-- What can be done next after a failure. -/
def followUp? : Failure → Option Diagnostic.Tip
  | notFound _ =>
    some ⟨"List services to find the correct name:", ["catalogctl --op list --region <region>"]⟩
  | timeout _ =>
    some ⟨"Check the initialization later:", ["catalogctl --op check-init --service <name>"]⟩
  | deleteFailed _ _ =>
    some ⟨"Check whether the service still exists:",
      ["catalogctl --op get --service <name>", "catalogctl --op list-members --service <name>"]⟩
  | _ => none

/-- The volumes that a failed deletion left, if the failure is one. -/
def retained? : Failure → Option (List String)
  | deleteFailed _ volumeIds => some volumeIds
  | _ => none

/-- The line that names the volumes that are left. -/
def retainedLine (volumeIds : List String) : String :=
  "retained volumes: " ++ if volumeIds.isEmpty then "none" else ", ".intercalate volumeIds

/-- A failure as it is explained to the user. -/
def diagnostic (f : Failure) : Diagnostic where
  message := f.message
  detail := f.retained?.map retainedLine
  tips := f.followUp?.toList ++ f.suggestions.map (⟨·, []⟩)

end Failure

end ServiceCatalog
