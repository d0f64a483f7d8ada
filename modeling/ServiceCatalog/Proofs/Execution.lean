import ServiceCatalog.Program
import ServiceCatalog.Proofs.Http.Creation
import ServiceCatalog.Proofs.Rules

/-!
# Failures and requests

Everything is settled before the first request, and the kind of a failure says so: a failure of the input or of the
configuration comes before all requests, and a failure that comes later is one of the other kinds. What a later failure
tells of the run is told by the call that it follows.
-/

namespace ServiceCatalog

open Request Service

/-- Failures of the input and of the configuration. -/
def Failure.isEarly : Failure → Bool
  | configuration _ => true
  | profileNotFound _ => true
  | invalidInput _ => true
  | _ => false

/-- Failures of a call or of a wait, and of printing a result. -/
def Failure.isLate : Failure → Bool
  | authenticationFailed _ => true
  | notFound _ => true
  | apiError _ => true
  | connectionError _ => true
  | timeout _ => true
  | deleteFailed _ _ => true
  | outputError _ => true
  | _ => false

/-- Errors of the input and of the configuration. -/
def ServiceError.isEarly : ServiceError → Bool
  | validation _ => true
  | configuration _ => true
  | _ => false

theorem Failure.isLate_eq_not_isEarly (failure : Failure) : failure.isLate = !failure.isEarly := by
  cases failure <;> rfl

/-- A failure is early if its cause is. -/
theorem Failure.isEarly_ofServiceError (e : ServiceError) : (ofServiceError e).isEarly = e.isEarly := by
  cases e with
  | remote error =>
    simp only [ofServiceError, ofRemoteError]
    cases error.kind <;> rfl
  | validation violation => rfl
  | configuration fault => rfl
  | initTimeout maxWait => rfl
  | deleteFailed volumeIds source => rfl

theorem Failure.ofServiceError_eq_timeout {e : ServiceError} {text : String} (h : ofServiceError e = .timeout text) :
    ∃ maxWait, e = .initTimeout maxWait := by
  cases e with
  | initTimeout maxWait => exact ⟨maxWait, rfl⟩
  | remote error =>
    simp only [ofServiceError, ofRemoteError] at h
    split at h <;> cases h
  | _ => cases h

theorem Failure.ofServiceError_eq_deleteFailed {e : ServiceError} {text : String} {volumeIds : List String}
    (h : ofServiceError e = .deleteFailed text volumeIds) : ∃ source, e = .deleteFailed volumeIds source := by
  cases e with
  | deleteFailed ids source =>
    cases h
    exact ⟨source, rfl⟩
  | remote error =>
    simp only [ofServiceError, ofRemoteError] at h
    split at h <;> cases h
  | _ => cases h

/-! ## Before the first request -/

theorem Arguments.isEarly_of_reports {env : Environment} {args : Arguments} {rule : Rule ServiceError} {e : ServiceError}
    (hrule : rule ∈ args.rules env) (hreports : rule.Reports e) : e.isEarly = true := by
  have hreported {holds : Prop} {error : ServiceError} (hearly : error.isEarly = true)
      (heq : rule = .reported holds error) : e.isEarly = true := by
    subst heq
    obtain rfl : e = error := hreports
    exact hearly
  have hvalidation {violated : Rule Violation} (heq : violated.mapError .validation = rule) : e.isEarly = true := by
    subst heq
    obtain ⟨violation, -, rfl⟩ := hreports
    rfl
  have hconfiguration {violated : Rule Connection.Fault} (heq : violated.mapError .configuration = rule) :
      e.isEarly = true := by
    subst heq
    obtain ⟨fault, -, rfl⟩ := hreports
    rfl
  simp only [rules, List.mem_append, List.mem_cons, List.not_mem_nil, or_false, List.mem_map] at hrule
  obtain (((hfirst | hfirst | hfirst | hfirst) | ⟨tls, -, htls⟩) | (htime | haddress | hinterval)) | ⟨field, -, hfield⟩ :=
    hrule
  · exact hreported rfl hfirst
  · exact hreported rfl hfirst
  · exact hreported rfl hfirst
  · exact hreported rfl hfirst
  · exact hconfiguration htls
  · exact hreported rfl htime
  · exact hconfiguration haddress.symm
  · exact hreported rfl hinterval
  · exact hvalidation hfield

theorem Invocation.isEarly_of_ofArguments {env : Environment} {args : Arguments} {e : ServiceError}
    (h : ofArguments env args = .error e) : e.isEarly = true := by
  obtain ⟨earlier, rule, later, hrules, -, -, hreports⟩ := (decides_ofArguments env args).firstBroken e h
  have hmem : rule ∈ args.rules env := by simp [hrules]
  exact Arguments.isEarly_of_reports hmem hreports

namespace Program

theorem isEarly_failureOfConfig (e : Config.Error) : (failureOfConfig e).isEarly = true := by
  cases e <;> rfl

/-- What keeps a run from its first call is an early failure. -/
theorem isEarly_of_prepare {env : Environment} {files : Files} {o : CommandLine.Options} {failure : Failure}
    (h : prepare env files o = .error failure) : failure.isEarly = true := by
  obtain hinvocation | ⟨invocation, -, h⟩ := bind_eq_error_iff.mp h
  · obtain hprofile | ⟨profile, -, harguments⟩ := bind_eq_error_iff.mp hinvocation
    · obtain ⟨e, -, rfl⟩ := mapError_eq_error_iff.mp hprofile
      exact isEarly_failureOfConfig e
    · obtain ⟨e, he, rfl⟩ := mapError_eq_error_iff.mp harguments
      rw [Failure.isEarly_ofServiceError]
      exact Invocation.isEarly_of_ofArguments he
  · obtain hfiles | ⟨_, -, hpure⟩ := bind_eq_error_iff.mp h
    · obtain ⟨fault, -, rfl⟩ := mapError_eq_error_iff.mp hfiles
      rfl
    · cases hpure

end Program

/-! ## After the first request -/

namespace Client

/-- The errors of a run: a call fails; or a service that was created is waited for in vain; or a service whose members
were listed cannot be deleted. -/
theorem error_dispatch_cases {client : Client} {command : Command} {wait : Option Wait.Budget} {error : ServiceError}
    (h : (client.dispatch command wait).result = .error (.failed error)) :
    (∃ e, error = .remote e) ∨
    (∃ request budget answer, command = .create request ∧ wait = some budget ∧
      client [] (.create request) = .ok answer ∧ error = .initTimeout budget.maxWait) ∨
    (∃ service members e, command = .delete service ∧ client [] (.members service) = .ok members ∧
      error = .deleteFailed (members.map Member.volumeId) e) := by
  obtain (⟨e, -, hrun⟩ | ⟨answer, output, -, hrun, -⟩) | ⟨request, budget, answer, rfl, rfl, hcreated⟩ |
    ⟨service, members, rfl, hlisted⟩ := client.dispatch_cases command wait
  · rw [hrun] at h
    cases h
    exact Or.inl ⟨e, rfl⟩
  · rw [hrun] at h
    cases h
  · rw [dispatch_create_of_created hcreated] at h
    cases houtcome : (client.waitAfter request budget).outcome with
    | initialized => simp [houtcome, waitResult] at h
    | overflowed => simp [houtcome, waitResult] at h
    | timedOut =>
      simp only [houtcome, waitResult, Except.error.injEq, Stop.failed.injEq] at h
      exact Or.inr (Or.inl ⟨request, budget, answer, rfl, rfl, hcreated, h.symm⟩)
  · rw [dispatch_delete_of_listed hlisted] at h
    cases hdeletion : client [.members service] (.delete service) with
    | ok answer => simp [hdeletion] at h
    | error e =>
      simp only [hdeletion, Except.error.injEq, Stop.failed.injEq] at h
      exact Or.inr (Or.inr ⟨service, members, e, rfl, hlisted, h.symm⟩)

end Client

namespace Program

variable {env : Environment} {files : Files} {server : Http.Server} {o : CommandLine.Options} {failure : Failure}

theorem execute_of_prepare {invocation : Invocation} (h : prepare env files o = .ok invocation) :
    execute env files server o =
      let base := invocation.connection.server
      let run := (Http.client base server).dispatch invocation.command invocation.wait
      ⟨Http.sent base run.calls, endingOf o.output run.result⟩ := by
  simp only [execute, h]
  rfl

theorem failed_of_endingOf {format : Output.Format} {result : Except Stop Output}
    (h : endingOf format result = .failed failure) :
    ∃ error, result = .error (.failed error) ∧ failure = .ofServiceError error := by
  cases result with
  | ok output => cases h
  | error stop =>
    cases stop with
    | failed error =>
      cases h
      exact ⟨error, rfl, rfl⟩
    | overflowed => cases h

/-- The first request is the creation of a service that is to be waited for, and the server accepts it. -/
def FollowsCreation (server : Http.Server) (invocation : Invocation) (requests : List Http.Request) : Prop :=
  ∃ request budget body, invocation.command = .create request ∧ invocation.wait = some budget ∧
    let creation := Http.request invocation.connection.server (.create request)
    requests.head? = some creation ∧ Http.Accepts server [] creation body

/-- The first request lists the members of a service that is to be deleted, and the server answers with members that
have the volumes. -/
def FollowsListing (server : Http.Server) (invocation : Invocation) (requests : List Http.Request)
    (volumeIds : List String) : Prop :=
  ∃ service members body, invocation.command = .delete service ∧
    let listing := Http.request invocation.connection.server (.members service)
    requests.head? = some listing ∧ Http.Accepts server [] listing body ∧
    (Json.readOctets? body).bind Http.members? = some members ∧ volumeIds = members.map Member.volumeId

theorem followsCreation_of_created {invocation : Invocation} {request : Create} {budget : Wait.Budget}
    {answer : (Call.create request).Answer} (hcommand : invocation.command = .create request)
    (hwait : invocation.wait = some budget)
    (hcreated : Http.client invocation.connection.server server [] (.create request) = .ok answer) :
    FollowsCreation server invocation (Http.sent invocation.connection.server
      ((Http.client invocation.connection.server server).dispatch invocation.command invocation.wait).calls) := by
  obtain ⟨body, haccepts⟩ := Http.client_create_eq_ok_iff.mp ⟨answer, hcreated⟩
  refine ⟨request, budget, body, hcommand, hwait, ?_, haccepts⟩
  rw [hcommand, hwait, Client.dispatch_create_of_created hcreated, Http.sent_cons haccepts.1]
  rfl

theorem followsListing_of_listed {invocation : Invocation} {service : Identity} {members : List Member}
    (hcommand : invocation.command = .delete service)
    (hlisted : Http.client invocation.connection.server server [] (.members service) = .ok members) :
    FollowsListing server invocation (Http.sent invocation.connection.server
      ((Http.client invocation.connection.server server).dispatch invocation.command invocation.wait).calls)
      (members.map Member.volumeId) := by
  obtain ⟨body, haccepts, hbody⟩ := Http.client_eq_ok_iff.mp hlisted
  refine ⟨service, members, body, hcommand, ?_, haccepts, hbody, rfl⟩
  rw [hcommand, Client.dispatch_delete_of_listed hlisted, Http.sent_cons haccepts.1]
  rfl

/-- A run that fails because of its input or its configuration has sent nothing, and one that has sent a request fails
for another reason. The time of a wait is up only after the creation of a service that is waited for, and a deletion
fails only after the members of its service were listed. -/
theorem requests_of_failed (h : (execute env files server o).ending = .failed failure) :
    let requests := (execute env files server o).requests
    (failure.isEarly = true → requests = []) ∧
    (requests ≠ [] → failure.isLate = true) ∧
    (∀ text, failure = .timeout text →
      ∃ invocation, prepare env files o = .ok invocation ∧ FollowsCreation server invocation requests) ∧
    (∀ text volumeIds, failure = .deleteFailed text volumeIds →
      ∃ invocation, prepare env files o = .ok invocation ∧ FollowsListing server invocation requests volumeIds) := by
  cases hprepare : prepare env files o with
  | error early =>
    have hexecution : execute env files server o = ⟨[], .failed early⟩ := by simp only [execute, hprepare]
    rw [hexecution] at h ⊢
    cases h
    have hearly := isEarly_of_prepare hprepare
    refine ⟨fun _ => rfl, fun hsent => absurd rfl hsent, ?_, ?_⟩
    · rintro text rfl
      cases hearly
    · rintro text volumeIds rfl
      cases hearly
  | ok invocation =>
    rw [execute_of_prepare hprepare] at h ⊢
    obtain ⟨error, hresult, rfl⟩ := failed_of_endingOf h
    have hcases := Client.error_dispatch_cases hresult
    have hlate : (Failure.ofServiceError error).isEarly = false := by
      rw [Failure.isEarly_ofServiceError]
      obtain ⟨e, rfl⟩ | ⟨_, _, _, -, -, -, rfl⟩ | ⟨_, _, _, -, -, rfl⟩ := hcases <;> rfl
    refine ⟨fun hearly => ?_, fun _ => ?_, ?_, ?_⟩
    · rw [hlate] at hearly
      cases hearly
    · rw [Failure.isLate_eq_not_isEarly, hlate]
      rfl
    · intro text htext
      obtain ⟨maxWait, rfl⟩ := Failure.ofServiceError_eq_timeout htext
      obtain ⟨e, heq⟩ | ⟨request, budget, answer, hcommand, hwait, hcreated, -⟩ | ⟨_, _, _, -, -, heq⟩ := hcases
      · cases heq
      · exact ⟨invocation, rfl, followsCreation_of_created hcommand hwait hcreated⟩
      · cases heq
    · intro text volumeIds htext
      obtain ⟨source, rfl⟩ := Failure.ofServiceError_eq_deleteFailed htext
      obtain ⟨e, heq⟩ | ⟨_, _, _, -, -, -, heq⟩ | ⟨service, members, e, hcommand, hlisted, heq⟩ := hcases
      · cases heq
      · cases heq
      · cases heq
        exact ⟨invocation, rfl, followsListing_of_listed hcommand hlisted⟩

/-- Two members are listed and the server refuses to delete their service: the failure tells their volumes, and the
first request was the one that listed them. -/
theorem requests_of_failed_deletion :
    let env : Environment := ⟨[("HOME", "/home/user")]⟩
    let o : CommandLine.Options := { operation := "delete", service := some "svc", region := some "us" }
    let body := "\x7b\"members\":[\x7b\"volume_id\":\"vol-1\"\x7d,\x7b\"volume_id\":\"vol-2\"\x7d]\x7d"
    let server : Http.Server := fun earlier _ =>
      if earlier.isEmpty then .complete 200 (body.toList.map fun c => c.toNat.toUInt8) else .complete 503 []
    let execution := execute env Files.none server o
    execution.ending = .failed (.deleteFailed "network error: HTTP 503: " ["vol-1", "vol-2"]) ∧
      ∃ invocation, prepare env Files.none o = .ok invocation ∧
        FollowsListing server invocation execution.requests ["vol-1", "vol-2"] := by
  intro env o body server execution
  have hending : execution.ending = .failed (.deleteFailed "network error: HTTP 503: " ["vol-1", "vol-2"]) := by
    decide +kernel
  obtain ⟨-, -, -, hdeletion⟩ := requests_of_failed hending
  exact ⟨hending, hdeletion _ _ rfl⟩

end Program

end ServiceCatalog
