import ServiceCatalog.Proofs.Deletion
import ServiceCatalog.Proofs.Wait.Run

/-!
# The calls of a command

Whatever a client answers, a command begins with one call, and only two commands go on after it: a creation that is
waited for, with checks that are all the same, and a deletion, with the deletion itself. What a run may do is said once,
in `dispatch_cases`; everything else follows from it.
-/

namespace ServiceCatalog

open Request Service

/-- The call that a command begins with. -/
def Command.firstCall : Command → Call
  | create request => .create request
  | checkInit request => .checkInit request
  | delete service => .members service
  | list request => .list request
  | get service => .get service
  | listMembers service => .members service
  | getConfig request => .configFile request

/-- A call that a command makes only to wait for the service that it has created. -/
def Command.Polls (command : Command) (call : Call) : Prop :=
  command.operation = .create ∧ ∃ request, call = .checkInit request

/-- Whether a call creates or deletes a service. -/
def Call.isChange : Call → Bool
  | create _ => true
  | delete _ => true
  | _ => false

/-- The error that a command ends with if a call fails. Where a deletion fails the error names the volumes as well. -/
def Call.FailsWith : Call → RemoteError → ServiceError → Prop
  | delete _, e, error => ∃ volumeIds, error = .deleteFailed volumeIds e
  | _, e, error => error = .remote e

theorem Command.firstCall_ne_delete (command : Command) (service : Identity) : command.firstCall ≠ .delete service := by
  cases command <;> simp [firstCall]

theorem Command.not_polls_firstCall (command : Command) : ¬ command.Polls command.firstCall := by
  rintro ⟨hoperation, request, hcall⟩
  cases command <;> simp [operation, firstCall] at hoperation hcall

theorem Command.failsWith_firstCall (command : Command) (e : RemoteError) :
    command.firstCall.FailsWith e (.remote e) := by
  cases command <;> rfl

namespace Client

/-- The calls that may follow the first one of a command: checks of a service that was created and is waited for, no
more of them than there is time for, or the deletion of a service. -/
def LaterCalls (client : Client) (command : Command) (wait : Option Wait.Budget) (later : List Call) : Prop :=
  match command, wait with
  | .create request, some budget =>
    ∃ m ≤ {k : Nat | k * budget.interval.nanos < budget.maxWait.nanos}.ncard,
      later = List.replicate m (.checkInit request.checkInit) ∧
        (0 < m → ∃ answer, client [] (.create request) = .ok answer)
  | .delete service, _ => later = [] ∨ later = [.delete service]
  | _, _ => later = []

theorem laterCalls_nil (client : Client) (command : Command) (wait : Option Wait.Budget) :
    client.LaterCalls command wait [] := by
  cases command with
  | create request =>
    cases wait with
    | none => rfl
    | some budget => exact ⟨0, Nat.zero_le _, rfl, fun hpos => absurd hpos (Nat.lt_irrefl 0)⟩
  | delete service => exact Or.inl rfl
  | checkInit request => rfl
  | list request => rfl
  | get service => rfl
  | listMembers service => rfl
  | getConfig request => rfl

/-- The wait for a service that was created. -/
def waitAfter (client : Client) (request : Create) (budget : Wait.Budget) : Wait.Poller.Run :=
  Wait.Poller.new.run budget request.checkInit.service.name (client.answers [.create request] request.checkInit)

theorem dispatch_create_of_created {client : Client} {request : Create} {budget : Wait.Budget}
    {answer : (Call.create request).Answer} (h : client [] (.create request) = .ok answer) :
    client.dispatch (.create request) (some budget) =
      ⟨.create request :: List.replicate (client.waitAfter request budget).checks (.checkInit request.checkInit),
        (client.waitAfter request budget).events,
        waitResult budget (.created request.spec.service request.kind true)
          (client.waitAfter request budget).outcome⟩ := by
  simp only [dispatch, createAndWait, h]
  rfl

/-- A run that takes no more than the first call of its command: the call fails, or it is answered and the result is not
a service that was waited for. -/
def EndsAtOnce (client : Client) (command : Command) (run : Run) : Prop :=
  (∃ e, client [] command.firstCall = .error e ∧ run = failure [command.firstCall] e) ∨
    (∃ answer output, client [] command.firstCall = .ok answer ∧ run = ⟨[command.firstCall], [], .ok output⟩ ∧
      ∀ service kind, output ≠ .created service kind true)

theorem endsAtOnce_once (client : Client) (command : Command) (output : command.firstCall.Answer → Output)
    (houtput : ∀ answer service kind, output answer ≠ .created service kind true) :
    client.EndsAtOnce command (client.once command.firstCall output) := by
  unfold once
  cases hanswer : client [] command.firstCall with
  | error e => exact Or.inl ⟨e, hanswer, rfl⟩
  | ok answer => exact Or.inr ⟨answer, output answer, hanswer, rfl, houtput answer⟩

variable (client : Client) (command : Command) (wait : Option Wait.Budget)

/-- What a run may do: it takes no more than one call; or a service that was created is waited for; or a service whose
members were listed is deleted. -/
theorem dispatch_cases :
    client.EndsAtOnce command (client.dispatch command wait) ∨
    (∃ request budget answer, command = .create request ∧ wait = some budget ∧
      client [] (.create request) = .ok answer) ∨
    (∃ service members, command = .delete service ∧ client [] (.members service) = .ok members) := by
  cases command with
  | create request =>
    cases wait with
    | none =>
      exact Or.inl (client.endsAtOnce_once (.create request) (fun _ => .created request.spec.service request.kind false)
        (by simp))
    | some budget =>
      cases hanswer : client [] (.create request) with
      | error e => exact Or.inl (Or.inl ⟨e, hanswer, by simp only [dispatch, createAndWait, hanswer]; rfl⟩)
      | ok answer => exact Or.inr (Or.inl ⟨request, budget, answer, rfl, rfl, hanswer⟩)
  | delete service =>
    cases hlisting : client [] (.members service) with
    | error e => exact Or.inl (Or.inl ⟨e, hlisting, dispatch_delete_of_unlisted hlisting⟩)
    | ok members => exact Or.inr (Or.inr ⟨service, members, rfl, hlisting⟩)
  | checkInit request =>
    exact Or.inl (client.endsAtOnce_once (.checkInit request) (fun b => .initStatus request.service b) (by simp))
  | list request =>
    exact Or.inl (client.endsAtOnce_once (.list request) (fun services => .services services) (by simp))
  | get service =>
    exact Or.inl (client.endsAtOnce_once (.get service) (fun attributes => .service attributes) (by simp))
  | listMembers service =>
    exact Or.inl (client.endsAtOnce_once (.listMembers service) (fun members => .members members) (by simp))
  | getConfig request =>
    exact Or.inl (client.endsAtOnce_once (.getConfig request) (fun file => .configFile file) (by simp))

theorem calls_dispatch_cases :
    (client.dispatch command wait).calls = [command.firstCall] ∨
    (∃ request budget answer m, command = .create request ∧ wait = some budget ∧
      client [] (.create request) = .ok answer ∧ m ≤ budget.room ∧
      (client.dispatch command wait).calls = .create request :: List.replicate m (.checkInit request.checkInit)) ∨
    (∃ service members, command = .delete service ∧ client [] (.members service) = .ok members ∧
      (client.dispatch command wait).calls = [.members service, .delete service]) := by
  obtain (⟨e, -, hrun⟩ | ⟨answer, output, -, hrun, -⟩) | ⟨request, budget, answer, rfl, rfl, hcreated⟩ |
    ⟨service, members, rfl, hlisted⟩ := client.dispatch_cases command wait
  · exact Or.inl (by rw [hrun]; rfl)
  · exact Or.inl (by rw [hrun])
  · exact Or.inr (Or.inl ⟨request, budget, answer, (client.waitAfter request budget).checks, rfl, rfl, hcreated,
      Wait.Poller.run_checks_le _ 0, by rw [dispatch_create_of_created hcreated]⟩)
  · exact Or.inr (Or.inr ⟨service, members, rfl, hlisted, by rw [dispatch_delete_of_listed hlisted]⟩)

theorem laterCalls_dispatch :
    ∃ later, (client.dispatch command wait).calls = command.firstCall :: later ∧
      client.LaterCalls command wait later := by
  obtain hcalls | ⟨request, budget, answer, m, rfl, rfl, hcreated, hroom, hcalls⟩ |
    ⟨service, members, rfl, -, hcalls⟩ := client.calls_dispatch_cases command wait
  · exact ⟨[], hcalls, client.laterCalls_nil command wait⟩
  · rw [← budget.ncard_multiples_below] at hroom
    exact ⟨_, hcalls, m, hroom, rfl, fun _ => ⟨answer, hcreated⟩⟩
  · exact ⟨_, hcalls, Or.inr rfl⟩

theorem countP_isChange_dispatch_le : (client.dispatch command wait).calls.countP Call.isChange ≤ 1 := by
  obtain hcalls | ⟨request, budget, answer, m, rfl, rfl, -, -, hcalls⟩ | ⟨service, members, rfl, -, hcalls⟩ :=
    client.calls_dispatch_cases command wait
  · rw [hcalls]
    exact List.countP_le_length
  · rw [hcalls]
    simp [List.countP_cons, List.countP_replicate, Call.isChange]
  · rw [hcalls]
    simp [List.countP_cons, Call.isChange]

theorem listed_before_delete {i : Nat} {service : Identity}
    (h : (client.dispatch command wait).calls[i]? = some (.delete service)) :
    ∃ j < i, (client.dispatch command wait).calls[j]? = some (.members service) ∧
      ∃ members, client ((client.dispatch command wait).calls.take j) (.members service) = .ok members := by
  have hmem := List.mem_of_getElem? h
  obtain hcalls | ⟨request, budget, answer, m, rfl, rfl, -, -, hcalls⟩ | ⟨other, members, rfl, hlisted, hcalls⟩ :=
    client.calls_dispatch_cases command wait
  · rw [hcalls, List.mem_singleton] at hmem
    exact absurd hmem.symm (command.firstCall_ne_delete service)
  · simp [hcalls] at hmem
  · rw [hcalls] at h ⊢
    match i with
    | 0 => simp at h
    | 1 =>
      obtain rfl : other = service := by simpa using h
      exact ⟨0, Nat.one_pos, rfl, members, hlisted⟩
    | i + 2 => simp at h

theorem polls_of_repeated {i j : Nat} {call : Call} (hlt : i < j)
    (hi : (client.dispatch command wait).calls[i]? = some call)
    (hj : (client.dispatch command wait).calls[j]? = some call) : command.Polls call := by
  obtain ⟨j, rfl⟩ : ∃ k, j = k + 1 := ⟨j - 1, by omega⟩
  obtain hcalls | ⟨request, budget, answer, m, rfl, rfl, -, -, hcalls⟩ | ⟨service, members, rfl, -, hcalls⟩ :=
    client.calls_dispatch_cases command wait
  · simp [hcalls] at hj
  · rw [hcalls, List.getElem?_cons_succ] at hj
    have hcheck := List.eq_of_mem_replicate (List.mem_of_getElem? hj)
    exact ⟨rfl, _, hcheck⟩
  · -- A deletion has two calls, and they differ.
    rw [hcalls, List.getElem?_cons_succ] at hj
    have hlast : j = 0 := by
      by_contra hne
      simp [hne] at hj
    obtain rfl : i = 0 := by omega
    subst hlast
    rw [hcalls, ← hj] at hi
    simp at hi

/-- A call that fails is the last one, and its error is that of the run, unless it is made to wait. -/
theorem dispatch_of_failed {i : Nat} {call : Call} {e : RemoteError}
    (hcall : (client.dispatch command wait).calls[i]? = some call)
    (hfailed : client ((client.dispatch command wait).calls.take i) call = .error e) (hpolls : ¬ command.Polls call) :
    (client.dispatch command wait).calls.length = i + 1 ∧
      ∃ error, (client.dispatch command wait).result = .error (.failed error) ∧ call.FailsWith e error := by
  obtain (⟨e', hfirst, hrun⟩ | ⟨answer, output, hfirst, hrun, -⟩) | ⟨request, budget, answer, rfl, rfl, hcreated⟩ |
    ⟨service, members, rfl, hlisted⟩ := client.dispatch_cases command wait
  · rw [hrun] at hcall hfailed ⊢
    cases i with
    | zero =>
      obtain rfl : command.firstCall = call := by simpa [failure] using hcall
      obtain rfl : e' = e := by simpa [hfirst] using hfailed
      exact ⟨rfl, _, rfl, command.failsWith_firstCall e'⟩
    | succ i => simp [failure] at hcall
  · rw [hrun] at hcall hfailed
    cases i with
    | zero =>
      obtain rfl : command.firstCall = call := by simpa using hcall
      simp [hfirst] at hfailed
    | succ i => simp at hcall
  · rw [dispatch_create_of_created hcreated] at hcall hfailed
    cases i with
    | zero =>
      obtain rfl : .create request = call := by simpa using hcall
      simp [hcreated] at hfailed
    | succ i =>
      -- All calls after a creation are made to wait for it.
      rw [List.getElem?_cons_succ] at hcall
      have hcheck := List.eq_of_mem_replicate (List.mem_of_getElem? hcall)
      exact absurd ⟨rfl, _, hcheck⟩ hpolls
  · rw [dispatch_delete_of_listed hlisted] at hcall hfailed ⊢
    cases i with
    | zero =>
      obtain rfl : .members service = call := by simpa using hcall
      simp [hlisted] at hfailed
    | succ i =>
      cases i with
      | zero =>
        obtain rfl : .delete service = call := by simpa using hcall
        change client [.members service] (.delete service) = .error e at hfailed
        exact ⟨rfl, _, by rw [hfailed], _, rfl⟩
      | succ i => simp at hcall

theorem waitResult_eq_ok_iff {budget : Wait.Budget} {output : Output} {outcome : Wait.Poller.Outcome} {other : Output} :
    waitResult budget output outcome = .ok other ↔ outcome = .initialized ∧ output = other := by
  cases outcome <;> simp [waitResult]

/-- The wait for a created service succeeds exactly if the last of its checks says that the service is initialized. -/
theorem waitAfter_initialized_iff (request : Create) (budget : Wait.Budget) :
    (client.waitAfter request budget).outcome = .initialized ↔
      ∃ k, (client.waitAfter request budget).checks = k + 1 ∧
        client.answers [.create request] request.checkInit k = .ok true := by
  constructor
  · intro houtcome
    obtain ⟨s, hchecks, -, hsuccess, -⟩ := Wait.Poller.success_of_run (n := 0) _ houtcome
    exact ⟨s, hchecks, hsuccess⟩
  · rintro ⟨k, hchecks, hsuccess⟩
    have hle : (client.waitAfter request budget).checks ≤ budget.room := Wait.Poller.run_checks_le _ 0
    exact (Wait.Poller.run_initialized_iff _ 0).mpr ⟨k, by omega, hsuccess⟩

/-- A service is reported as initialized exactly if the last call of the run is a check that says so. -/
theorem initialized_iff_last_check :
    (∃ service kind, (client.dispatch command wait).result = .ok (.created service kind true)) ↔
      ∃ earlier request, command.Polls (.checkInit request) ∧
        (client.dispatch command wait).calls = earlier ++ [.checkInit request] ∧
        client earlier (.checkInit request) = .ok true := by
  -- The first call of a command is none that it makes to wait.
  have hsingle {earlier : List Call} {request : CheckInit} (hpolls : command.Polls (.checkInit request)) :
      [command.firstCall] ≠ earlier ++ [.checkInit request] := by
    intro hcalls
    have hlast := congrArg List.getLast? hcalls
    simp only [List.getLast?_singleton, List.getLast?_append, Option.some_or, Option.some.injEq] at hlast
    exact command.not_polls_firstCall (hlast ▸ hpolls)
  obtain (⟨e, -, hrun⟩ | ⟨answer, output, -, hrun, houtput⟩) | ⟨request, budget, answer, rfl, rfl, hcreated⟩ |
    ⟨service, members, rfl, hlisted⟩ := client.dispatch_cases command wait
  · rw [hrun]
    constructor
    · rintro ⟨service, kind, hresult⟩
      cases hresult
    · rintro ⟨earlier, request, hpolls, hcalls, -⟩
      exact absurd hcalls (hsingle hpolls)
  · rw [hrun]
    constructor
    · rintro ⟨service, kind, hresult⟩
      exact absurd (Except.ok.inj hresult) (houtput service kind)
    · rintro ⟨earlier, request, hpolls, hcalls, -⟩
      exact absurd hcalls (hsingle hpolls)
  · rw [dispatch_create_of_created hcreated]
    constructor
    · rintro ⟨service, kind, hresult⟩
      obtain ⟨k, hchecks, hsuccess⟩ :=
        (client.waitAfter_initialized_iff request budget).mp (waitResult_eq_ok_iff.mp hresult).1
      refine ⟨.create request :: List.replicate k (.checkInit request.checkInit), request.checkInit, ⟨rfl, _, rfl⟩, ?_,
        hsuccess⟩
      rw [hchecks, List.replicate_succ', List.cons_append]
    · rintro ⟨earlier, check, -, hcalls, hsuccess⟩
      dsimp only at hcalls
      cases hchecks : (client.waitAfter request budget).checks with
      | zero =>
        have hlast := congrArg List.getLast? hcalls
        simp [hchecks] at hlast
      | succ k =>
        rw [hchecks, List.replicate_succ', ← List.cons_append] at hcalls
        obtain ⟨rfl, hcheck⟩ := List.append_inj' hcalls rfl
        cases hcheck
        have houtcome := (client.waitAfter_initialized_iff request budget).mpr ⟨k, hchecks, hsuccess⟩
        exact ⟨_, _, waitResult_eq_ok_iff.mpr ⟨houtcome, rfl⟩⟩
  · rw [dispatch_delete_of_listed hlisted]
    constructor
    · rintro ⟨other, kind, hresult⟩
      dsimp only at hresult
      split at hresult <;> cases hresult
    · rintro ⟨earlier, request, ⟨hoperation, -⟩, -, -⟩
      cases hoperation

/-- Whatever a client answers, a command begins with its own call and goes on only to check, with one and the same
request, the service that it has created, or to delete the service whose members were listed. At most one call creates
or deletes a service, no call but such a check is ever made again, and any other call that fails is the last one and
gives the run its error. A service is reported as initialized exactly if the last call is a check that says so. -/
theorem dispatch_calls :
    let run := client.dispatch command wait
    (∃ later, run.calls = command.firstCall :: later ∧ client.LaterCalls command wait later) ∧
    run.calls.countP Call.isChange ≤ 1 ∧
    (∀ i service, run.calls[i]? = some (.delete service) →
      ∃ j < i, run.calls[j]? = some (.members service) ∧
        ∃ members, client (run.calls.take j) (.members service) = .ok members) ∧
    (∀ (i j : Nat) (call : Call), i < j → run.calls[i]? = some call → run.calls[j]? = some call → command.Polls call) ∧
    (∀ i call e, run.calls[i]? = some call → client (run.calls.take i) call = .error e → ¬ command.Polls call →
      run.calls.length = i + 1 ∧ ∃ error, run.result = .error (.failed error) ∧ call.FailsWith e error) ∧
    ((∃ service kind, run.result = .ok (.created service kind true)) ↔
      ∃ earlier request, command.Polls (.checkInit request) ∧ run.calls = earlier ++ [.checkInit request] ∧
        client earlier (.checkInit request) = .ok true) := by
  intro run
  refine ⟨client.laterCalls_dispatch command wait, client.countP_isChange_dispatch_le command wait, ?_, ?_, ?_,
    client.initialized_iff_last_check command wait⟩
  · intro i service h
    exact client.listed_before_delete command wait h
  · intro i j call hlt hi hj
    exact client.polls_of_repeated command wait hlt hi hj
  · intro i call e hcall hfailed hpolls
    exact client.dispatch_of_failed command wait hcall hfailed hpolls

end Client

end ServiceCatalog
