import ServiceCatalog.Program
import ServiceCatalog.Proofs.Results

/-!
# Passwords

Passwords reach the calls of a run and nothing else. What is not a password is a view of a command and of its calls,
and both the checks of the arguments and the run of a command commute with it: two runs with other passwords, and the
same answers, cannot be told apart except by the passwords that they send.
-/

namespace ServiceCatalog

open Request Service Text

/-! ## What is not a password -/

/-- Credentials with an empty password. -/
def Service.Credentials.withoutPassword (c : Credentials) : Credentials := { c with password := "" }

/-- A creation with empty passwords. -/
def Request.Create.withoutPasswords : Create → Create
  | documentStore spec => .documentStore { spec with admin := spec.admin.withoutPassword }
  | relationalStore spec replication =>
    .relationalStore { spec with admin := spec.admin.withoutPassword } replication.withoutPassword
  | generic spec => .generic { spec with admin := spec.admin.withoutPassword }

/-- A check with an empty password. -/
def Request.CheckInit.withoutPasswords (r : CheckInit) : CheckInit := { r with admin := r.admin.withoutPassword }

/-- A command with empty passwords. -/
def Command.withoutPasswords : Command → Command
  | create request => .create request.withoutPasswords
  | checkInit request => .checkInit request.withoutPasswords
  | command => command

/-- A call with empty passwords. -/
def Call.withoutPasswords : Call → Call
  | create request => .create request.withoutPasswords
  | checkInit request => .checkInit request.withoutPasswords
  | call => call

/-- An invocation with empty passwords. -/
def Invocation.withoutPasswords (invocation : Invocation) : Invocation :=
  { invocation with command := invocation.command.withoutPasswords }

/-- A run whose calls have empty passwords. -/
def Run.withoutPasswords (run : Run) : Run := { run with calls := run.calls.map Call.withoutPasswords }

namespace Client

/-- A client that answers without regard to passwords: as another one answers the same calls with empty passwords. -/
def blind (client : Client) : Client := fun earlier call =>
  let seen := earlier.map Call.withoutPasswords
  match call with
  | .create request => client seen (.create request.withoutPasswords)
  | .checkInit request => client seen (.checkInit request.withoutPasswords)
  | .list request => client seen (.list request)
  | .get service => client seen (.get service)
  | .members service => client seen (.members service)
  | .delete service => client seen (.delete service)
  | .configFile request => client seen (.configFile request)

end Client

/-! ## Arguments -/

/-- An order with empty passwords. -/
def Request.CreateOrder.withoutPasswords (order : CreateOrder) : CreateOrder :=
  { order with
    admin := order.admin.withoutPassword
    replication := order.replication.map Credentials.withoutPassword }

/-- Whether an order becomes a request, and what the request asks for, does not depend on passwords. -/
theorem Request.CreateOrder.request_withoutPasswords (order : CreateOrder) :
    order.withoutPasswords.request.map Create.withoutPasswords = order.request.map Create.withoutPasswords := by
  unfold request
  have hsame : order.withoutPasswords.replicas ≤ 0 ∨ order.withoutPasswords.volumeSizeGb ≤ 0 ↔
      order.replicas ≤ 0 ∨ order.volumeSizeGb ≤ 0 := Iff.rfl
  by_cases hsize : order.replicas ≤ 0 ∨ order.volumeSizeGb ≤ 0
  · rw [if_pos hsize, if_pos (hsame.mpr hsize)]
    rfl
  rw [if_neg hsize, if_neg (mt hsame.mp hsize)]
  refine map_bind_congr fun _ _ => ?_
  cases hkind : order.kind <;> cases hreplication : order.replication <;>
    simp [withoutPasswords, hkind, hreplication, pure, Except.pure, Except.map, Create.withoutPasswords, spec,
      Credentials.withoutPassword, throw, throwThe, MonadExceptOf.throw]

namespace Arguments

/-- The same arguments with other passwords. -/
def withPasswords (args : Arguments) (password replicationPassword : Option String) : Arguments :=
  { args with password, replicationPassword }

variable {args : Arguments} {password replicationPassword : Option String}

section Replication

variable (hgiven : (given? args.replicationPassword).isSome = (given? replicationPassword).isSome)

include hgiven

theorem replication_withPasswords :
    (args.withPasswords password replicationPassword).replication.map Credentials.withoutPassword =
      args.replication.map Credentials.withoutPassword := by
  have huser : (args.withPasswords password replicationPassword).replicationUser = args.replicationUser := rfl
  have hpassword : (args.withPasswords password replicationPassword).replicationPassword = replicationPassword := rfl
  unfold replication
  rw [huser, hpassword]
  cases given? args.replicationUser <;> cases hold : given? args.replicationPassword <;>
    cases hnew : given? replicationPassword <;> simp_all [Credentials.withoutPassword]

theorem createOrder_withPasswords (kind : Kind) (region : String) :
    ((args.withPasswords password replicationPassword).createOrder kind region).withoutPasswords =
      (args.createOrder kind region).withoutPasswords := by
  simp only [createOrder, CreateOrder.withoutPasswords, replication_withPasswords hgiven]
  rfl

theorem createRequest_withPasswords (region : String) :
    ((args.withPasswords password replicationPassword).createRequest region).map Create.withoutPasswords =
      (args.createRequest region).map Create.withoutPasswords := by
  have hkind : (args.withPasswords password replicationPassword).kind = args.kind := rfl
  unfold createRequest
  rw [hkind]
  cases given? args.kind with
  | none => rfl
  | some text =>
    refine map_bind_congr fun kind _ => ?_
    rw [← CreateOrder.request_withoutPasswords, createOrder_withPasswords hgiven, CreateOrder.request_withoutPasswords]

end Replication

theorem checkRequest_withPasswords (region : String) :
    ((args.withPasswords password replicationPassword).checkRequest region).map CheckInit.withoutPasswords =
      (args.checkRequest region).map CheckInit.withoutPasswords := by
  have hkind : (args.withPasswords password replicationPassword).kind = args.kind := rfl
  unfold checkRequest
  rw [hkind]
  cases given? args.kind with
  | none => rfl
  | some text => exact map_bind_congr fun kind _ => rfl

/-- Whether there is a command, and what it asks for, does not depend on passwords. -/
theorem command_withPasswords (operation : Operation) (region : String)
    (hgiven : (given? args.replicationPassword).isSome = (given? replicationPassword).isSome) :
    ((args.withPasswords password replicationPassword).command operation region).map Command.withoutPasswords =
      (args.command operation region).map Command.withoutPasswords := by
  cases operation with
  | create => exact map_map_congr Command.create (createRequest_withPasswords hgiven region) fun _ => rfl
  | checkInit => exact map_map_congr Command.checkInit (checkRequest_withPasswords region) fun _ => rfl
  | delete => rfl
  | list => rfl
  | get => rfl
  | listMembers => rfl
  | getConfig => rfl

end Arguments

namespace Invocation

variable {args : Arguments} {password replicationPassword : Option String}

/-- Whether arguments make an invocation, and what it is apart from passwords, does not depend on passwords. -/
theorem ofArguments_withPasswords (env : Environment)
    (hgiven : (given? args.replicationPassword).isSome = (given? replicationPassword).isSome) :
    (ofArguments env (args.withPasswords password replicationPassword)).map Invocation.withoutPasswords =
      (ofArguments env args).map Invocation.withoutPasswords := by
  unfold ofArguments
  refine map_bind_congr fun operation _ => ?_
  refine map_bind_congr fun _ _ => ?_
  refine map_bind_congr fun region _ => ?_
  refine map_bind_congr fun _ _ => ?_
  refine map_bind_congr fun tls _ => ?_
  refine map_bind_congr fun _ _ => ?_
  refine map_bind_congr fun connection _ => ?_
  refine map_bind_congr fun wait _ => ?_
  have hview (command : Except Violation Command) :
      (valid command >>= fun c => pure ⟨c, connection, wait⟩).map Invocation.withoutPasswords =
        (valid (command.map Command.withoutPasswords)).map fun c => ⟨c, connection, wait⟩ := by
    cases command <;> rfl
  exact (hview _).trans (by rw [Arguments.command_withPasswords operation region hgiven, hview])

end Invocation

/-! ## Runs -/

namespace Client

variable (client : Client)

theorem checkInit_withoutPasswords (r : Create) : r.withoutPasswords.checkInit = r.checkInit.withoutPasswords := by
  cases r <;> rfl

theorem answers_blind (r : Create) :
    client.blind.answers [.create r] r.checkInit =
      client.answers [.create r.withoutPasswords] r.withoutPasswords.checkInit := by
  rw [checkInit_withoutPasswords]
  funext k
  simp only [answers, blind, List.map_append, List.map_replicate]
  rfl

theorem withoutPasswords_once (call : Call) {output : call.Answer → Output}
    {seen : call.withoutPasswords.Answer → Output} (hsame : HEq output seen) :
    (client.blind.once call output).withoutPasswords = client.once call.withoutPasswords seen := by
  -- Only when the kind of call is known is it plain that both answers are of one type.
  cases call <;> obtain rfl := eq_of_heq hsame
  all_goals
    simp only [once, blind, Call.withoutPasswords, List.map_nil]
    split <;> rfl

theorem withoutPasswords_createAndWait (r : Create) (budget : Wait.Budget) :
    (client.blind.createAndWait r budget).withoutPasswords = client.createAndWait r.withoutPasswords budget := by
  have hservice : r.withoutPasswords.spec.service = r.spec.service := by cases r <;> rfl
  have hkind : r.withoutPasswords.kind = r.kind := by cases r <;> rfl
  cases hanswer : client [] (.create r.withoutPasswords) with
  | error e =>
    have hblind : client.blind [] (.create r) = .error e := hanswer
    simp only [createAndWait, hanswer, hblind]
    rfl
  | ok answer =>
    have hblind : client.blind [] (.create r) = .ok answer := hanswer
    simp only [createAndWait, hanswer, hblind, answers_blind, hservice, hkind, Run.withoutPasswords, List.map_cons,
      List.map_replicate, Call.withoutPasswords, checkInit_withoutPasswords]
    rfl

theorem withoutPasswords_deleteKeepingVolumes (service : Identity) :
    (client.blind.deleteKeepingVolumes service).withoutPasswords = client.deleteKeepingVolumes service := by
  have hlisting : client.blind [] (.members service) = client [] (.members service) := rfl
  have hdeletion : client.blind [.members service] (.delete service) = client [.members service] (.delete service) :=
    rfl
  unfold deleteKeepingVolumes
  rw [hlisting, hdeletion]
  cases client [] (.members service) with
  | error e => rfl
  | ok members => cases client [.members service] (.delete service) <;> rfl

/-- A blind client carries out a command as the other one carries out the command with empty passwords. -/
theorem withoutPasswords_dispatch_blind (command : Command) (wait : Option Wait.Budget) :
    (client.blind.dispatch command wait).withoutPasswords = client.dispatch command.withoutPasswords wait := by
  cases command with
  | create r =>
    cases wait with
    | none =>
      refine client.withoutPasswords_once (.create r) (heq_of_eq ?_)
      cases r <;> rfl
    | some budget => exact client.withoutPasswords_createAndWait r budget
  | checkInit r => exact client.withoutPasswords_once (.checkInit r) HEq.rfl
  | delete service => exact client.withoutPasswords_deleteKeepingVolumes service
  | list request => exact client.withoutPasswords_once (.list request) HEq.rfl
  | get service => exact client.withoutPasswords_once (.get service) HEq.rfl
  | listMembers service => exact client.withoutPasswords_once (.members service) HEq.rfl
  | getConfig request => exact client.withoutPasswords_once (.configFile request) HEq.rfl

end Client

namespace Invocation

/-- Passwords reach the calls of a run and nothing else. With other passwords, where the standbys have one if they had
one before, the arguments break the same rule or none. If they break none the connection and the wait are the same, and
for the same answers so is the run: its calls apart from passwords, what it reports meanwhile, its result, and all that
is printed for the result. -/
theorem dispatch_ofArguments_withPasswords {env : Environment} {args : Arguments}
    {password replicationPassword : Option String}
    (hgiven : (given? args.replicationPassword).isSome = (given? replicationPassword).isSome) (client : Client) :
    let others := args.withPasswords password replicationPassword
    (∃ e, ofArguments env args = .error e ∧ ofArguments env others = .error e) ∨
    ∃ first second, ofArguments env args = .ok first ∧ ofArguments env others = .ok second ∧
      first.connection = second.connection ∧ first.wait = second.wait ∧
      let run := client.blind.dispatch first.command first.wait
      let other := client.blind.dispatch second.command second.wait
      run.calls.map Call.withoutPasswords = other.calls.map Call.withoutPasswords ∧
      run.events = other.events ∧
      run.result = other.result ∧
      run.result.map Output.payload = other.result.map Output.payload ∧
      run.result.map Output.message? = other.result.map Output.message? ∧
      ∀ format color requests,
        Program.executionReport color ⟨requests, Program.endingOf format run.result⟩ =
          Program.executionReport color ⟨requests, Program.endingOf format other.result⟩ := by
  intro others
  have hsame : (ofArguments env others).map Invocation.withoutPasswords =
      (ofArguments env args).map Invocation.withoutPasswords := ofArguments_withPasswords env hgiven
  cases hfirst : ofArguments env args with
  | error e =>
    cases hsecond : ofArguments env others with
    | error e' =>
      simp only [hfirst, hsecond, Except.map, Except.error.injEq] at hsame
      exact Or.inl ⟨e, rfl, hsame ▸ rfl⟩
    | ok second => simp [hfirst, hsecond, Except.map] at hsame
  | ok first =>
    cases hsecond : ofArguments env others with
    | error e' => simp [hfirst, hsecond, Except.map] at hsame
    | ok second =>
      simp only [hfirst, hsecond, Except.map, Except.ok.injEq, withoutPasswords, Invocation.mk.injEq] at hsame
      obtain ⟨hcommand, hconnection, hwait⟩ := hsame
      have hrun : (client.blind.dispatch first.command first.wait).withoutPasswords =
          (client.blind.dispatch second.command second.wait).withoutPasswords := by
        rw [client.withoutPasswords_dispatch_blind, client.withoutPasswords_dispatch_blind, hcommand, hwait]
      have hcalls := congrArg Run.calls hrun
      have hevents := congrArg Run.events hrun
      have hresult := congrArg Run.result hrun
      dsimp only [Run.withoutPasswords] at hcalls hevents hresult
      refine Or.inr ⟨first, second, rfl, rfl, hconnection.symm, hwait.symm, hcalls, hevents, hresult, ?_⟩
      rw [hresult]
      exact ⟨rfl, rfl, fun _ _ _ => rfl⟩

/-- A relational store with other passwords is created by other calls, which differ in nothing but the passwords. -/
theorem dispatch_ofArguments_withPasswords_of_relational_create :
    let args : Arguments :=
      { operation := "create", kind := some "postgresql", region := some "us-west-1", service := some "svc",
        volumeSizeGb := 10, password := some "first", replicationPassword := some "one" }
    let others := args.withPasswords (some "second") (some " two")
    let client : Client := fun _ call =>
      match call with
      | .create _ => .ok ()
      | .checkInit _ => .ok true
      | _ => .error ⟨.notFound, ""⟩
    (given? args.replicationPassword).isSome = (given? (some " two")).isSome ∧
    ∃ first second, ofArguments ⟨[]⟩ args = .ok first ∧ ofArguments ⟨[]⟩ others = .ok second ∧
      first.command ≠ second.command ∧
      let run := client.blind.dispatch first.command first.wait
      let other := client.blind.dispatch second.command second.wait
      run.calls.map Call.withoutPasswords = other.calls.map Call.withoutPasswords ∧ run.result = other.result := by
  intro args others client
  have hgiven : (given? args.replicationPassword).isSome = (given? (some " two")).isSome := by decide
  have hdiffer : (ofArguments ⟨[]⟩ args).map (·.command) ≠ (ofArguments ⟨[]⟩ others).map (·.command) := by
    decide
  obtain ⟨e, hfirst, hsecond⟩ | ⟨first, second, hfirst, hsecond, -, -, hcalls, -, hresult, -⟩ :=
    @dispatch_ofArguments_withPasswords ⟨[]⟩ args (some "second") (some " two") hgiven client
  · exact absurd (by rw [hfirst, hsecond]) hdiffer
  · refine ⟨hgiven, first, second, hfirst, hsecond, ?_, hcalls, hresult⟩
    intro hcommand
    exact hdiffer (by rw [hfirst, hsecond]; exact congrArg Except.ok hcommand)

end Invocation

end ServiceCatalog
