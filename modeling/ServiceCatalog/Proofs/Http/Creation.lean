import ServiceCatalog.Proofs.Dispatch
import ServiceCatalog.Proofs.Http.Answers

/-!
# Creations over HTTP

A service that is created over HTTP and waited for is initialized exactly if the server accepts the creation and
confirms one of the checks that there is time for. What else the server replies to a check makes no difference.
-/

namespace ServiceCatalog

open Request Service

namespace Http

/-- A server confirms a check: it accepts the request and says that the service is initialized. -/
def Confirms (server : Server) (earlier : List Request) (check : Request) : Prop :=
  ∃ body, Accepts server earlier check body ∧ (Json.readOctets? body).bind initialized? = some true

/-- A server confirms the check of a service that follows its creation and so many other checks. -/
def ConfirmsAfter (server : Server) (base : Url) (r : Create) (checks : Nat) : Prop :=
  Confirms server (request base (.create r) :: List.replicate checks (request base (.checkInit r.checkInit)))
    (request base (.checkInit r.checkInit))

/-- The octets of the answer that a service is not yet initialized. -/
def notYet : List UInt8 := Text.Utf8.encode "\x7b\"initialized\":false\x7d"

/-- A server that replies as another does, but may put off a check with a "not yet" whenever the other does not confirm
it. -/
def Postpones (check : Request) (server other : Server) : Prop :=
  ∀ earlier request, other earlier request = server earlier request ∨
    request = check ∧ ¬ Confirms server earlier check ∧ other earlier request = .complete 200 notYet

theorem read_notYet : (Json.readOctets? notYet).bind initialized? = some false := by decide +kernel

theorem client_create_eq_ok_iff {base : Url} {server : Server} {earlier : List Call} {r : Create} :
    (∃ answer, client base server earlier (.create r) = .ok answer) ↔
      ∃ body, Accepts server (sent base earlier) (request base (.create r)) body := by
  constructor
  · rintro ⟨answer, hanswer⟩
    obtain ⟨body, haccepts, -⟩ := client_eq_ok_iff.mp hanswer
    exact ⟨body, haccepts⟩
  · rintro ⟨body, haccepts⟩
    exact ⟨(), client_eq_ok_iff.mpr ⟨body, haccepts, trivial⟩⟩

theorem client_checkInit_eq_true_iff {base : Url} {server : Server} {earlier : List Call} {r : CheckInit} :
    client base server earlier (.checkInit r) = .ok true ↔
      Confirms server (sent base earlier) (request base (.checkInit r)) :=
  client_eq_ok_iff

theorem request_create_ne_checkInit (base : Url) (r : Create) (check : CheckInit) :
    request base (.create r) ≠ request base (.checkInit check) :=
  request_ne_of_segments_ne base (by simp [segments])

theorem Postpones.confirms_iff {check : Request} {server other : Server} (h : Postpones check server other)
    (earlier : List Request) : Confirms other earlier check ↔ Confirms server earlier check := by
  obtain hsame | ⟨-, hnot, hpostponed⟩ := h earlier check
  · unfold Confirms Accepts
    rw [hsame]
  · refine iff_of_false ?_ hnot
    rintro ⟨body, ⟨-, status, -, -, hreply⟩, hbody⟩
    rw [hpostponed] at hreply
    cases hreply
    rw [read_notYet] at hbody
    cases hbody

theorem sent_checks {base : Url} {r : Create} {check : CheckInit}
    (hcreation : (request base (.create r)).isSendable = true)
    (hcheck : (request base (.checkInit check)).isSendable = true) (k : Nat) :
    sent base (.create r :: List.replicate k (.checkInit check)) =
      request base (.create r) :: List.replicate k (request base (.checkInit check)) := by
  simp [sent, hcreation, hcheck]

section Creation

variable {base : Url} {server : Server} {r : Create}

theorem answers_eq_true_iff {body : List UInt8} (haccepts : Accepts server [] (request base (.create r)) body)
    (k : Nat) :
    (client base server).answers [.create r] r.checkInit k = .ok true ↔ ConfirmsAfter server base r k := by
  change client base server (.create r :: List.replicate k (.checkInit r.checkInit)) (.checkInit r.checkInit) =
    .ok true ↔ _
  rw [client_checkInit_eq_true_iff]
  by_cases hcheck : (request base (.checkInit r.checkInit)).isSendable = true
  · rw [sent_checks haccepts.1 hcheck, ConfirmsAfter]
  · -- A check that cannot be put together is never sent.
    refine iff_of_false ?_ ?_
    · rintro ⟨body, haccepts, -⟩
      exact hcheck haccepts.1
    · rintro ⟨body, haccepts, -⟩
      exact hcheck haccepts.1

variable (budget : Wait.Budget)

theorem dispatch_create_of_not_accepted (h : ¬ ∃ body, Accepts server [] (request base (.create r)) body) :
    ∃ e, client base server [] (.create r) = .error e ∧
      (client base server).dispatch (.create r) (some budget) = Client.failure [.create r] e := by
  cases hanswer : client base server [] (.create r) with
  | error e => exact ⟨e, rfl, by simp only [Client.dispatch, Client.createAndWait, hanswer]⟩
  | ok answer => exact absurd (client_create_eq_ok_iff.mp ⟨answer, hanswer⟩) h

theorem dispatch_create_of_accepted {body : List UInt8} (h : Accepts server [] (request base (.create r)) body) :
    (client base server).dispatch (.create r) (some budget) =
      ⟨.create r :: List.replicate ((client base server).waitAfter r budget).checks (.checkInit r.checkInit),
        ((client base server).waitAfter r budget).events,
        Client.waitResult budget (.created r.spec.service r.kind true)
          ((client base server).waitAfter r budget).outcome⟩ := by
  have hcreated : ∃ answer, client base server [] (.create r) = .ok answer := client_create_eq_ok_iff.mpr ⟨body, h⟩
  obtain ⟨answer, hanswer⟩ := hcreated
  exact Client.dispatch_create_of_created hanswer

theorem result_eq_ok_iff (output : Output) :
    ((client base server).dispatch (.create r) (some budget)).result = .ok output ↔
      output = .created r.spec.service r.kind true ∧ (∃ body, Accepts server [] (request base (.create r)) body) ∧
        ∃ k < budget.room, ConfirmsAfter server base r k := by
  by_cases haccepted : ∃ body, Accepts server [] (request base (.create r)) body
  · obtain ⟨body, haccepts⟩ := haccepted
    have hwait : ((client base server).waitAfter r budget).outcome = .initialized ↔
        ∃ k < budget.room, (client base server).answers [.create r] r.checkInit k = .ok true :=
      Wait.Poller.run_initialized_iff _ 0
    rw [dispatch_create_of_accepted budget haccepts]
    simp only [← answers_eq_true_iff haccepts, Client.waitResult_eq_ok_iff, ← hwait]
    constructor
    · rintro ⟨houtcome, rfl⟩
      exact ⟨rfl, ⟨body, haccepts⟩, houtcome⟩
    · rintro ⟨rfl, -, houtcome⟩
      exact ⟨houtcome, rfl⟩
  · obtain ⟨e, -, hrun⟩ := dispatch_create_of_not_accepted budget haccepted
    rw [hrun]
    constructor
    · intro hresult
      cases hresult
    · rintro ⟨-, haccepts, -⟩
      exact absurd haccepts haccepted

/-- Without a confirmation in time the run ends because the time is up, if that time can be counted. -/
theorem result_of_not_confirmed {body : List UInt8} (haccepts : Accepts server [] (request base (.create r)) body)
    (hnone : ∀ k < budget.room, ¬ ConfirmsAfter server base r k)
    (hcounted : budget.room * budget.interval.nanos < Duration.limit) :
    ((client base server).dispatch (.create r) (some budget)).result =
      .error (.failed (.initTimeout budget.maxWait)) := by
  have hanswers : Wait.Poller.NoneOf ((client base server).answers [.create r] r.checkInit) budget.room := by
    intro k hk hsuccess
    exact hnone k hk ((answers_eq_true_iff haccepts k).mp hsuccess)
  have houtcome : ((client base server).waitAfter r budget).outcome = _ :=
    (Wait.Poller.run_of_none _ 0 hanswers).2
  rw [dispatch_create_of_accepted budget haccepts, houtcome, if_pos hcounted]
  rfl

/-- The requests of a creation that is accepted: a check is sent if there is time for it and none was confirmed. -/
theorem sent_of_accepted {body : List UInt8} (haccepts : Accepts server [] (request base (.create r)) body)
    (hcheck : (request base (.checkInit r.checkInit)).isSendable = true) :
    ∃ m ≤ budget.room,
      sent base ((client base server).dispatch (.create r) (some budget)).calls =
        request base (.create r) :: List.replicate m (request base (.checkInit r.checkInit)) ∧
      ∀ k < budget.room, k < m ↔ ∀ j < k, ¬ ConfirmsAfter server base r j := by
  have hle : ((client base server).waitAfter r budget).checks ≤ budget.room := Wait.Poller.run_checks_le _ 0
  refine ⟨((client base server).waitAfter r budget).checks, hle, ?_, ?_⟩
  · rw [dispatch_create_of_accepted budget haccepts]
    exact sent_checks haccepts.1 hcheck _
  · intro k hk
    simp only [← answers_eq_true_iff haccepts]
    by_cases hnone : Wait.Poller.NoneOf ((client base server).answers [.create r] r.checkInit) budget.room
    · have hchecks : ((client base server).waitAfter r budget).checks = budget.room :=
        (Wait.Poller.run_of_none _ 0 hnone).1
      rw [hchecks]
      exact iff_of_true hk fun j hj => hnone j (hj.trans hk)
    · obtain ⟨s, hroom, hsuccess, hbefore⟩ := Wait.Poller.exists_first_of_not_noneOf hnone
      have hchecks : ((client base server).waitAfter r budget).checks = s + 1 :=
        (Wait.Poller.run_of_success _ 0 hsuccess hbefore hroom).2
      rw [hchecks]
      constructor
      · intro hlt j hj
        exact hbefore j (by omega)
      · intro hnone
        by_contra hlater
        exact hnone s (by omega) hsuccess

/-- Checks that are put off change neither the result of a run nor the calls that it makes. -/
theorem dispatch_create_of_postpones {other : Server}
    (h : Postpones (request base (.checkInit r.checkInit)) server other) :
    ((client base other).dispatch (.create r) (some budget)).result =
        ((client base server).dispatch (.create r) (some budget)).result ∧
      ((client base other).dispatch (.create r) (some budget)).calls =
        ((client base server).dispatch (.create r) (some budget)).calls := by
  have hreply : other [] (request base (.create r)) = server [] (request base (.create r)) := by
    obtain hsame | ⟨hcheck, -⟩ := h [] (request base (.create r))
    · exact hsame
    · exact absurd hcheck (request_create_ne_checkInit base r r.checkInit)
  have hsend : send other [] (request base (.create r)) = send server [] (request base (.create r)) := by
    unfold send
    rw [hreply]
  have hcreate : client base other [] (.create r) = client base server [] (.create r) :=
    congrArg (fun reply => reply >>= answer (.create r)) hsend
  by_cases haccepted : ∃ body, Accepts server [] (request base (.create r)) body
  · obtain ⟨body, haccepts⟩ := haccepted
    have haccepts' : Accepts other [] (request base (.create r)) body := by
      rw [← send_eq_ok_iff, hsend]
      exact send_eq_ok_iff.mpr haccepts
    have hanswers (k : Nat) : (client base other).answers [.create r] r.checkInit k = .ok true ↔
        (client base server).answers [.create r] r.checkInit k = .ok true := by
      rw [answers_eq_true_iff haccepts, answers_eq_true_iff haccepts']
      exact h.confirms_iff _
    have hwait : ((client base other).waitAfter r budget).outcome = ((client base server).waitAfter r budget).outcome ∧
        ((client base other).waitAfter r budget).checks = ((client base server).waitAfter r budget).checks :=
      Wait.Poller.run_of_same_successes _ hanswers 0
    rw [dispatch_create_of_accepted budget haccepts, dispatch_create_of_accepted budget haccepts']
    dsimp only
    rw [hwait.1, hwait.2]
    exact ⟨rfl, rfl⟩
  · obtain ⟨e, herror, hrun⟩ := dispatch_create_of_not_accepted budget haccepted
    have hrun' : (client base other).dispatch (.create r) (some budget) = Client.failure [.create r] e := by
      rw [← hcreate] at herror
      simp only [Client.dispatch, Client.createAndWait, herror]
    rw [hrun, hrun']
    exact ⟨rfl, rfl⟩

/-- Whatever service is created at whatever address and whatever a server replies, the creation is reported as
initialized exactly if the server accepts it and confirms one of the checks that there is time for. A creation that is
not accepted ends with its error before any check; one that is never confirmed ends when the time is up. The checks are
sent one after another until one is confirmed, and what the server replies to the others makes no difference. -/
theorem dispatch_create_over_http (base : Url) (server : Server) (r : Create) (budget : Wait.Budget) :
    let creation := request base (.create r)
    let check := request base (.checkInit r.checkInit)
    let room := {k : Nat | k * budget.interval.nanos < budget.maxWait.nanos}.ncard
    let accepted : Prop := ∃ body, Accepts server [] creation body
    let confirmed (k : Nat) : Prop := Confirms server (creation :: List.replicate k check) check
    let run := (client base server).dispatch (.create r) (some budget)
    (∀ output, run.result = .ok output ↔
      output = .created r.spec.service r.kind true ∧ accepted ∧ ∃ k < room, confirmed k) ∧
    (¬ accepted → ∃ e, client base server [] (.create r) = .error e ∧ run.result = .error (.failed (.remote e)) ∧
      check ∉ sent base run.calls) ∧
    (accepted → (∀ k < room, ¬ confirmed k) → room * budget.interval.nanos < Duration.limit →
      run.result = .error (.failed (.initTimeout budget.maxWait))) ∧
    (accepted → check.isSendable = true →
      ∃ m ≤ room, sent base run.calls = creation :: List.replicate m check ∧
        ∀ k < room, k < m ↔ ∀ j < k, ¬ confirmed j) ∧
    (∀ other, Postpones check server other →
      let postponed := (client base other).dispatch (.create r) (some budget)
      postponed.result = run.result ∧ sent base postponed.calls = sent base run.calls) := by
  intro creation check room accepted confirmed run
  have hroom : room = budget.room := budget.ncard_multiples_below
  rw [hroom]
  refine ⟨result_eq_ok_iff budget, ?_, ?_, ?_, ?_⟩
  · intro haccepted
    obtain ⟨e, herror, hrun⟩ := dispatch_create_of_not_accepted budget haccepted
    have hcalls : run.calls = [.create r] := congrArg Run.calls hrun
    refine ⟨e, herror, congrArg Run.result hrun, ?_⟩
    rw [hcalls]
    intro hsent
    have hmem := (List.mem_filter.mp hsent).1
    exact request_create_ne_checkInit base r r.checkInit (List.mem_singleton.mp hmem).symm
  · rintro ⟨body, haccepts⟩ hnone hcounted
    exact result_of_not_confirmed budget haccepts hnone hcounted
  · rintro ⟨body, haccepts⟩ hcheck
    exact sent_of_accepted budget haccepts hcheck
  · intro other hpostpones
    obtain ⟨hresult, hcalls⟩ := dispatch_create_of_postpones budget hpostpones
    exact ⟨hresult, congrArg (sent base) hcalls⟩

end Creation

end Http

end ServiceCatalog
