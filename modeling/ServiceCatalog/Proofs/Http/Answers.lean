import ServiceCatalog.Connection.Settings
import ServiceCatalog.Http.Client
import ServiceCatalog.Proofs.Results

/-!
# Answers over HTTP

A call sends one request, if that can be put together, and what comes of the call is told by the reply to this request
alone. The status of a complete reply decides between success and the kinds of error; its body only has to hold an
answer.
-/

namespace ServiceCatalog

namespace Http

open Json

/-- The requests that calls send: those that can be put together. -/
def sent (base : Url) (calls : List Call) : List Request := (calls.map (request base)).filter Request.isSendable

/-- A server accepts a request: the request is sent, and what comes back is a complete answer of success. -/
def Accepts (server : Server) (earlier : List Request) (request : Request) (body : List UInt8) : Prop :=
  request.isSendable = true ∧
    ∃ status, 200 ≤ status ∧ status < 300 ∧ server earlier request = .complete status body

/-- A body holds an answer to a call. Nothing is read from the body for a creation or a deletion. -/
def IsAnswer (body : List UInt8) : (call : Call) → call.Answer → Prop
  | .create _, _ => True
  | .checkInit _, initialized => (readOctets? body).bind initialized? = some initialized
  | .list _, services => (readOctets? body).bind services? = some services
  | .get _, attributes => (readOctets? body).bind Service.Attributes.ofJson? = some attributes
  | .members _, members => (readOctets? body).bind members? = some members
  | .delete _, _ => True
  | .configFile _, file => (readOctets? body).bind Service.ConfigFile.ofJson? = some file

/-- A call ends with an error of a kind. -/
def FailsAs {α : Type} (result : Except RemoteError α) (kind : RemoteError.Kind) : Prop :=
  ∃ e, result = .error e ∧ e.kind = kind

theorem sent_cons {base : Url} {call : Call} (h : (request base call).isSendable = true) (later : List Call) :
    sent base (call :: later) = request base call :: sent base later := by
  simp [sent, h]

theorem sent_cons_of_unsendable {base : Url} {call : Call} (h : (request base call).isSendable = false)
    (later : List Call) : sent base (call :: later) = sent base later := by
  simp [sent, h]

theorem sent_append (base : Url) (earlier later : List Call) :
    sent base (earlier ++ later) = sent base earlier ++ sent base later := by
  simp [sent]

/-- Calls with different addresses send different requests, whether or not their texts differ. -/
theorem request_ne_of_segments_ne (base : Url) {call other : Call} (h : segments call ≠ segments other) :
    request base call ≠ request base other := by
  intro heq
  have hpath := congrArg (fun q : Request => q.url.path) heq
  exact h (List.append_cancel_left hpath)

/-! ## What is received -/

theorem received_complete (request : Request) (status : Nat) (body : List UInt8) :
    received request (.complete status body) =
      if 200 ≤ status ∧ status < 300 then .ok body else .error (statusError status body) := by
  simp [received, isSuccess]

theorem received_eq_ok_iff {request : Request} {reply : Reply} {body : List UInt8} :
    received request reply = .ok body ↔ ∃ status, 200 ≤ status ∧ status < 300 ∧ reply = .complete status body := by
  cases reply with
  | noAnswer => simp [received]
  | stalled => simp [received]
  | cutShort => simp [received]
  | complete status content =>
    rw [received_complete]
    simp only [Reply.complete.injEq]
    split
    · rename_i hsuccess
      constructor
      · intro hbody
        exact ⟨status, hsuccess.1, hsuccess.2, rfl, Except.ok.inj hbody⟩
      · rintro ⟨-, -, -, -, rfl⟩
        rfl
    · rename_i hfailure
      refine iff_of_false (by simp) ?_
      rintro ⟨accepted, hlow, hhigh, rfl, -⟩
      exact hfailure ⟨hlow, hhigh⟩

theorem send_eq_ok_iff {server : Server} {earlier : List Request} {request : Request} {body : List UInt8} :
    send server earlier request = .ok body ↔ Accepts server earlier request body := by
  unfold send Accepts
  by_cases hsendable : request.isSendable
  · simp [hsendable, received_eq_ok_iff]
  · simp [hsendable]

/-- A server accepts a request with one body only. -/
theorem Accepts.unique {server : Server} {earlier : List Request} {request : Request} {body other : List UInt8}
    (h : Accepts server earlier request body) (hother : Accepts server earlier request other) : body = other := by
  rw [← send_eq_ok_iff] at h hother
  exact Except.ok.inj (h.symm.trans hother)

theorem decoded_eq_ok_iff {α : Type} {call : Call} {read? : Json → Option α} {body : List UInt8} {value : α} :
    decoded call read? body = .ok value ↔ (Json.readOctets? body).bind read? = some value := by
  unfold decoded
  split <;> rename_i hread <;> simp [hread]

theorem answer_eq_ok_iff {call : Call} {body : List UInt8} {answer : call.Answer} :
    Http.answer call body = .ok answer ↔ IsAnswer body call answer := by
  cases call with
  | create r => exact iff_of_true rfl trivial
  | delete service => exact iff_of_true rfl trivial
  | checkInit r => exact decoded_eq_ok_iff
  | list r => exact decoded_eq_ok_iff
  | get service => exact decoded_eq_ok_iff
  | members service => exact decoded_eq_ok_iff
  | configFile r => exact decoded_eq_ok_iff

/-- A call is answered if the server accepts its request with a body that holds the answer. -/
theorem client_eq_ok_iff {base : Url} {server : Server} {earlier : List Call} {call : Call} {answer : call.Answer} :
    client base server earlier call = .ok answer ↔
      ∃ body, Accepts server (sent base earlier) (request base call) body ∧ IsAnswer body call answer := by
  simp only [client, bind_eq_ok_iff, send_eq_ok_iff, answer_eq_ok_iff]
  rfl

/-! ## Kinds of error -/

theorem failsAs_error_iff {α : Type} {e : RemoteError} {kind : RemoteError.Kind} :
    FailsAs (.error e : Except RemoteError α) kind ↔ e.kind = kind := by
  simp [FailsAs]

theorem kind_of_decoded {α : Type} {call : Call} {read? : Json → Option α} {body : List UInt8} {e : RemoteError}
    (h : decoded call read? body = .error e) : e.kind = .network := by
  unfold decoded at h
  split at h
  · cases h
  · cases h
    rfl

/-- A body without an answer is an error of the network. -/
theorem kind_of_answer {call : Call} {body : List UInt8} {e : RemoteError} (h : Http.answer call body = .error e) :
    e.kind = .network := by
  cases call with
  | create r => cases h
  | delete service => cases h
  | checkInit r => exact kind_of_decoded h
  | list r => exact kind_of_decoded h
  | get service => exact kind_of_decoded h
  | members service => exact kind_of_decoded h
  | configFile r => exact kind_of_decoded h

theorem kindOfStatus_eq_auth_iff {status : Nat} : kindOfStatus status = .auth ↔ status = 401 ∨ status = 403 := by
  unfold kindOfStatus
  split_ifs <;> simp <;> omega

theorem kindOfStatus_eq_notFound_iff {status : Nat} : kindOfStatus status = .notFound ↔ status = 404 := by
  unfold kindOfStatus
  split_ifs <;> simp <;> omega

theorem kindOfStatus_eq_validation_iff {status : Nat} :
    kindOfStatus status = .validation ↔ status = 400 ∨ status = 409 ∨ status = 412 ∨ status = 422 := by
  unfold kindOfStatus
  split_ifs <;> simp <;> omega

theorem kindOfStatus_eq_network_iff {status : Nat} :
    kindOfStatus status = .network ↔ status ∉ [400, 401, 403, 404, 409, 412, 422] := by
  unfold kindOfStatus
  split_ifs <;> simp <;> omega

theorem kindOfStatus_of_success {status : Nat} (hlow : 200 ≤ status) (hhigh : status < 300) :
    kindOfStatus status = .network := by
  rw [kindOfStatus_eq_network_iff]
  simp
  omega

section Outcome

variable {base : Url} {server : Server} {earlier : List Call} {call : Call}

theorem client_of_sendable (h : (request base call).isSendable = true) :
    client base server earlier call =
      received (request base call) (server (sent base earlier) (request base call)) >>= Http.answer call := by
  simp only [client, send]
  rw [if_pos h]
  rfl

theorem client_of_unsendable (h : (request base call).isSendable = false) :
    client base server earlier call = .error (networkError (request base call).url "builder error") := by
  simp only [client, send]
  rw [if_neg (by simp [h])]
  rfl

theorem failsAs_of_no_complete (h : (request base call).isSendable = true)
    (hreply : ∀ status body, server (sent base earlier) (request base call) ≠ .complete status body) :
    FailsAs (client base server earlier call) .network := by
  rw [client_of_sendable h]
  cases hserver : server (sent base earlier) (request base call) with
  | noAnswer => exact ⟨_, rfl, rfl⟩
  | stalled => exact ⟨_, rfl, rfl⟩
  | cutShort => exact ⟨_, rfl, rfl⟩
  | complete status body => exact absurd hserver (hreply status body)

variable {status : Nat} {body : List UInt8}

theorem client_eq_ok_of_complete (h : (request base call).isSendable = true)
    (hreply : server (sent base earlier) (request base call) = .complete status body) (answer : call.Answer) :
    client base server earlier call = .ok answer ↔ 200 ≤ status ∧ status < 300 ∧ IsAnswer body call answer := by
  rw [client_eq_ok_iff]
  simp only [Accepts, hreply, h, true_and, Reply.complete.injEq]
  constructor
  · rintro ⟨content, ⟨accepted, hlow, hhigh, rfl, rfl⟩, hanswer⟩
    exact ⟨hlow, hhigh, hanswer⟩
  · rintro ⟨hlow, hhigh, hanswer⟩
    exact ⟨body, ⟨status, hlow, hhigh, rfl, rfl⟩, hanswer⟩

/-- After a complete reply, the kind of the error is the one of the status, or that of the network if the status means
success and the body holds no answer. -/
theorem failsAs_of_complete (h : (request base call).isSendable = true)
    (hreply : server (sent base earlier) (request base call) = .complete status body) (kind : RemoteError.Kind) :
    FailsAs (client base server earlier call) kind ↔
      kindOfStatus status = kind ∧ ∀ answer, client base server earlier call ≠ .ok answer := by
  have hclient : client base server earlier call = _ := client_of_sendable h
  rw [hreply, received_complete] at hclient
  by_cases hsuccess : 200 ≤ status ∧ status < 300
  · have hnetwork := kindOfStatus_of_success hsuccess.1 hsuccess.2
    rw [if_pos hsuccess] at hclient
    change client base server earlier call = Http.answer call body at hclient
    rw [hclient, hnetwork]
    cases hanswer : Http.answer call body with
    | ok answer => simp [FailsAs]
    | error e => simp [failsAs_error_iff, kind_of_answer hanswer]
  · rw [if_neg hsuccess] at hclient
    change client base server earlier call = .error (statusError status body) at hclient
    rw [hclient, failsAs_error_iff]
    simp [statusError]

/-- A status that is an error of its own means that kind of error, whatever the body is. -/
theorem failsAs_of_status (h : (request base call).isSendable = true)
    (hreply : server (sent base earlier) (request base call) = .complete status body) {kind : RemoteError.Kind}
    (hkind : kind ≠ .network) : FailsAs (client base server earlier call) kind ↔ kindOfStatus status = kind := by
  rw [failsAs_of_complete h hreply, and_iff_left_iff_imp]
  rintro rfl answer hanswer
  obtain ⟨hlow, hhigh, -⟩ := (client_eq_ok_of_complete h hreply answer).mp hanswer
  exact hkind (kindOfStatus_of_success hlow hhigh)

end Outcome

/-- Whatever is called after whatever other calls, at whatever address and whatever a server replies: a call whose
request can be put together sends this request, to the address of the call and with the text of what the call asks for,
and its result is told by the reply to it. It is a success exactly if the reply is complete, its status means success
and its body holds the answer; the status alone tells errors of authentication, of what does not exist and of what is
not accepted, and everything else is an error of the network. Otherwise nothing is sent. -/
theorem client_outcome (base : Url) (server : Server) (earlier : List Call) (call : Call) :
    let post := request base call
    let before := sent base earlier
    let result := client base server earlier call
    post.url = base.join (segments call) ∧ post.body = call.requestJson.compact ∧
    (post.isSendable = true →
      sent base (earlier ++ [call]) = before ++ [post] ∧
      (∀ other : Server, other before post = server before post → client base other earlier call = result) ∧
      (∀ status body, server before post = .complete status body →
        (∀ answer, result = .ok answer ↔ 200 ≤ status ∧ status < 300 ∧ IsAnswer body call answer) ∧
        (FailsAs result .auth ↔ status = 401 ∨ status = 403) ∧
        (FailsAs result .notFound ↔ status = 404) ∧
        (FailsAs result .validation ↔ status = 400 ∨ status = 409 ∨ status = 412 ∨ status = 422) ∧
        (FailsAs result .network ↔
          status ∉ [400, 401, 403, 404, 409, 412, 422] ∧ ∀ answer, result ≠ .ok answer)) ∧
      ((∀ status body, server before post ≠ .complete status body) → FailsAs result .network)) ∧
    (post.isSendable = false → sent base (earlier ++ [call]) = before ∧ FailsAs result .network) := by
  intro post before result
  refine ⟨rfl, rfl, fun hsendable => ⟨?_, ?_, ?_, failsAs_of_no_complete hsendable⟩, fun hunsendable => ⟨?_, ?_⟩⟩
  · rw [sent_append, sent_cons hsendable]
    rfl
  · intro other hsame
    change client base other earlier call = client base server earlier call
    rw [client_of_sendable hsendable, client_of_sendable hsendable]
    exact congrArg (fun reply => received post reply >>= Http.answer call) hsame
  · intro status body hreply
    refine ⟨client_eq_ok_of_complete hsendable hreply, ?_, ?_, ?_, ?_⟩
    · rw [failsAs_of_status hsendable hreply (by simp), kindOfStatus_eq_auth_iff]
    · rw [failsAs_of_status hsendable hreply (by simp), kindOfStatus_eq_notFound_iff]
    · rw [failsAs_of_status hsendable hreply (by simp), kindOfStatus_eq_validation_iff]
    · rw [failsAs_of_complete hsendable hreply, kindOfStatus_eq_network_iff]
  · rw [sent_append, sent_cons_of_unsendable hunsendable]
    exact List.append_nil before
  · exact ⟨_, client_of_unsendable hunsendable, rfl⟩

/-- A request cannot have braces in its host: a call to such an address fails without a request, even if there is a
server that would answer. -/
theorem nothing_sent_of_braces :
    ∃ settings, Connection.Settings.resolve (some "\x7bcluster\x7d.example") "c" none (.ofSeconds 20) = .ok settings ∧
      let call : Call := .list ⟨"r", "c", ""⟩
      let server : Server := fun _ _ => .complete 200 (Text.Utf8.encode "\x7b\"services\":[]\x7d")
      sent settings.server [call] = [] ∧
      client settings.server server [] call =
        .error ⟨.network, "builder error for url (http://\x7bcluster\x7d.example/v1/services/list)"⟩ := by
  have hread : (Connection.Settings.resolve (some "\x7bcluster\x7d.example") "c" none (.ofSeconds 20)).map
      (fun settings =>
        let post := request settings.server (.list ⟨"r", "c", ""⟩)
        (post.isSendable, networkError post.url "builder error")) =
      .ok (false, ⟨.network, "builder error for url (http://\x7bcluster\x7d.example/v1/services/list)"⟩) := by
    decide
  obtain ⟨settings, hsettings, hpost⟩ := map_eq_ok_iff.mp hread
  obtain ⟨hunsendable, herror⟩ := Prod.mk.inj hpost
  refine ⟨settings, hsettings, sent_cons_of_unsendable hunsendable [], ?_⟩
  rw [client_of_unsendable hunsendable, herror]

end Http

end ServiceCatalog
