import ServiceCatalog.Proofs.Deletion
import ServiceCatalog.Proofs.Http.Answers
import ServiceCatalog.Proofs.Json.Record

/-!
# Deletions over HTTP

A deletion is sent only after an answer that lists the members of the service, each of them readable. The volumes that
the result names are those that the answer gives for the members, whatever else it says about them.
-/

namespace ServiceCatalog

open Json Service

/-! ## Addresses -/

/-- Of two addresses underneath the same one, the one with the shorter segments is the shorter one. -/
theorem Url.utf8ByteSize_text_join_le (u : Url) {segments others : List String} (hsegments : segments ≠ [])
    (hothers : others ≠ [])
    (hle : ("/".intercalate segments).utf8ByteSize ≤ ("/".intercalate others).utf8ByteSize) :
    (u.join segments).text.utf8ByteSize ≤ (u.join others).text.utf8ByteSize := by
  have hpath : (u.join segments).pathText.utf8ByteSize ≤ (u.join others).pathText.utf8ByteSize := by
    simp only [pathText, join, String.utf8ByteSize_append]
    by_cases hfront : u.path.dropLast = []
    · simpa [hfront] using hle
    · rw [String.intercalate_append_of_ne_nil hfront hsegments, String.intercalate_append_of_ne_nil hfront hothers]
      simpa [String.utf8ByteSize_append] using hle
  simp only [text, String.utf8ByteSize_append]
  exact Nat.add_le_add_right (Nat.add_le_add_left hpath _) _

theorem Url.anonymous_join (u : Url) (segments : List String) :
    (u.join segments).anonymous = u.anonymous.join segments := by
  have haccount : (u.join segments).account? = u.account? := rfl
  unfold anonymous
  rw [haccount]
  cases u.account? <;> rfl

namespace Http

/-- The deletion of a service can be sent if its members can be asked for. -/
theorem isSendable_delete {base : Url} {service : Identity}
    (h : (request base (.members service)).isSendable = true) :
    (request base (.delete service)).isSendable = true := by
  simp only [Request.isSendable, request, Url.anonymous_join, Bool.and_eq_true, decide_eq_true_eq] at h ⊢
  have hshorter : ("/".intercalate ["v1", "services", "delete"]).utf8ByteSize ≤
      ("/".intercalate ["v1", "services", "members"]).utf8ByteSize := by decide
  have hsize := base.anonymous.utf8ByteSize_text_join_le (by simp) (by simp) hshorter
  exact ⟨h.1, hsize.trans h.2⟩

/-! ## Answers that list members -/

/-- The list of members in an answer, item by item. It may be left out, and the answer may be an array of its only
field. -/
def memberItems? : Json → Option (List Json)
  | .object fields =>
    match valuesOf "members" fields with
    | [] => some []
    | [.array items] => some items
    | _ => none
  | .array [] => some []
  | .array [.array items] => some items
  | _ => none

/-- The volume that is given for a member: a text under a key that occurs once, or in the third place. -/
def volumeId? : Json → Option String
  | .object fields =>
    match valuesOf "volume_id" fields with
    | [.string id] => some id
    | _ => none
  | .array (_ :: _ :: .string id :: _) => some id
  | _ => none

theorem members?_eq_some_iff {document : Json} {members : List Member} :
    members? document = some members ↔
      ∃ items, memberItems? document = some items ∧ items.mapM Member.ofJson? = some members := by
  cases document with
  | object fields =>
    simp only [members?, record?, List.mapM_cons, List.mapM_nil, single?, memberItems?]
    rcases valuesOf "members" fields with _ | ⟨value, _ | ⟨other, rest⟩⟩
    · simp [withDefault?]
    · cases value <;> simp [withDefault?, list?]
    · simp
  | array items =>
    rcases items with _ | ⟨value, _ | ⟨other, rest⟩⟩
    · simp [members?, record?, padded?, withDefault?, memberItems?]
    · cases value <;> simp [members?, record?, padded?, withDefault?, list?, memberItems?]
    · simp [members?, record?, padded?, memberItems?]
  | _ => simp [members?, record?, memberItems?]

theorem volumeId?_of_ofJson? {item : Json} {member : Member} (h : Member.ofJson? item = some member) :
    volumeId? item = some member.volumeId := by
  unfold Member.ofJson? at h
  obtain ⟨values, hvalues, h⟩ := Option.bind_eq_some_iff.mp h
  split at h
  · simp only [Option.bind_eq_bind, Option.bind_eq_some_iff, required?, text?_eq_some_iff] at h
    obtain ⟨name, -, zone, -, id, ⟨volume, rfl, rfl⟩, configs, -, hmember⟩ := h
    obtain rfl : _ = member := Option.some.inj hmember
    cases item with
    | object fields =>
      rw [record?, mapM_eq_some_iff] at hvalues
      have hvolume : single? "volume_id" fields = some (some (.string id)) := by
        simp only [List.map_cons, List.cons.injEq] at hvalues
        exact hvalues.2.2.1
      simp only [volumeId?, valuesOf_of_single? hvolume]
    | array items =>
      simp only [record?, List.length_cons, List.length_nil] at hvalues
      rcases items with _ | ⟨first, _ | ⟨second, _ | ⟨third, rest⟩⟩⟩ <;> simp [padded?] at hvalues
      obtain ⟨-, -, -, rfl⟩ := hvalues
      rfl
    | _ => simp [record?] at hvalues
  · cases h

/-- Members that are all readable have exactly the volumes that are given for them. -/
theorem map_volumeId? {items : List Json} {members : List Member} (h : items.mapM Member.ofJson? = some members) :
    items.map volumeId? = (members.map Member.volumeId).map some := by
  rw [mapM_eq_some_iff] at h
  induction items generalizing members with
  | nil =>
    obtain rfl : members = [] := by simpa using h.symm
    rfl
  | cons item items ih =>
    cases members with
    | nil => simp at h
    | cons member members =>
      simp only [List.map_cons, List.cons.injEq] at h ⊢
      exact ⟨volumeId?_of_ofJson? h.1, ih h.2⟩

/-! ## Requests and results -/

section Requests

variable {base : Url} {server : Server} {service : Identity} {wait : Option Wait.Budget}

/-- The members are listed by an answer whose items can all be read as members. -/
theorem client_members_eq_ok_iff {earlier : List Call} {members : List Member} :
    client base server earlier (.members service) = .ok members ↔
      ∃ body document items, Accepts server (sent base earlier) (request base (.members service)) body ∧
        readOctets? body = some document ∧ memberItems? document = some items ∧
        items.mapM Member.ofJson? = some members := by
  constructor
  · intro h
    obtain ⟨body, haccepts, hanswer⟩ := client_eq_ok_iff.mp h
    obtain ⟨document, hread, hdocument⟩ := Option.bind_eq_some_iff.mp hanswer
    obtain ⟨items, hitems, hmembers⟩ := members?_eq_some_iff.mp hdocument
    exact ⟨body, document, items, haccepts, hread, hitems, hmembers⟩
  · rintro ⟨body, document, items, haccepts, hread, hitems, hmembers⟩
    have hdocument := members?_eq_some_iff.mpr ⟨items, hitems, hmembers⟩
    exact client_eq_ok_iff.mpr ⟨body, haccepts, Option.bind_eq_some_iff.mpr ⟨document, hread, hdocument⟩⟩

/-- A deletion whose members are listed sends two requests. -/
theorem sent_of_listed {members : List Member} (h : client base server [] (.members service) = .ok members) :
    sent base ((client base server).dispatch (.delete service) wait).calls =
      [request base (.members service), request base (.delete service)] := by
  obtain ⟨body, haccepts, -⟩ := client_eq_ok_iff.mp h
  have hlisting : (request base (.members service)).isSendable = true := haccepts.1
  rw [Client.dispatch_delete_of_listed h, sent_cons hlisting, sent_cons (isSendable_delete hlisting)]
  rfl

theorem delete_mem_sent_iff :
    request base (.delete service) ∈ sent base ((client base server).dispatch (.delete service) wait).calls ↔
      ∃ members, client base server [] (.members service) = .ok members := by
  cases hlisted : client base server [] (.members service) with
  | ok members => simp [sent_of_listed hlisted]
  | error e =>
    have hne : request base (.delete service) ≠ request base (.members service) :=
      request_ne_of_segments_ne base (by simp [segments])
    rw [Client.dispatch_delete_of_unlisted hlisted]
    simp [sent, hne]

/-- If an answer lists items, the deletion is sent exactly if each of them can be read as a member. -/
theorem delete_mem_sent_iff_of_items {body : List UInt8} {document : Json} {items : List Json}
    (haccepts : Accepts server [] (request base (.members service)) body) (hread : readOctets? body = some document)
    (hitems : memberItems? document = some items) :
    request base (.delete service) ∈ sent base ((client base server).dispatch (.delete service) wait).calls ↔
      ∀ item ∈ items, Member.ofJson? item ≠ none := by
  rw [delete_mem_sent_iff, ← exists_mapM_iff]
  constructor
  · rintro ⟨members, hlisted⟩
    obtain ⟨body', document', items', haccepts', hread', hitems', hmembers⟩ := client_members_eq_ok_iff.mp hlisted
    obtain rfl := haccepts.unique haccepts'
    obtain rfl : document = document' := Option.some.inj (hread.symm.trans hread')
    obtain rfl : items = items' := Option.some.inj (hitems.symm.trans hitems')
    exact ⟨members, hmembers⟩
  · rintro ⟨members, hmembers⟩
    exact ⟨members, client_members_eq_ok_iff.mpr ⟨body, document, items, haccepts, hread, hitems, hmembers⟩⟩

theorem result_of_listed {members : List Member} (h : client base server [] (.members service) = .ok members) :
    let result := ((client base server).dispatch (.delete service) wait).result
    result = .ok (.deleted ⟨service, members.map Member.volumeId⟩) ∨
      ∃ e, result = .error (.failed (.deleteFailed (members.map Member.volumeId) e)) := by
  intro result
  have hresult : result = _ := congrArg Run.result (Client.dispatch_delete_of_listed h)
  cases hdeletion : client base server [.members service] (.delete service) with
  | ok answer => exact .inl (by simpa [hdeletion] using hresult)
  | error e => exact .inr ⟨e, by simpa [hdeletion] using hresult⟩

/-- Whatever service is to be deleted at whatever address and whatever a server replies: the deletion is sent exactly if
the request for the members of the service was accepted with a body that can be read as a list of members. One item
anywhere in the list that cannot be read as a member, as for one without a volume, prevents the deletion. If it is sent,
it follows the request for the members, and the result names the volumes that the body gives for the members, in their
order. -/
theorem dispatch_delete_over_http (base : Url) (server : Server) (service : Identity) (wait : Option Wait.Budget) :
    let listing := request base (.members service)
    let deletion := request base (.delete service)
    let run := (client base server).dispatch (.delete service) wait
    (deletion ∈ sent base run.calls ↔
      ∃ body members, Accepts server [] listing body ∧ (readOctets? body).bind members? = some members) ∧
    (∀ body document items,
      Accepts server [] listing body → readOctets? body = some document → memberItems? document = some items →
      (deletion ∈ sent base run.calls ↔ ∀ item ∈ items, Member.ofJson? item ≠ none) ∧
      ((∃ item ∈ items, volumeId? item = none) → deletion ∉ sent base run.calls)) ∧
    (deletion ∈ sent base run.calls →
      sent base run.calls = [listing, deletion] ∧
      ∃ body document items volumeIds, Accepts server [] listing body ∧ readOctets? body = some document ∧
        memberItems? document = some items ∧ items.map volumeId? = volumeIds.map some ∧
        (run.result = .ok (.deleted ⟨service, volumeIds⟩) ∨
          ∃ e, run.result = .error (.failed (.deleteFailed volumeIds e)))) := by
  intro listing deletion run
  refine ⟨?_, fun body document items haccepts hread hitems => ⟨?_, ?_⟩, fun hmem => ?_⟩
  · rw [delete_mem_sent_iff]
    simp only [client_eq_ok_iff]
    exact exists_comm.trans (exists_congr fun body => exists_congr fun members => Iff.rfl)
  · exact delete_mem_sent_iff_of_items haccepts hread hitems
  · rintro ⟨item, hitem, hnone⟩ hmem
    have hread := (delete_mem_sent_iff_of_items haccepts hread hitems).mp hmem item hitem
    obtain ⟨member, hmember⟩ := Option.ne_none_iff_exists'.mp hread
    rw [volumeId?_of_ofJson? hmember] at hnone
    cases hnone
  · obtain ⟨members, hlisted⟩ := delete_mem_sent_iff.mp hmem
    obtain ⟨body, document, items, haccepts, hread, hitems, hmembers⟩ := client_members_eq_ok_iff.mp hlisted
    exact ⟨sent_of_listed hlisted, body, document, items, members.map Member.volumeId, haccepts, hread, hitems,
      map_volumeId? hmembers, result_of_listed hlisted⟩

end Requests

end Http

end ServiceCatalog
