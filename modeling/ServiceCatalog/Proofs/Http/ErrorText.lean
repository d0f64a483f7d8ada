import ServiceCatalog.Proofs.Http.Answers
import ServiceCatalog.Proofs.Json.Extent
import ServiceCatalog.Proofs.Json.Reader
import ServiceCatalog.Proofs.Json.Record

/-!
# The text of a server's error

The body of an error is meant to be shown by its field `error` if that is a text, else by its field `message` if that is
one, else as a whole. The field `message` is passed over, though, if there is any `error` at all: one that is not a text
masks it, and then the whole body is shown.
-/

namespace ServiceCatalog.Http

open Json Text

/-- A body is an object in JSON, readable throughout, that has a value for a key, which is that of the last field with
the key. -/
def HasField (body : List UInt8) (key : String) (value : Json) : Prop :=
  ∃ fields, readOctets? body = some (.object fields) ∧ (Json.object fields).readable = true ∧
    lookup? key fields = some value

/-- The text that the server gives for an error: that of the field `error`, else that of the field `message`, else the
whole body, read leniently and trimmed. -/
inductive ServerText (body : List UInt8) : String → Prop
  | error {text : String} : HasField body "error" (.string text) → ServerText body text
  | message {text : String} : (∀ other, ¬ HasField body "error" (.string other)) →
      HasField body "message" (.string text) → ServerText body text
  | whole : (∀ other, ¬ HasField body "error" (.string other)) →
      (∀ other, ¬ HasField body "message" (.string other)) → ServerText body (trim (Utf8.lenient body))

/-- A field `error` that is not a text stands beside a field `message` that is one. -/
def Masked (body : List UInt8) : Prop :=
  (∃ value, HasField body "error" value ∧ ∀ text, value ≠ .string text) ∧
    ∃ text, HasField body "message" (.string text)

theorem HasField.unique {body : List UInt8} {key : String} {value other : Json} (h : HasField body key value)
    (hother : HasField body key other) : value = other := by
  obtain ⟨fields, hread, -, hvalue⟩ := h
  obtain ⟨_, hread', -, hvalue'⟩ := hother
  cases hread.symm.trans hread'
  exact Option.some.inj (hvalue.symm.trans hvalue')

/-- The server gives one text for an error and no other. -/
theorem existsUnique_serverText (body : List UInt8) : ∃! text, ServerText body text := by
  by_cases herror : ∃ text, HasField body "error" (.string text)
  · obtain ⟨text, herror⟩ := herror
    refine ⟨text, .error herror, fun other hother => ?_⟩
    cases hother with
    | error h => exact Json.string.inj (h.unique herror)
    | message hnone _ => exact absurd herror (hnone text)
    | whole hnone _ => exact absurd herror (hnone text)
  rw [not_exists] at herror
  by_cases hmessage : ∃ text, HasField body "message" (.string text)
  · obtain ⟨text, hmessage⟩ := hmessage
    refine ⟨text, .message herror hmessage, fun other hother => ?_⟩
    cases hother with
    | error h => exact absurd h (herror other)
    | message _ h => exact Json.string.inj (h.unique hmessage)
    | whole _ hnone => exact absurd hmessage (hnone text)
  rw [not_exists] at hmessage
  refine ⟨_, .whole herror hmessage, fun other hother => ?_⟩
  cases hother with
  | error h => exact absurd h (herror other)
  | message _ h => exact absurd h (hmessage other)
  | whole _ _ => rfl

theorem errorText?_of_object {body : List UInt8} {fields : List Field}
    (hread : readOctets? body = some (.object fields)) (hreadable : (Json.object fields).readable = true) :
    errorText? body = ((lookup? "error" fields).or (lookup? "message" fields)).bind text? := by
  have hgeneral : (readOctets? body).bind general? = some (sorted (.object fields)) := by
    rw [hread, Option.bind_some, general?, if_pos hreadable]
  simp only [errorText?, hgeneral, Option.bind_eq_bind, Option.bind_some, get?_sorted]
  cases lookup? "error" fields with
  | some value => exact text?_sorted value
  | none =>
    cases lookup? "message" fields with
    | some value => exact text?_sorted value
    | none => rfl

theorem exists_fields_of_errorText? {body : List UInt8} {text : String} (h : errorText? body = some text) :
    ∃ fields, readOctets? body = some (.object fields) ∧ (Json.object fields).readable = true := by
  simp only [errorText?, Option.bind_eq_bind, Option.bind_eq_some_iff] at h
  obtain ⟨value, ⟨raw, hraw, hgeneral⟩, field, hfield, -⟩ := h
  unfold general? at hgeneral
  split at hgeneral
  · rename_i hreadable
    cases hgeneral
    cases raw with
    | object fields => exact ⟨fields, hraw, hreadable⟩
    | _ => cases hfield
  · cases hgeneral

/-- The text of `message` is taken only if there is no `error`, whatever an `error` may be. -/
theorem errorText?_eq_some_iff {body : List UInt8} {text : String} :
    errorText? body = some text ↔ HasField body "error" (.string text) ∨
      (∀ value, ¬ HasField body "error" value) ∧ HasField body "message" (.string text) := by
  constructor
  · intro h
    obtain ⟨fields, hread, hreadable⟩ := exists_fields_of_errorText? h
    rw [errorText?_of_object hread hreadable] at h
    cases herror : lookup? "error" fields with
    | some value =>
      rw [herror, Option.some_or, Option.bind_some, text?_eq_some_iff] at h
      exact .inl ⟨fields, hread, hreadable, h ▸ herror⟩
    | none =>
      rw [herror, Option.none_or, Option.bind_eq_some_iff] at h
      obtain ⟨value, hmessage, htext⟩ := h
      rw [text?_eq_some_iff] at htext
      refine .inr ⟨?_, fields, hread, hreadable, htext ▸ hmessage⟩
      rintro value ⟨_, hread', -, hvalue⟩
      cases hread.symm.trans hread'
      cases herror.symm.trans hvalue
  · rintro (⟨fields, hread, hreadable, herror⟩ | ⟨hnone, fields, hread, hreadable, hmessage⟩)
    · rw [errorText?_of_object hread hreadable, herror]
      rfl
    · cases herror : lookup? "error" fields with
      | some value => exact absurd ⟨fields, hread, hreadable, herror⟩ (hnone value)
      | none =>
        rw [errorText?_of_object hread hreadable, herror, hmessage]
        rfl

theorem errorText_of_serverText {body : List UInt8} {text : String} (h : ServerText body text)
    (hmasked : ¬ Masked body) : errorText body = text := by
  cases h with
  | error herror => rw [errorText, errorText?_eq_some_iff.mpr (.inl herror), Option.getD_some]
  | message hnone hmessage =>
    have habsent (value : Json) : ¬ HasField body "error" value := fun hvalue =>
      hmasked ⟨⟨value, hvalue, fun other hother => hnone other (hother ▸ hvalue)⟩, text, hmessage⟩
    rw [errorText, errorText?_eq_some_iff.mpr (.inr ⟨habsent, hmessage⟩), Option.getD_some]
  | whole herror hmessage =>
    have hnone : errorText? body = none := by
      rw [Option.eq_none_iff_forall_ne_some]
      intro text htext
      obtain h | ⟨-, h⟩ := errorText?_eq_some_iff.mp htext
      · exact herror text h
      · exact hmessage text h
    rw [errorText, hnone, Option.getD_none]

theorem errorText_of_masked {body : List UInt8} (h : Masked body) : errorText body = trim (Utf8.lenient body) := by
  obtain ⟨⟨value, herror, hvalue⟩, -⟩ := h
  have hnone : errorText? body = none := by
    rw [Option.eq_none_iff_forall_ne_some]
    intro text htext
    obtain h | ⟨habsent, -⟩ := errorText?_eq_some_iff.mp htext
    · exact hvalue text (herror.unique h)
    · exact habsent value herror
  rw [errorText, hnone, Option.getD_none]

/-- The whole body is never the text of a field: it has the quotes of that text besides. -/
theorem HasField.ne_trim {body : List UInt8} {key text : String} (h : HasField body key (.string text)) :
    text ≠ trim (Utf8.lenient body) := by
  obtain ⟨fields, hread, -, hvalue⟩ := h
  obtain ⟨source, hsource, hread⟩ := Option.bind_eq_some_iff.mp hread
  rw [Utf8.lenient_of_strict? hsource]
  exact ne_trim_of_field hread (mem_of_lookup? hvalue)

/-- A masked body is not shown as the server's text. -/
theorem errorText_eq_iff {body : List UInt8} {text : String} (h : ServerText body text) :
    errorText body = text ↔ ¬ Masked body := by
  refine ⟨fun htext hmasked => ?_, errorText_of_serverText h⟩
  obtain ⟨other, hmessage⟩ := hmasked.2
  have hother : ServerText body other := by
    refine .message (fun text herror => ?_) hmessage
    obtain ⟨⟨value, hvalue, hnot⟩, -⟩ := hmasked
    exact hnot text (hvalue.unique herror)
  rw [errorText_of_masked hmasked, (existsUnique_serverText body).unique h hother] at htext
  exact hmessage.ne_trim htext.symm

/-- Whatever is called: if the status of the answer does not mean success, the call fails with an error whose message
names the status and has a text behind it. The text is the one that the server gives exactly if it is not masked. If it
is, the text is the whole body. -/
theorem client_message_iff {base : Url} {server : Server} {earlier : List Call} {call : Call} {status : Nat}
    {body : List UInt8} (hsendable : (request base call).isSendable = true)
    (hreply : server (sent base earlier) (request base call) = .complete status body)
    (hstatus : ¬ (200 ≤ status ∧ status < 300)) :
    ∃ text, ServerText body text ∧ (∀ other, ServerText body other → other = text) ∧
      (client base server earlier call = .error ⟨kindOfStatus status, s!"HTTP {status}: " ++ text⟩ ↔ ¬ Masked body) ∧
      (Masked body → client base server earlier call =
        .error ⟨kindOfStatus status, s!"HTTP {status}: " ++ trim (Utf8.lenient body)⟩) := by
  have hclient : client base server earlier call = .error (statusError status body) := by
    rw [client_of_sendable hsendable, hreply, received_complete, if_neg hstatus]
    rfl
  obtain ⟨text, htext, hunique⟩ := existsUnique_serverText body
  refine ⟨text, htext, hunique, ?_, fun hmasked => ?_⟩
  · rw [hclient, ← errorText_eq_iff htext]
    simp [statusError, String.append_right_inj]
  · rw [hclient, statusError, errorText_of_masked hmasked]

/-- A message of the server is not shown beside an `error` that is a truth value. -/
theorem not_shown_of_masked_message :
    ∃ settings, Connection.Settings.resolve (some "manage.example") "c" none (.ofSeconds 20) = .ok settings ∧
      let text := "\x7b\"error\":true,\"message\":\"quota exceeded\"\x7d"
      let server : Server := fun _ _ => .complete 500 (Utf8.encode text)
      ServerText (Utf8.encode text) "quota exceeded" ∧
      client settings.server server [] (.list ⟨"r", "c", ""⟩) = .error ⟨.network, "HTTP 500: " ++ text⟩ ∧
      client settings.server server [] (.list ⟨"r", "c", ""⟩) ≠ .error ⟨.network, "HTTP 500: quota exceeded"⟩ := by
  have hsettings : (Connection.Settings.resolve (some "manage.example") "c" none (.ofSeconds 20)).map
      (fun settings => (request settings.server (.list ⟨"r", "c", ""⟩)).isSendable) = .ok true := by
    decide
  obtain ⟨settings, hsettings, hsendable⟩ := map_eq_ok_iff.mp hsettings
  refine ⟨settings, hsettings, ?_⟩
  intro text server
  let fields : List Field := [("error", .bool true), ("message", .string "quota exceeded")]
  have hread : readOctets? (Utf8.encode text) = some (.object fields) := by
    have hwritten : text = (Json.object fields).compact := by decide
    rw [readOctets?_encode, hwritten, read?_compact (by simp [fields, exact, exactFields]) (by decide)]
  have hmasked : Masked (Utf8.encode text) :=
    ⟨⟨.bool true, ⟨fields, hread, rfl, rfl⟩, fun _ => Json.noConfusion⟩, "quota exceeded", fields, hread, rfl, rfl⟩
  have hgiven : ServerText (Utf8.encode text) "quota exceeded" := by
    refine .message (fun other herror => ?_) ⟨fields, hread, rfl, rfl⟩
    cases herror.unique ⟨fields, hread, rfl, rfl⟩
  have hreply : server (sent settings.server []) (request settings.server (.list ⟨"r", "c", ""⟩)) =
      .complete 500 (Utf8.encode text) := rfl
  obtain ⟨shown, -, hunique, hiff, hwhole⟩ := client_message_iff hsendable hreply (by decide)
  obtain rfl := hunique _ hgiven
  have hsource : "HTTP 500: " ++ text = s!"HTTP {500}: " ++ trim (Utf8.lenient (Utf8.encode text)) := by decide
  have hshown : "HTTP 500: quota exceeded" = s!"HTTP {500}: " ++ "quota exceeded" := by decide
  refine ⟨hgiven, ?_, ?_⟩
  · rw [hsource]
    exact hwhole hmasked
  · rw [hshown]
    exact fun heq => hiff.mp heq hmasked

end ServiceCatalog.Http
