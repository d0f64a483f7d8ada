import ServiceCatalog.Json.Reader
import ServiceCatalog.Json.Record
import ServiceCatalog.RemoteError
import ServiceCatalog.Service.Attributes
import ServiceCatalog.Service.ConfigFile
import ServiceCatalog.Service.Member
import ServiceCatalog.Text.Blank

/-!
# Answers of the management service

A status from 200 to 299 means success; any other is an error, of a kind that the status tells and with a message that
the body tells.
-/

namespace ServiceCatalog.Http

open Json Service

/-- Whether a status means success. -/
def isSuccess (status : Nat) : Bool := 200 ≤ status && status < 300

/-- The kind of error that a status means. -/
def kindOfStatus (status : Nat) : RemoteError.Kind :=
  if status = 401 ∨ status = 403 then .auth
  else if status = 404 then .notFound
  else if status = 400 ∨ status = 409 ∨ status = 412 ∨ status = 422 then .validation
  else .network

/-- The text that an error body in JSON gives: that of the field `error`, or of `message` where there is no such field. -/
def errorText? (body : List UInt8) : Option String := do
  let value ← (readOctets? body).bind general?
  let field ← (value.get? "error").or (value.get? "message")
  field.text?

/-- The text that an error body gives: that of a field, or all of it. -/
def errorText (body : List UInt8) : String :=
  (errorText? body).getD (Text.trim (Text.Utf8.lenient body))

/-- The error that an answer without success means. -/
def statusError (status : Nat) (body : List UInt8) : RemoteError :=
  ⟨kindOfStatus status, s!"HTTP {status}: " ++ errorText body⟩

/-- Reads the answer to a check. -/
def initialized? (value : Json) : Option Bool := do
  match ← record? ["initialized"] value with
  | [initialized] => required? bool? initialized
  | _ => none

/-- Reads the answer to a list request. -/
def services? (value : Json) : Option (List Attributes) := do
  match ← record? ["services"] value with
  | [services] => withDefault? [] (list? Attributes.ofJson?) services
  | _ => none

/-- Reads the answer to a request for members. -/
def members? (value : Json) : Option (List Member) := do
  match ← record? ["members"] value with
  | [members] => withDefault? [] (list? Member.ofJson?) members
  | _ => none

end ServiceCatalog.Http
