import ServiceCatalog.Json.Basic

/-!
# Attributes of a service

What the management service knows about a service is a JSON object of its own making, kept as it is. A few fields have
names of their own here.
-/

namespace ServiceCatalog.Service

/-- The attributes of a service, in the order of their keys. -/
structure Attributes where
  fields : List Json.Field
deriving Repr, BEq

namespace Attributes

/-- The attributes of a service nothing is known of. -/
def empty : Attributes := ⟨[]⟩

/-- The JSON form of attributes. -/
def toJson (a : Attributes) : Json := .object a.fields

/-- Reads attributes: any object, its keys put in order. -/
def ofJson? (value : Json) : Option Attributes :=
  match value.general? with
  | some (.object fields) => some ⟨fields⟩
  | _ => none

/-- An attribute that is a text. -/
def text? (a : Attributes) (key : String) : Option String := (Json.lookup? key a.fields).bind Json.text?

/-- The unique name the management service gave to the service. -/
def uuid? (a : Attributes) : Option String := a.text? "service_uuid"

/-- The name of the service. -/
def name? (a : Attributes) : Option String := a.text? "service_name"

/-- The status of the service. -/
def status? (a : Attributes) : Option String := a.text? "service_status"

end Attributes

end ServiceCatalog.Service
