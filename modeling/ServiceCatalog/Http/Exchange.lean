import ServiceCatalog.Url.Account

/-!
# Exchanges with a server

A request is one attempt to post a text to an address. A server is known by how it replies to a request after earlier
ones.
-/

namespace ServiceCatalog.Http

/-- A request to post a text. -/
structure Request where
  url : Url
  body : String
deriving DecidableEq

/-- How a server replies. -/
inductive Reply where
  /-- No connection, or one that ends before an answer. -/
  | noAnswer
  /-- No answer while the request may wait for one. -/
  | stalled
  /-- An answer that ends before it is complete. -/
  | cutShort
  /-- A complete answer. -/
  | complete (status : Nat) (body : List UInt8)
deriving DecidableEq

/-- A server: its reply to a request after earlier requests. -/
abbrev Server := (earlier : List Request) → (request : Request) → Reply

/-- A server that nobody can reach. -/
def unreachable : Server := fun _ _ => .noAnswer

/-- Characters that an address may have in a URL but not in a request. -/
def isUnsendable (c : Char) : Bool := c = '"' || c = '\x60' || c = '\x7b' || c = '\x7d'

/-- The greatest number of octets in the address of a request. -/
def greatestLength : Nat := 65534

/-- Whether a request can be put together. -/
def Request.isSendable (r : Request) : Bool :=
  !r.url.host.text.toList.any isUnsendable && r.url.anonymous.text.utf8ByteSize ≤ greatestLength

end ServiceCatalog.Http
