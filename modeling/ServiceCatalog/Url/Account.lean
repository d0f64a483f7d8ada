import ServiceCatalog.Url.Basic
import ServiceCatalog.Url.Percent

/-!
# Accounts in addresses

User and password of an address are an account when their octets are texts. An account is not shown and not sent as a
part of the address; a user that is no text stays where it is.
-/

namespace ServiceCatalog.Url

open ServiceCatalog.Text

/-- The text that a part of an address stands for, if its octets are one. -/
def partText? (part : String) : Option String := Utf8.strict? (Percent.decode part.toList)

/-- User and password of an address, if there is one of them. -/
def account? (u : Url) : Option (String × Option String) := do
  let user ← partText? u.user
  let password := u.password.bind partText?
  if user = "" ∧ password = none then none else some (user, password)

/-- The address without its account. -/
def anonymous (u : Url) : Url :=
  match u.account? with
  | some _ => { u with user := "", password := none }
  | none => u

end ServiceCatalog.Url
