import ServiceCatalog.Http.Exchange
import ServiceCatalog.Text.Base64
import ServiceCatalog.Url.Percent
import ServiceCatalog.Version

/-!
# Headers of a request

Every request says who sends it and that its body is JSON. The account of the address goes into a header of its own.
-/

namespace ServiceCatalog.Http

/-- The sender of a request. -/
def userAgent : String := programName ++ "/" ++ version

/-- The type of every body. -/
def contentType : String := "application/json"

/-- The header for an account. -/
def basicAuthorization (user : String) (password : Option String) : String :=
  "Basic " ++ String.ofList (Text.Base64.encode (Text.Utf8.encode (user ++ ":" ++ password.getD "")))

/-- The header that says who is calling, if the address names an account. -/
def Request.authorization? (r : Request) : Option String :=
  r.url.account?.map fun account => basicAuthorization account.1 account.2

end ServiceCatalog.Http
