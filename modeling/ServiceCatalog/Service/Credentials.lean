import ServiceCatalog.Json.Record
import ServiceCatalog.Text.Quoted

/-!
# Credentials

A user and a password. The form for people to read never shows the password.
-/

namespace ServiceCatalog.Service

open Json

/-- A user and a password. -/
structure Credentials where
  user : String
  password : String
deriving DecidableEq

namespace Credentials

/-- Credentials with the password masked. -/
def masked (c : Credentials) : String :=
  "Credentials \x7b user: " ++ Text.quoted c.user ++ ", password: " ++ Text.quoted "***" ++ " \x7d"

/-- The JSON form of credentials. -/
def toJson (c : Credentials) : Json := .object [("user", .string c.user), ("password", .string c.password)]

/-- Reads credentials. -/
def ofJson? (value : Json) : Option Credentials := do
  match ← record? ["user", "password"] value with
  | [user, password] => some ⟨← required? text? user, ← required? text? password⟩
  | _ => none

end Credentials

end ServiceCatalog.Service
