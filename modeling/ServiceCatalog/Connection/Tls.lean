import ServiceCatalog.Connection.Fault
import ServiceCatalog.Environment
import ServiceCatalog.Text.Blank
import ServiceCatalog.Text.Expansion

/-!
# Transport security

The files that secure the connection are given all three or not at all. Without the switch that turns transport security
on they are passed over.
-/

namespace ServiceCatalog.Connection

open Text

/-- What is asked of transport security. -/
structure TlsOptions where
  enabled : Bool := false
  ca : Option String := none
  cert : Option String := none
  key : Option String := none
deriving DecidableEq

/-- The files that secure a connection. -/
structure TlsFiles where
  ca : String
  cert : String
  key : String
deriving DecidableEq, Repr

/-- The path that a given one stands for. -/
def expand (env : Environment) (path : String) : Except Fault String :=
  match Expansion.expandPath env.get? env.home? path with
  | .ok expanded => .ok expanded
  | .error name => .error (.unknownVariable path name)

/-- The files for a connection, or none if it is not to be secured. -/
def TlsOptions.resolve (options : TlsOptions) (env : Environment) : Except Fault (Option TlsFiles) :=
  match given? options.ca, given? options.cert, given? options.key with
  | some ca, some cert, some key =>
    if options.enabled then do
      pure (some ⟨← expand env ca, ← expand env cert, ← expand env key⟩)
    else .ok none
  | none, none, none => if options.enabled then .error (.incompleteTls true none none none) else .ok none
  | ca, cert, key => .error (.incompleteTls options.enabled ca cert key)

end ServiceCatalog.Connection
