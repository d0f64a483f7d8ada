import ServiceCatalog.Connection.Settings
import ServiceCatalog.Pem.Material

/-!
# The files of a secured connection

The three files are read one after another. Certificate and key make one identity, and only when all is read is it put
to use.
-/

namespace ServiceCatalog.Connection

/-- Reads one of the files. -/
def readFile (files : Files) (file : TlsFile) (path : String) : Except Fault (List UInt8) :=
  (files.read path).mapError (.unreadable file path)

/-- Fails with the first reason why the files cannot secure a connection. -/
def TlsFiles.check (paths : TlsFiles) (files : Files) : Except Fault Unit := do
  let ca ← readFile files .ca paths.ca
  let cert ← readFile files .cert paths.cert
  let key ← readFile files .key paths.key
  match Pem.identity? (cert ++ 10 :: key) with
  | none => throw .badIdentity
  | some identity => if Pem.isAuthority ca && identity.isUsable then pure () else throw .noClient

/-- Fails with the first reason why a connection with these settings cannot be used. -/
def Settings.check (settings : Settings) (files : Files) : Except Fault Unit :=
  match settings.tls with
  | none => .ok ()
  | some paths => paths.check files

end ServiceCatalog.Connection
