import ServiceCatalog.Text.Blank
import ServiceCatalog.Url.Parser

/-!
# The address of the management service

An address may be given with or without a scheme; the scheme that counts is the one the transport security calls for.
A slash at the end is added so that the paths of the calls lie underneath. Without an address the service is looked for
in the domain of the cluster.
-/

namespace ServiceCatalog.Endpoint

open Text

/-- The port the management service listens on. -/
def managementPort : String := "27040"

/-- What follows a scheme written in any letter case, if a text starts with it. -/
def afterScheme? (scheme : Url.Scheme) (cs : List Char) : Option (List Char) :=
  let opening := scheme.name.toList ++ "://".toList
  if (cs.take opening.length).map Char.toLower = opening then some (cs.drop opening.length) else none

/-- An address without its scheme, if it has one. -/
def withoutScheme (cs : List Char) : List Char :=
  match afterScheme? .https cs with
  | some rest => rest
  | none => (afterScheme? .http cs).getD cs

/-- An address with a slash at its end. -/
def withSlash (cs : List Char) : List Char := if cs.getLast? = some '/' then cs else cs ++ ['/']

/-- The text of a given address with a scheme in place of its own. -/
def ofGiven (raw : String) (scheme : Url.Scheme) : String :=
  String.ofList (withSlash (scheme.name.toList ++ "://".toList ++ withoutScheme (trimChars raw.toList)))

/-- The text of the address of a cluster's own management service. -/
def ofCluster (cluster : String) (scheme : Url.Scheme) : String :=
  scheme.name ++ "://catalog-manageserver." ++ cluster ++ "-catalog.local:" ++ managementPort ++ "/"

/-- The text of the address that is used: the given one, or that of the cluster if it is blank. -/
def text (given : Option String) (cluster : String) (scheme : Url.Scheme) : String :=
  match given? given with
  | some raw => ofGiven raw scheme
  | none => ofCluster cluster scheme

end ServiceCatalog.Endpoint
