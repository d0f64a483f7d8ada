import ServiceCatalog.Text.Decimal
import ServiceCatalog.Text.Quoted

/-!
# Web addresses

A parsed address: its scheme, the account in front of the host, host and port, the segments of its path, query and
fragment. All parts are kept in the form they are written in, so that writing is only putting them together.
-/

namespace ServiceCatalog

open Text

/-- How the management service is spoken to. -/
inductive Url.Scheme where
  | http
  | https
deriving DecidableEq, Repr

namespace Url.Scheme

/-- The name of a scheme. -/
def name : Scheme → String
  | http => "http"
  | https => "https"

/-- The scheme with or without transport security. -/
def secured (secure : Bool) : Scheme := if secure then https else http

/-- The port that goes without saying. -/
def defaultPort : Scheme → Nat
  | http => 80
  | https => 443

end Url.Scheme

/-- The host of an address. -/
inductive Url.Host where
  | domain (name : String)
  | ipv4 (address : UInt32)
  | ipv6 (groups : List UInt16)
deriving DecidableEq, Repr

/-- A web address. -/
structure Url where
  scheme : Url.Scheme
  user : String
  password : Option String
  host : Url.Host
  port : Option UInt16
  path : List String
  query : Option String
  fragment : Option String
deriving DecidableEq, Repr

/-- Why a text is no web address. -/
inductive Url.Error where
  | emptyHost
  | invalidPort
  | invalidDomain
  | invalidIpv4
  | invalidIpv6
  | noScheme
deriving DecidableEq, Repr

/-- What the user is told about a text that is no web address. -/
def Url.Error.message : Url.Error → String
  | emptyHost => "empty host"
  | invalidPort => "invalid port number"
  | invalidDomain => "invalid international domain name"
  | invalidIpv4 => "invalid IPv4 address"
  | invalidIpv6 => "invalid IPv6 address"
  | noScheme => "relative URL without a base"

namespace Url

/-- The digits of a number. -/
def decimal (n : Nat) : String := String.ofList (digitsOf n)

/-- The four numbers of an IPv4 address. -/
def Host.ipv4Text (address : UInt32) : String :=
  let n := address.toNat
  ".".intercalate ([n / 16777216, n / 65536 % 256, n / 256 % 256, n % 256].map decimal)

/-- How many zeros a list of groups starts with. -/
def Host.leadingZeros (groups : List UInt16) : Nat := (groups.takeWhile (· == 0)).length

/-- Start and length of the first of the longest runs of zeros, if one has two zeros at least. -/
def Host.longestZeros (groups : List UInt16) : Option (Nat × Nat) :=
  (List.range groups.length).foldl (fun best i =>
    let n := leadingZeros (groups.drop i)
    if (best.map Prod.snd).getD 1 < n then some (i, n) else best) none

/-- Groups of an IPv6 address with colons between them. -/
def Host.groupsText (groups : List UInt16) : String :=
  ":".intercalate (groups.map fun g => String.ofList (hexDigits g.toNat))

/-- An IPv6 address: the first of its longest runs of zeros is left out. -/
def Host.ipv6Text (groups : List UInt16) : String :=
  match longestZeros groups with
  | none => groupsText groups
  | some (start, length) => groupsText (groups.take start) ++ "::" ++ groupsText (groups.drop (start + length))

/-- The written form of a host. -/
def Host.text : Host → String
  | .domain name => name
  | .ipv4 address => ipv4Text address
  | .ipv6 groups => "[" ++ ipv6Text groups ++ "]"

/-- The written form of user and password, with the sign that ends it. -/
def userInfoText (u : Url) : String :=
  let secret := match u.password with
    | some password => ":" ++ password
    | none => ""
  if u.user = "" ∧ u.password = none then "" else u.user ++ secret ++ "@"

/-- The written form of the port, if it is not the one of the scheme. -/
def portText (u : Url) : String :=
  match u.port with
  | some port => ":" ++ decimal port.toNat
  | none => ""

/-- The written form of the path. -/
def pathText (u : Url) : String := "/" ++ "/".intercalate u.path

/-- The written form of query and fragment. -/
def tailText (u : Url) : String :=
  (match u.query with
    | some query => "?" ++ query
    | none => "") ++
  (match u.fragment with
    | some fragment => "#" ++ fragment
    | none => "")

/-- The written form of an address. -/
def text (u : Url) : String :=
  u.scheme.name ++ "://" ++ u.userInfoText ++ u.host.text ++ u.portText ++ u.pathText ++ u.tailText

/-- The address that relative segments lead to: they take the place of the last segment, and query and fragment go. -/
def join (u : Url) (segments : List String) : Url :=
  { u with path := u.path.dropLast ++ segments, query := none, fragment := none }

end Url

end ServiceCatalog
