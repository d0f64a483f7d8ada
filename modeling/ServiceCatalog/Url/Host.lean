import ServiceCatalog.Url.Basic
import ServiceCatalog.Url.Percent

/-!
# Reading a host

A host in brackets is an IPv6 address. Any other is percent-decoded and put in lower case; if its last label is a number
it is an IPv4 address, which may have fewer than four numbers and numbers in base eight or sixteen, and otherwise it is
a domain. Domains are ASCII.
-/

namespace ServiceCatalog.Url.Host

open ServiceCatalog.Text

/-- Characters that no domain holds. -/
def isForbidden (c : Char) : Bool :=
  c.toNat ≤ 0x20 || 0x7F ≤ c.toNat || ['%', '#', '/', ':', '<', '>', '?', '@', '[', '\\', ']', '^', '|'].contains c

/-- The domain that a host stands for. -/
def domain? (cs : List Char) : Option (List Char) :=
  (Utf8.strict? (Percent.decode cs)).bind fun s =>
    let lowered := s.toList.map Char.toLower
    if lowered.any isForbidden then none else some lowered

/-- A number of an IPv4 address. -/
inductive Ipv4Number where
  | value (n : Nat)
  | tooLarge
  | notNumeric
deriving DecidableEq

/-- Reads digits in a base. No digits at all are zero, which is what the marks of a base alone say. -/
def ipv4Digits (base : Nat) (cs : List Char) : Ipv4Number :=
  if cs.isEmpty then .value 0
  else match naturalIn? base cs with
    | some n => if n < Nat.pow 2 32 then .value n else .tooLarge
    | none => .notNumeric

/-- Reads a number of an IPv4 address: in base sixteen after `0x`, in base eight after another `0`. -/
def ipv4Number : List Char → Ipv4Number
  | [] => .notNumeric
  | ['0'] => .value 0
  | '0' :: 'x' :: rest => ipv4Digits 16 rest
  | '0' :: 'X' :: rest => ipv4Digits 16 rest
  | '0' :: rest => ipv4Digits 8 rest
  | cs => ipv4Digits 10 cs

/-- Cuts a text at every occurrence of a character. -/
def cutAt (separator : Char) : List Char → List (List Char)
  | [] => [[]]
  | c :: rest =>
    if c = separator then [] :: cutAt separator rest
    else match cutAt separator rest with
      | first :: more => (c :: first) :: more
      | [] => [[c]]

/-- The labels of a domain, without the empty one that a final dot leaves. -/
def labels (domain : List Char) : List (List Char) :=
  let parts := cutAt '.' domain
  if 1 < parts.length ∧ parts.getLast? = some [] then parts.dropLast else parts

/-- Whether the last label of a domain is a number. -/
def endsInNumber (domain : List Char) : Bool :=
  match (labels domain).getLast? with
  | none => false
  | some last => (!last.isEmpty && last.all Char.isDigit) || ipv4Number last != .notNumeric

/-- Puts the numbers of an IPv4 address together: the last one fills the octets that the others leave. -/
def ipv4OfNumbers? (numbers : List Nat) : Option UInt32 :=
  match numbers.getLast? with
  | none => none
  | some last =>
    let front := numbers.dropLast
    if 3 < front.length ∨ front.any (255 < ·) ∨ Nat.pow 256 (4 - front.length) ≤ last then none
    else
      let high := front.foldl (fun acc n => acc * 256 + n) 0
      some (high * Nat.pow 256 (4 - front.length) + last).toUInt32

/-- Reads an IPv4 address. -/
def ipv4? (domain : List Char) : Option UInt32 :=
  ((labels domain).mapM fun part => match ipv4Number part with
    | .value n => some n
    | _ => none).bind ipv4OfNumbers?

/-- A decimal number up to 255 without needless zeros. -/
def octet? (cs : List Char) : Option Nat :=
  match cs with
  | '0' :: _ :: _ => none
  | _ => (natural? cs).filter (· ≤ 255)

/-- The two groups that a dotted IPv4 address at the end of an IPv6 address stands for. -/
def dottedGroups? (cs : List Char) : Option (List UInt16) := do
  match ← (cutAt '.' cs).mapM octet? with
  | [a, b, c, d] => some [(a * 256 + b).toUInt16, (c * 256 + d).toUInt16]
  | _ => none

/-- One group of an IPv6 address. -/
def group? (cs : List Char) : Option UInt16 := if cs.length ≤ 4 then (naturalIn? 16 cs).map Nat.toUInt16 else none

/-- Groups with colons between them, of which the last may be a dotted IPv4 address if `dotted` says so. -/
def groups? (dotted : Bool) (cs : List Char) : Option (List UInt16) :=
  if cs.isEmpty then some []
  else
    let parts := cutAt ':' cs
    match parts.getLast? with
    | none => some []
    | some last =>
      if dotted && last.contains '.' then do
        some ((← parts.dropLast.mapM group?) ++ (← dottedGroups? last))
      else parts.mapM group?

/-- Cuts a text at the first two colons in a row. -/
def cutAtGap : List Char → Option (List Char × List Char)
  | ':' :: ':' :: rest => some ([], rest)
  | c :: rest => (cutAtGap rest).map fun r => (c :: r.1, r.2)
  | [] => none

/-- Reads an IPv6 address. Two colons in a row stand for at least one group of zeros. -/
def ipv6? (cs : List Char) : Option (List UInt16) :=
  match cutAtGap cs with
  | none => (groups? true cs).filter (·.length == 8)
  | some (front, back) => do
    let front ← groups? false front
    let back ← groups? true back
    if front.length + back.length ≤ 7 then
      some (front ++ List.replicate (8 - front.length - back.length) 0 ++ back)
    else none

/-- Reads a host. -/
def read (cs : List Char) : Except Url.Error Host :=
  match cs with
  | [] => .error .emptyHost
  | '[' :: rest =>
    if rest.getLast? = some ']' then
      match ipv6? rest.dropLast with
      | some groups => .ok (.ipv6 groups)
      | none => .error .invalidIpv6
    else .error .invalidIpv6
  | _ =>
    match domain? cs with
    | none => .error .invalidDomain
    | some [] => .error .emptyHost
    | some name =>
      if endsInNumber name then
        match ipv4? name with
        | some address => .ok (.ipv4 address)
        | none => .error .invalidIpv4
      else .ok (.domain (String.ofList name))

end ServiceCatalog.Url.Host
