import ServiceCatalog.Pem.Der
import ServiceCatalog.Pem.Section

/-!
# Certificates and keys

What has to hold of the files that secure a connection. An authority file may hold any number of certificates and other
sections. An identity is a file with certificates and keys, of which the last key and the certificates count; the key
has to be of a known form, and the first certificate has to name its public part.
-/

namespace ServiceCatalog.Pem

open Der

/-- A certificate as far as it is looked at: the bits of the public key in it. -/
structure Certificate where
  publicKey : List UInt8
deriving DecidableEq, Repr

/-- The values of a certificate after its version, which may be left out. -/
def withoutVersion : List Der → List Der
  | version :: rest => if version.tag = 0xA0 then rest else version :: rest
  | [] => []

/-- Reads a certificate: number, algorithm, issuer, validity, subject and public key, signed. -/
def certificate? (octets : List UInt8) : Option Certificate := do
  match ← sequence? octets with
  | [body, algorithm, signature] =>
    if algorithm.tag ≠ sequenceTag ∨ signature.tag ≠ bitsTag then none
    match withoutVersion (← body.inside? sequenceTag) with
    | number :: signedWith :: issuer :: validity :: subject :: key :: _ =>
      if number.tag ≠ integerTag ∨ signedWith ≠ algorithm ∨ issuer.tag ≠ sequenceTag ∨ validity.tag ≠ sequenceTag ∨
          subject.tag ≠ sequenceTag then none
      match ← key.inside? sequenceTag with
      | [keyAlgorithm, bits] =>
        if keyAlgorithm.tag ≠ sequenceTag ∨ bits.tag ≠ bitsTag then none
        some ⟨bits.content⟩
      | _ => none
    | _ => none
  | _ => none

/-- A private key as far as it is looked at: the bits of its public part, where they are written down. -/
structure PrivateKey where
  publicKey : Option (List UInt8)
deriving DecidableEq, Repr

/-- Reads a key of elliptic curves: version, secret, and in brackets the curve and the public part. -/
def ecKey? (octets : List UInt8) : Option PrivateKey := do
  match ← sequence? octets with
  | version :: secret :: rest =>
    if version ≠ ⟨integerTag, [1]⟩ ∨ secret.tag ≠ octetsTag then none
    match rest.find? fun v => v.tag = 0xA1 with
    | none => some ⟨none⟩
    | some bracketed =>
      let bits ← only? bracketed.content
      if bits.tag ≠ bitsTag then none
      some ⟨some bits.content⟩
  | _ => none

/-- Reads a key of two primes: version and eight numbers. -/
def rsaKey? (octets : List UInt8) : Option PrivateKey := do
  let values ← sequence? octets
  if values.length = 9 ∧ values.all fun v => v.tag = integerTag then some ⟨none⟩ else none

/-- The name of the algorithm with two primes. -/
def rsaName : List UInt8 := [0x2A, 0x86, 0x48, 0x86, 0xF7, 0x0D, 0x01, 0x01, 0x01]

/-- The name of the algorithm with elliptic curves. -/
def ecName : List UInt8 := [0x2A, 0x86, 0x48, 0xCE, 0x3D, 0x02, 0x01]

/-- The name of the algorithm with a curve of Edwards. -/
def edwardsName : List UInt8 := [0x2B, 0x65, 0x70]

/-- Reads a key that comes with the name of its algorithm. -/
def namedKey? (octets : List UInt8) : Option PrivateKey := do
  match ← sequence? octets with
  | version :: algorithm :: key :: _ =>
    if version.tag ≠ integerTag ∨ key.tag ≠ octetsTag then none
    match ← algorithm.inside? sequenceTag with
    | name :: _ =>
      if name = ⟨identifierTag, ecName⟩ then ecKey? key.content
      else if name = ⟨identifierTag, rsaName⟩ then rsaKey? key.content
      else if name = ⟨identifierTag, edwardsName⟩ then
        (only? key.content).bind fun v => if v.tag = octetsTag ∧ v.content.length = 32 then some ⟨none⟩ else none
      else none
    | _ => none
  | _ => none

/-- Reads the key of a section. -/
def Section.key? (s : Section) : Option PrivateKey :=
  match s.label with
  | .privateKey => namedKey? s.octets
  | .rsaPrivateKey => rsaKey? s.octets
  | .ecPrivateKey => ecKey? s.octets
  | _ => none

/-- Whether a section holds a key. -/
def Label.isKey : Label → Bool
  | privateKey => true
  | rsaPrivateKey => true
  | ecPrivateKey => true
  | _ => false

/-- Whether a file can be used as that of an authority: all certificates in it can be read. -/
def isAuthority (file : List UInt8) : Bool :=
  match sections? file with
  | none => false
  | some found => found.all fun s => s.label ≠ .certificate || (certificate? s.octets).isSome

/-- Certificates, and the key that belongs to the first of them, neither of them read. -/
structure Identity where
  first : Section
  key : Section
deriving DecidableEq, Repr

/-- The identity in a file, which holds nothing but certificates and keys and at least one of each. -/
def identity? (file : List UInt8) : Option Identity := do
  let found ← sections? file
  if found.any fun s => !s.label.isKey && s.label != .certificate then none
  let first ← found.find? fun s => s.label = .certificate
  let key ← found.reverse.find? fun s => s.label.isKey
  some ⟨first, key⟩

/-- Whether key and certificate of an identity can be read and belong together. -/
def Identity.isUsable (i : Identity) : Bool :=
  match certificate? i.first.octets, i.key.key? with
  | some certificate, some key => (key.publicKey.map (· == certificate.publicKey)).getD true
  | _, _ => false

end ServiceCatalog.Pem
