import ServiceCatalog.Text.Base64
import ServiceCatalog.Text.Utf8

/-!
# Sections of armoured files

A section stands between a line that opens it and one that closes it, both with its label; text outside of sections
and sections with an unknown label are passed over. A file in which a section is not closed, or one of the sections
cannot be decoded, has no sections at all.
-/

namespace ServiceCatalog.Pem

open ServiceCatalog.Text

/-- What a section holds. -/
inductive Label where
  | certificate
  /-- A key with a description of its algorithm. -/
  | privateKey
  | rsaPrivateKey
  | ecPrivateKey
  | publicKey
  | revocationList
  | certificateRequest
  | clientHelloConfig
deriving DecidableEq, Repr

/-- The labels as they are written. -/
def Label.names : List (String × Label) :=
  [("CERTIFICATE", certificate), ("PRIVATE KEY", privateKey), ("RSA PRIVATE KEY", rsaPrivateKey),
    ("EC PRIVATE KEY", ecPrivateKey), ("PUBLIC KEY", publicKey), ("X509 CRL", revocationList),
    ("CERTIFICATE REQUEST", certificateRequest), ("ECHCONFIG", clientHelloConfig)]

/-- A decoded section. -/
structure Section where
  label : Label
  octets : List UInt8
deriving DecidableEq, Repr

/-- The lines of a file. Line feeds and carriage returns both end a line. -/
def lines : List UInt8 → List (List UInt8)
  | [] => []
  | o :: rest =>
    if o == 10 || o == 13 then [] :: lines rest
    else match lines rest with
      | [] => [[o]]
      | line :: more => (o :: line) :: more

/-- The start of a line that opens a section. -/
def opening : List UInt8 := Utf8.encode "-----BEGIN "

/-- The line that closes a section with a label. -/
def closing (label : List UInt8) : List UInt8 := Utf8.encode "-----END " ++ label ++ Utf8.encode "-----"

/-- How many dashes and how many characters in all the end of a line has up to its first other character. Blanks among
the dashes are passed over, and those in front of the first dash are not counted. -/
def trailer : (dashes taken : Nat) → (blanks : Nat) → List UInt8 → Nat × Nat
  | dashes, taken, _, [] => (dashes, taken)
  | dashes, taken, blanks, o :: rest =>
    if o == 45 then trailer (dashes + 1) (taken + blanks + 1) 0 rest
    else if o == 32 then trailer dashes taken (blanks + 1) rest
    else (dashes, taken)

/-- The label in a line that opens a section: `none` if the line opens none, and `some none` if it is broken. -/
def opened? (line : List UInt8) : Option (Option (List UInt8)) :=
  if opening.isPrefixOf line then
    let t := trailer 0 0 0 line.reverse
    some (if t.1 = 5 then some ((line.take (line.length - t.2)).drop opening.length) else none)
  else none

/-- The label a text is. -/
def label? (text : List UInt8) : Option Label := (Utf8.strict? text).bind fun name => Label.names.lookup name

/-- Reads lines, with the label of the section that is open and the text gathered so far. -/
def sectionsFrom? (label : Option (List UInt8)) (gathered : List UInt8) :
    List (List UInt8) → Option (List Section)
  | [] => if label.isSome then none else some []
  | line :: rest =>
    match opened? line, label with
    | some none, _ => none
    | some (some name), _ => sectionsFrom? (some name) gathered rest
    | none, none => sectionsFrom? none gathered rest
    | none, some name =>
      if (closing name).isPrefixOf line then
        match label? name with
        | none => sectionsFrom? none [] rest
        | some found => do
          let octets ← Text.Base64.decode? gathered
          let more ← sectionsFrom? none [] rest
          some (⟨found, octets⟩ :: more)
      else sectionsFrom? label (gathered ++ line) rest

/-- The sections of a file. -/
def sections? (file : List UInt8) : Option (List Section) := sectionsFrom? none [] (lines file)

end ServiceCatalog.Pem
