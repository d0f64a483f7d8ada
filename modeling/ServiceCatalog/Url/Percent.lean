import ServiceCatalog.Text.Decimal
import ServiceCatalog.Text.Utf8

/-!
# Percent encoding

Characters that a part of a URL cannot hold are written as their octets, each as a percent sign and two capital digits
of base sixteen. Every part has its own set of such characters; all contain the controls and what is not ASCII.
-/

namespace ServiceCatalog.Url.Percent

open ServiceCatalog.Text

/-- A set of characters that a part of a URL cannot hold. -/
abbrev EncodeSet := Char → Bool

/-- The controls and everything that is not ASCII. -/
def controls : EncodeSet := fun c => c.toNat < 0x20 || 0x7E < c.toNat

/-- The controls and some more characters. -/
def controlsAnd (more : List Char) : EncodeSet := fun c => controls c || more.contains c

/-- What a fragment cannot hold. -/
def fragment : EncodeSet := controlsAnd [' ', '"', '<', '>', '\x60']

/-- What the query of a web address cannot hold. -/
def query : EncodeSet := controlsAnd [' ', '"', '#', '<', '>', '\'']

/-- What a segment of a path cannot hold. -/
def path : EncodeSet := controlsAnd [' ', '"', '#', '<', '>', '?', '\x60', '\x7b', '\x7d']

/-- What a user or a password cannot hold. -/
def userInfo : EncodeSet := fun c =>
  path c || ['/', ':', ';', '=', '@', '[', '\\', ']', '^', '|'].contains c

/-- A digit of base sixteen. -/
def hexDigit (n : Nat) : Char := (Nat.digitChar n).toUpper

/-- The written form of an octet. -/
def octet (b : UInt8) : List Char := ['%', hexDigit (b.toNat / 16), hexDigit (b.toNat % 16)]

/-- A character as it stands in a part of a URL. -/
def encodeChar (set : EncodeSet) (c : Char) : List Char := if set c then (Utf8.encodeChar c).flatMap octet else [c]

/-- A text as it stands in a part of a URL. -/
def encode (set : EncodeSet) (cs : List Char) : List Char := cs.flatMap (encodeChar set)

/-- The octets a part of a URL stands for. A percent sign without two digits stands for itself. -/
def decode : List Char → List UInt8
  | [] => []
  | '%' :: high :: low :: rest =>
    match naturalIn? 16 [high, low] with
    | some n => n.toUInt8 :: decode rest
    | none => (Utf8.encodeChar '%') ++ decode (high :: low :: rest)
  | c :: rest => Utf8.encodeChar c ++ decode rest

end ServiceCatalog.Url.Percent
