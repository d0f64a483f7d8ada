/-!
# Tagged values

Certificates and keys are nested values, each with a tag, a length and that many octets. Lengths are written in the
shortest way.
-/

namespace ServiceCatalog.Pem

/-- A tag with the octets it is put on. -/
structure Der where
  tag : UInt8
  content : List UInt8
deriving DecidableEq, Repr

namespace Der

/-- The number that octets are, the first one being the highest. -/
def number (octets : List UInt8) : Nat := octets.foldl (fun n o => n * 256 + o.toNat) 0

/-- The length at the start of octets, and what follows it. -/
def length? : List UInt8 → Option (Nat × List UInt8)
  | [] => none
  | o :: rest =>
    let n := o.toNat
    if n < 0x80 then some (n, rest)
    else
      let count := n - 0x80
      let written := rest.take count
      let length := number written
      if count = 0 ∨ 4 < count ∨ written.length < count ∨ length < 0x80 ∨ written.head? = some 0 then none
      else some (length, rest.drop count)

/-- The value at the start of octets, and what follows it. -/
def first? : List UInt8 → Option (Der × List UInt8)
  | [] => none
  | tag :: rest => do
    let (length, body) ← length? rest
    if body.length < length then none
    else some (⟨tag, body.take length⟩, body.drop length)

/-- The only value in octets. -/
def only? (octets : List UInt8) : Option Der :=
  match first? octets with
  | some (value, []) => some value
  | _ => none

/-- All values in octets that follow one another. -/
def all? (fuel : Nat) (octets : List UInt8) : Option (List Der) :=
  match fuel, octets with
  | _, [] => some []
  | 0, _ => none
  | fuel + 1, octets => do
    let (value, rest) ← first? octets
    let more ← all? fuel rest
    some (value :: more)

/-- The values inside a value with a given tag. -/
def inside? (tag : UInt8) (value : Der) : Option (List Der) :=
  if value.tag = tag then all? value.content.length value.content else none

/-- The tag of a whole number. -/
def integerTag : UInt8 := 0x02

/-- The tag of a string of bits. -/
def bitsTag : UInt8 := 0x03

/-- The tag of a string of octets. -/
def octetsTag : UInt8 := 0x04

/-- The tag of a name of an algorithm or the like. -/
def identifierTag : UInt8 := 0x06

/-- The tag of a list of values. -/
def sequenceTag : UInt8 := 0x30

/-- The values inside the list that octets are. -/
def sequence? (octets : List UInt8) : Option (List Der) := (only? octets).bind (inside? sequenceTag)

end Der

end ServiceCatalog.Pem
