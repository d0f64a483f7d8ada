/-!
# UTF-8

Octets to characters by the table of lead octets. Strict decoding fails on the first octet that no character can hold;
lenient decoding puts one replacement character for each longest run of octets that begins a character but does not
complete it, and for each octet that begins none.
-/

namespace ServiceCatalog.Text.Utf8

/-- What a lead octet announces: its payload bits, how many octets follow, and the range of the first of them. -/
structure Lead where
  payload : Nat
  owed : Nat
  least : Nat
  greatest : Nat
deriving DecidableEq, Repr

/-- The announcement of a lead octet above the ASCII range, if it can begin a character. -/
def lead? (b : Nat) : Option Lead :=
  if 0xC2 ≤ b ∧ b ≤ 0xDF then some ⟨b - 0xC0, 1, 0x80, 0xBF⟩
  else if b = 0xE0 then some ⟨0, 2, 0xA0, 0xBF⟩
  else if b = 0xED then some ⟨0xD, 2, 0x80, 0x9F⟩
  else if 0xE1 ≤ b ∧ b ≤ 0xEF then some ⟨b - 0xE0, 2, 0x80, 0xBF⟩
  else if b = 0xF0 then some ⟨0, 3, 0x90, 0xBF⟩
  else if 0xF1 ≤ b ∧ b ≤ 0xF3 then some ⟨b - 0xF0, 3, 0x80, 0xBF⟩
  else if b = 0xF4 then some ⟨4, 3, 0x80, 0x8F⟩
  else none

/-- The replacement character. -/
def replacement : Char := '\uFFFD'

/-- Reads octets leniently. `open?` is the character under way: bits read so far, octets owed, bounds of the next. -/
def lenientFrom (pending : Option Lead) : List UInt8 → List Char
  | [] => match pending with
    | none => []
    | some _ => [replacement]
  | o :: rest =>
    let b := o.toNat
    let start (_ : Unit) : List Char :=
      if b < 0x80 then Char.ofNat b :: lenientFrom none rest
      else match lead? b with
        | some l => lenientFrom (some l) rest
        | none => replacement :: lenientFrom none rest
    match pending with
    | none => start ()
    | some l =>
      if l.least ≤ b ∧ b ≤ l.greatest then
        let bits := l.payload * 64 + (b - 0x80)
        if l.owed ≤ 1 then Char.ofNat bits :: lenientFrom none rest
        else lenientFrom (some ⟨bits, l.owed - 1, 0x80, 0xBF⟩) rest
      else replacement :: start ()

/-- The characters of octets, with replacement characters where they are no UTF-8. -/
def lenient (octets : List UInt8) : String := String.ofList (lenientFrom none octets)

/-- Reads octets strictly. -/
def strictFrom (pending : Option Lead) : List UInt8 → Option (List Char)
  | [] => match pending with
    | none => some []
    | some _ => none
  | o :: rest =>
    let b := o.toNat
    match pending with
    | none =>
      if b < 0x80 then (strictFrom none rest).map (Char.ofNat b :: ·)
      else match lead? b with
        | some l => strictFrom (some l) rest
        | none => none
    | some l =>
      if l.least ≤ b ∧ b ≤ l.greatest then
        let bits := l.payload * 64 + (b - 0x80)
        if l.owed ≤ 1 then (strictFrom none rest).map (Char.ofNat bits :: ·)
        else strictFrom (some ⟨bits, l.owed - 1, 0x80, 0xBF⟩) rest
      else none

/-- The text that octets encode, if they are UTF-8. -/
def strict? (octets : List UInt8) : Option String := (strictFrom none octets).map String.ofList

/-- The octets of one character. -/
def encodeChar (c : Char) : List UInt8 :=
  let n := c.toNat
  if n < 0x80 then [n.toUInt8]
  else if n < 0x800 then [(0xC0 + n / 64).toUInt8, (0x80 + n % 64).toUInt8]
  else if n < 0x10000 then [(0xE0 + n / 4096).toUInt8, (0x80 + n / 64 % 64).toUInt8, (0x80 + n % 64).toUInt8]
  else [(0xF0 + n / 262144).toUInt8, (0x80 + n / 4096 % 64).toUInt8, (0x80 + n / 64 % 64).toUInt8,
    (0x80 + n % 64).toUInt8]

/-- The octets of a text. -/
def encode (s : String) : List UInt8 := s.toList.flatMap encodeChar

end ServiceCatalog.Text.Utf8
