/-!
# Decimal numerals

Reading whole numbers: a non-empty run of the digits 0 to 9, with an optional sign where the reader admits one.
-/

namespace ServiceCatalog.Text

/-- The value of one of the digits 0 to 9. -/
def digit? (c : Char) : Option Nat :=
  if '0' ≤ c ∧ c ≤ '9' then some (c.toNat - '0'.toNat) else none

/-- The value of a digit in a base up to sixteen, with letters in either case. -/
def digitIn? (base : Nat) (c : Char) : Option Nat :=
  let value : Option Nat :=
    if '0' ≤ c ∧ c ≤ '9' then some (c.toNat - '0'.toNat)
    else if 'a' ≤ c ∧ c ≤ 'f' then some (c.toNat - 'a'.toNat + 10)
    else if 'A' ≤ c ∧ c ≤ 'F' then some (c.toNat - 'A'.toNat + 10)
    else none
  value.filter (· < base)

/-- The number that digits in a base denote when they follow the number `acc`. -/
def digitsAfter? (base : Nat) (acc : Nat) : List Char → Option Nat
  | [] => some acc
  | c :: rest => (digitIn? base c).bind fun d => digitsAfter? base (acc * base + d) rest

/-- The number a non-empty run of digits in a base denotes. -/
def naturalIn? (base : Nat) (cs : List Char) : Option Nat :=
  if cs.isEmpty then none else digitsAfter? base 0 cs

/-- The number a non-empty run of decimal digits denotes. -/
def natural? (cs : List Char) : Option Nat := naturalIn? 10 cs

/-- The number that digits with an optional sign denote. -/
def integer? : List Char → Option Int
  | '-' :: rest => (natural? rest).map fun n => -(n : Int)
  | '+' :: rest => (natural? rest).map fun n => (n : Int)
  | cs => (natural? cs).map fun n => (n : Int)

/-- The least and the greatest signed number of 64 bits. -/
def minInt64 : Int := -9223372036854775808

@[inherit_doc minInt64] def maxInt64 : Int := 9223372036854775807

/-- The greatest unsigned number of 64 bits. -/
def maxWord64 : Nat := 18446744073709551615

/-- A signed number of 64 bits, written with an optional sign. -/
def int64? (s : String) : Option Int :=
  (integer? s.toList).filter fun n => minInt64 ≤ n && n ≤ maxInt64

/-- An unsigned number of 64 bits, written with an optional plus sign. -/
def word64? (s : String) : Option Nat :=
  let digits := match s.toList with
    | '+' :: rest => rest
    | cs => cs
  (natural? digits).filter (· ≤ maxWord64)

/-- The decimal digits of a number. -/
def digitsOf (n : Nat) : List Char := (Nat.toDigits 10 n)

/-- A number with its minus sign, if it has one. -/
def signedDigits (n : Int) : List Char :=
  match n with
  | .ofNat k => digitsOf k
  | .negSucc k => '-' :: digitsOf (k + 1)

end ServiceCatalog.Text
