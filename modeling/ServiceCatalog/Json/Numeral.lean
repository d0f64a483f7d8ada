import ServiceCatalog.Json.Basic
import ServiceCatalog.Text.Decimal

/-!
# JSON numerals

A numeral is a whole number without needless zeros in front, a fraction and an exponent, the last two optional. Without
both it is kept whole if it fits into 64 bits. Otherwise its digits are gathered while they fit into an unsigned number
of 64 bits, that number becomes binary floating point, and one multiplication or division by a power of ten follows;
each of these steps rounds. A numeral too large for binary floating point stands for no value.
-/

namespace ServiceCatalog.Json.Numeral

open ServiceCatalog.Text ServiceCatalog.Decimal

/-- The parts of a numeral. -/
structure Parts where
  negative : Bool
  whole : List Char
  fraction : Option (List Char)
  exponent : Option (Bool × List Char)

/-- Whether a character is one of the digits 0 to 9. -/
def isDigit (c : Char) : Bool := '0' ≤ c && c ≤ '9'

/-- Whether a run of digits can stand before the point. -/
def isWhole : List Char → Bool
  | [] => false
  | ['0'] => true
  | '0' :: _ => false
  | _ => true

/-- Sign and digits of an exponent, and what follows them. -/
def exponentPart? (cs : List Char) : Option ((Bool × List Char) × List Char) :=
  let r : Bool × List Char := match cs with
    | '+' :: rest => (false, rest)
    | '-' :: rest => (true, rest)
    | rest => (false, rest)
  let digits := r.2.takeWhile isDigit
  if digits.isEmpty then none else some ((r.1, digits), r.2.dropWhile isDigit)

/-- The longest numeral at the start of a text, and what follows it. -/
def parts? (cs : List Char) : Option (Parts × List Char) := do
  let (negative, cs) := match cs with
    | '-' :: rest => (true, rest)
    | rest => (false, rest)
  let whole := cs.takeWhile isDigit
  if !isWhole whole then none
  let cs := cs.dropWhile isDigit
  let (fraction, cs) ← match cs with
    | '.' :: rest =>
      let digits := rest.takeWhile isDigit
      if digits.isEmpty then none else some (some digits, rest.dropWhile isDigit)
    | rest => some (none, rest)
  let (exponent, cs) ← match cs with
    | 'e' :: rest => (exponentPart? rest).map fun r => (some r.1, r.2)
    | 'E' :: rest => (exponentPart? rest).map fun r => (some r.1, r.2)
    | rest => some (none, rest)
  some (⟨negative, whole, fraction, exponent⟩, cs)

/-- The number of some digits. -/
def number (digits : List Char) : Nat := (natural? digits).getD 0

/-- Takes digits into a number while it fits into 64 bits. The result has the digits that were left. -/
def gather (n : Nat) : List Char → Nat × List Char
  | [] => (n, [])
  | c :: rest =>
    let next := n * 10 + number [c]
    if next ≤ maxWord64 then gather next rest else (n, c :: rest)

/-- Divides by a power of ten in steps of at most 308. -/
def shrink (x : Binary64) (power : Nat) : Option Binary64 :=
  if x.significand = 0 then some x
  else if power ≤ 308 then (Binary64.ofDecimal? false 1 power).bind x.div?
  else (Binary64.ofDecimal? false 1 308).bind x.div? |>.bind fun y => shrink y (power - 308)
termination_by power

/-- Multiplies a number of 64 bits by a power of ten. -/
def scale? (digits : Nat) (power : Int) : Option Binary64 := do
  let x ← Binary64.ofDecimal? false digits 0
  match power with
  | .ofNat k =>
    if x.significand = 0 then some x
    else if k ≤ 308 then (Binary64.ofDecimal? false 1 k).bind x.mul?
    else none
  | .negSucc k => shrink x (k + 1)

/-- The greatest exponent that is kept; a larger one is out of range or makes the number vanish. -/
def greatestExponent : Nat := 2147483647

/-- The magnitude of a numeral in binary floating point. -/
def magnitude? (p : Parts) : Option Binary64 :=
  let whole := gather 0 p.whole
  let fraction := gather whole.1 (p.fraction.getD [])
  let taken := (p.fraction.getD []).length - fraction.2.length
  let shift : Int := (whole.2.length : Int) - taken
  match p.exponent with
  | none => scale? fraction.1 shift
  | some (negative, digits) =>
    let e := number digits
    if greatestExponent < e then
      if fraction.1 ≠ 0 ∧ !negative then none else some (Binary64.zero false)
    else
      let power := if negative then shift - e else shift + e
      scale? fraction.1 (max (-(greatestExponent : Int) - 1) (min greatestExponent power))

/-- The number a numeral stands for. -/
def value? (p : Parts) : Option Number :=
  let whole := number p.whole
  let binary (_ : Unit) : Option Number := (magnitude? p).map fun x => .binary { x with negative := p.negative }
  if p.fraction.isSome || p.exponent.isSome then binary ()
  else if p.negative then
    if whole = 0 ∨ minInt64 > -(whole : Int) then binary () else some (.integer (-(whole : Int)))
  else if whole ≤ maxWord64 then some (.integer whole) else binary ()

end ServiceCatalog.Json.Numeral
