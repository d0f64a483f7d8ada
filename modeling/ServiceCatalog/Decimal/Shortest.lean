import ServiceCatalog.Decimal.Binary64
import ServiceCatalog.Text.Decimal

/-!
# Shortest decimal text

The fewest digits that read back as the same number. A decimal reads back as a number when it lies between the
midpoints to the neighbours, the midpoints included if the significand is even. On each decimal grid, coarsest first,
the two points around the number are tried; the first grid with a hit wins, and of two hits the nearer.
-/

namespace ServiceCatalog.Decimal

open ServiceCatalog.Text

namespace Binary64

/-- `d * 10 ^ power` and `u * 2 ^ (exponent - 2)` as naturals in a common unit. -/
structure CommonUnit where
  decimal : Nat
  binary : Nat

/-- The common unit of a decimal grid and the quarters of a binary one. -/
def commonUnit (power exponent : Int) : CommonUnit :=
  let quarter := exponent - 2
  ⟨Nat.pow 10 power.toNat * Nat.pow 2 (-quarter).toNat, Nat.pow 2 quarter.toNat * Nat.pow 10 (-power).toNat⟩

/-- The number of digits before the decimal point of a non-zero number, zero or negative for small ones. -/
def pointPosition (x : Binary64) : Int :=
  let guess : Int := ((x.significand.log2 : Int) + x.exponent) * 30103 / 100000
  let u := commonUnit (guess + 1) x.exponent
  if 4 * x.significand * u.binary < u.decimal then guess + 1 else guess + 2

/-- The point of the grid `10 ^ power` next to a non-zero number that reads back as it, if there is one. -/
def gridPoint? (x : Binary64) (power : Int) : Option Nat :=
  let u := commonUnit power x.exponent
  let here := 4 * x.significand * u.binary
  let below := if x.significand = leastNormal ∧ leastExponent < x.exponent then 1 else 2
  let low := (4 * x.significand - below) * u.binary
  let high := (4 * x.significand + 2) * u.binary
  let readsBack (d : Nat) : Bool :=
    let at_ := d * u.decimal
    if x.significand % 2 = 0 then low ≤ at_ && at_ ≤ high else low < at_ && at_ < high
  let d := here / u.decimal
  let down := here - d * u.decimal
  let up := (d + 1) * u.decimal - here
  match readsBack d && d != 0, readsBack (d + 1) with
  | true, true => if down < up then some d else if up < down then some (d + 1) else some (d + d % 2)
  | true, false => some d
  | false, true => some (d + 1)
  | false, false => none

/-- Digits and power of ten of the shortest decimal that reads back as a non-zero number. -/
def shortest (x : Binary64) : Nat × Int :=
  let p := x.pointPosition
  ((List.range 17).findSome? fun (n : Nat) =>
    (x.gridPoint? (p - (n : Int) - 1)).map fun d => (d, p - (n : Int) - 1)).getD (0, 0)

end Binary64

/-- How a format writes a number whose decimal point is far from its digits: what follows the letter `e` before a
    positive exponent. -/
structure FloatStyle where
  positiveExponent : List Char

/-- Drops the zeros at the end of a run of digits and counts them into the power. -/
def dropZeros : List Char → Int → List Char × Int
  | '0' :: rest, power => dropZeros rest (power + 1)
  | reversed, power => (reversed.reverse, power)

/-- The text of digits times a power of ten: positional with at least one digit on each side of the point while the
    point lies at most 16 digits to the right and 4 zeros to the left, otherwise with an exponent. -/
def FloatStyle.writeDigits (style : FloatStyle) (digits : List Char) (power : Int) : List Char :=
  let count := digits.length
  let point : Int := count + power
  if 0 ≤ power ∧ point ≤ 16 then digits ++ List.replicate power.toNat '0' ++ ['.', '0']
  else if 0 < point ∧ point ≤ 16 then digits.take point.toNat ++ '.' :: digits.drop point.toNat
  else if -5 < point ∧ point ≤ 0 then ['0', '.'] ++ List.replicate (-point).toNat '0' ++ digits
  else
    let mark := if 0 < point then 'e' :: style.positiveExponent else ['e']
    match digits with
    | [d] => d :: mark ++ signedDigits (point - 1)
    | d :: more => d :: '.' :: more ++ mark ++ signedDigits (point - 1)
    | [] => []

/-- The shortest text of a finite number in a style. -/
def FloatStyle.write (style : FloatStyle) (x : Binary64) : List Char :=
  let magnitude :=
    if x.significand = 0 then ['0', '.', '0']
    else
      let s := x.shortest
      let r := dropZeros (digitsOf s.1).reverse s.2
      style.writeDigits r.1 r.2
  if x.negative then '-' :: magnitude else magnitude

end ServiceCatalog.Decimal
