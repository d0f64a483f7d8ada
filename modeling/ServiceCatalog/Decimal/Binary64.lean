/-!
# Finite binary floating point numbers of 64 bits

A finite number is a sign, a significand and an exponent of two in canonical form: the significand has 53 bits, or fewer
when the exponent is the least one. Every operation here is exact arithmetic on naturals followed by one rounding to the
nearest number, a tie going to the even significand.
-/

namespace ServiceCatalog.Decimal

/-- A finite floating point number: `significand * 2 ^ exponent` with a sign. -/
structure Binary64 where
  negative : Bool
  significand : Nat
  exponent : Int
deriving DecidableEq, Repr, Inhabited

namespace Binary64

/-- The least exponent, which numbers too small for 53 bits share. -/
def leastExponent : Int := -1074

/-- The greatest exponent of a finite number. -/
def greatestExponent : Int := 971

/-- The least significand of 53 bits. -/
def leastNormal : Nat := Nat.pow 2 52

/-- Zero with a sign. -/
def zero (negative : Bool) : Binary64 := ⟨negative, 0, leastExponent⟩

/-- The quotient of two naturals rounded to the nearest natural, a tie going to the even one. -/
def roundQuotient (num den : Nat) : Nat :=
  let q := num / den
  let twice := 2 * (num % den)
  if twice < den then q
  else if den < twice then q + 1
  else if q % 2 = 0 then q else q + 1

/-- Numerator and denominator of `num / den / 2 ^ e`. -/
def scaled (num den : Nat) (e : Int) : Nat × Nat :=
  match e with
  | .ofNat k => (num, den * Nat.pow 2 k)
  | .negSucc k => (num * Nat.pow 2 (k + 1), den)

/-- Significand and exponent of the number nearest to `num / den`; nothing when it is too large to be finite. -/
def nearest? (num den : Nat) : Option (Nat × Int) :=
  if num = 0 then some (0, leastExponent)
  else
    let guess := max leastExponent ((num.log2 : Int) - (den.log2 : Int) - 53)
    let s := scaled num den guess
    let e := if s.1 / s.2 < 2 * leastNormal then guess else guess + 1
    let s := scaled num den e
    let m := roundQuotient s.1 s.2
    let r : Nat × Int := if m = 2 * leastNormal then (leastNormal, e + 1) else (m, e)
    if r.2 ≤ greatestExponent then some r else none

/-- The number nearest to a quotient of naturals, with a sign. -/
def ofQuotient? (negative : Bool) (num den : Nat) : Option Binary64 :=
  (nearest? num den).map fun r => ⟨negative, r.1, r.2⟩

/-- The number nearest to `digits * 10 ^ power`. Powers far outside the range are not computed. -/
def ofDecimal? (negative : Bool) (digits : Nat) (power : Int) : Option Binary64 :=
  if digits = 0 then some (zero negative)
  else
    let places : Int := (digits.log2 : Int) * 30103 / 100000 + power
    if 400 < places then none
    else if places < -400 then some (zero negative)
    else match power with
      | .ofNat k => ofQuotient? negative (digits * Nat.pow 10 k) 1
      | .negSucc k => ofQuotient? negative digits (Nat.pow 10 (k + 1))

/-- The product of two numbers, rounded. -/
def mul? (x y : Binary64) : Option Binary64 :=
  let negative := x.negative != y.negative
  match x.exponent + y.exponent with
  | .ofNat k => ofQuotient? negative (x.significand * y.significand * Nat.pow 2 k) 1
  | .negSucc k => ofQuotient? negative (x.significand * y.significand) (Nat.pow 2 (k + 1))

/-- The quotient of two numbers, rounded; the divisor is not zero. -/
def div? (x y : Binary64) : Option Binary64 :=
  let negative := x.negative != y.negative
  match x.exponent - y.exponent with
  | .ofNat k => ofQuotient? negative (x.significand * Nat.pow 2 k) y.significand
  | .negSucc k => ofQuotient? negative x.significand (y.significand * Nat.pow 2 (k + 1))

end Binary64

end ServiceCatalog.Decimal
