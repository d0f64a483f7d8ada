import ServiceCatalog.Decimal.Binary64
import ServiceCatalog.Text.Decimal

/-!
# What a plain scalar would be read as

A plain scalar is read as null, a truth value, a number or, if it looks like none of these, as a text. A text that looks
like one of them has to be quoted, and so has a row of digits with a zero in front.
-/

namespace ServiceCatalog.Yaml

open ServiceCatalog.Text ServiceCatalog.Decimal

/-- Words that are read as null or as a truth value. -/
def reservedWords : List String := ["", "~", "null", "Null", "NULL", "true", "True", "TRUE", "false", "False", "FALSE"]

/-- Words that are read as a number that is not finite. -/
def nonFiniteWords : List String :=
  [".inf", ".Inf", ".INF", "+.inf", "+.Inf", "+.INF", "-.inf", "-.Inf", "-.INF", ".nan", ".NaN", ".NAN"]

/-- A text without one sign in front. -/
def withoutSign : List Char → List Char
  | '+' :: rest => rest
  | '-' :: rest => rest
  | cs => cs

/-- Whether a text is a row of digits with a needless zero in front, which is no number. -/
def isPaddedDigits (cs : List Char) : Bool :=
  match withoutSign cs with
  | '0' :: d :: rest => (d :: rest).all Char.isDigit
  | _ => false

/-- The base that a mark stands for. -/
def base? : Char → Option Nat
  | 'x' => some 16
  | 'o' => some 8
  | 'b' => some 2
  | _ => none

/-- The number of unsigned digits, which may have the mark of a base in front. -/
def unsigned? : List Char → Option Nat
  | '0' :: mark :: rest =>
    match base? mark with
    | some base => naturalIn? base rest
    | none => natural? ('0' :: mark :: rest)
  | cs => natural? cs

/-- Whether a text is read as a whole number of at most 128 bits. -/
def isWholeNumber (cs : List Char) : Bool :=
  if isPaddedDigits cs then false
  else match cs with
    | '-' :: rest => match unsigned? rest with
      | some n => n ≤ Nat.pow 2 127
      | none => false
    | '+' :: rest => match unsigned? rest with
      | some n => n < Nat.pow 2 128
      | none => false
    | _ => match unsigned? cs with
      | some n => n < Nat.pow 2 128
      | none => false

/-- The power of ten that an exponent adds, or nothing if there is no exponent where one should be. -/
def exponent? : List Char → Option Int
  | [] => some 0
  | 'e' :: rest => integer? rest
  | 'E' :: rest => integer? rest
  | _ => none

/-- Whether a text is read as a finite decimal number: digits with at most one point among them, and an exponent. -/
def isFiniteDecimal (cs : List Char) : Bool :=
  let body := match cs with
    | '+' :: '+' :: _ => []
    | '+' :: '-' :: _ => []
    | _ => withoutSign cs
  let whole := body.takeWhile Char.isDigit
  let rest := body.dropWhile Char.isDigit
  let (fraction, rest) := match rest with
    | '.' :: more => (more.takeWhile Char.isDigit, more.dropWhile Char.isDigit)
    | _ => ([], rest)
  match natural? (whole ++ fraction), exponent? rest with
  | some digits, some power => (Binary64.ofDecimal? false digits (power - fraction.length)).isSome
  | _, _ => false

/-- Whether a text would be read as something else if it were written plainly. -/
def needsQuotes (s : String) : Bool :=
  let cs := s.toList
  reservedWords.contains s || nonFiniteWords.contains s || isPaddedDigits cs || isWholeNumber cs || isFiniteDecimal cs

end ServiceCatalog.Yaml
