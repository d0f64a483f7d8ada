import ServiceCatalog.Decimal.Binary64
import ServiceCatalog.Text.Decimal
import ServiceCatalog.Toml.Value

/-!
# Unquoted values

Truth values, whole numbers, numbers with a fraction or an exponent, and moments in time. Digits may be grouped by single
underscores, and numbers in base ten have no needless zeros in front. A whole number has at most 128 bits, and one with
a fraction or an exponent is in the range of binary floating point.
-/

namespace ServiceCatalog.Toml

open ServiceCatalog.Text ServiceCatalog.Decimal

/-- Whether underscores in a run of digits stand between digits only. -/
def groupsDigits (isDigit : Char → Bool) : List Char → Bool
  | [] => false
  | [c] => isDigit c
  | c :: '_' :: rest => isDigit c && groupsDigits isDigit rest
  | c :: rest => isDigit c && groupsDigits isDigit rest

/-- The number of a run of grouped digits. -/
def grouped? (base : Nat) (cs : List Char) : Option Nat :=
  if groupsDigits (fun c => (digitIn? base c).isSome) cs then naturalIn? base (cs.filter (· != '_')) else none

/-- A number in base ten without needless zeros. -/
def plainNumber? (cs : List Char) : Option Nat :=
  match cs with
  | '0' :: _ :: _ => none
  | _ => grouped? 10 cs

/-- The whole number that a text denotes. -/
def anyWholeNumber? : List Char → Option Int
  | '0' :: 'x' :: rest => (grouped? 16 rest).map fun n => (n : Int)
  | '0' :: 'o' :: rest => (grouped? 8 rest).map fun n => (n : Int)
  | '0' :: 'b' :: rest => (grouped? 2 rest).map fun n => (n : Int)
  | '+' :: rest => (plainNumber? rest).map fun n => (n : Int)
  | '-' :: rest => (plainNumber? rest).map fun n => -(n : Int)
  | cs => (plainNumber? cs).map fun n => (n : Int)

/-- A whole number, with a sign or without one in 128 bits. -/
def wholeNumber? (cs : List Char) : Option Int := (anyWholeNumber? cs).filter fun n => 
  -(Nat.pow 2 127 : Int) ≤ n ∧ n < Nat.pow 2 128

/-- A text without one sign in front. -/
def unsigned : List Char → List Char
  | '+' :: rest => rest
  | '-' :: rest => rest
  | cs => cs

/-- Whether a character can stand in a number with groups. -/
def isGroupChar (c : Char) : Bool := c.isDigit || c = '_'

/-- The power of ten that an exponent stands for, or nothing at all. -/
def exponent? : List Char → Option Int
  | [] => some 0
  | mark :: rest =>
    if mark = 'e' || mark = 'E' then
      (grouped? 10 (unsigned rest)).map fun n => if rest.head? = some '-' then -(n : Int) else (n : Int)
    else none

/-- Digits and power of ten of an unsigned number with a fraction or an exponent. -/
def decimalParts? (body : List Char) : Option (Nat × Int) := do
  let whole ← plainNumber? (body.takeWhile isGroupChar)
  match body.dropWhile isGroupChar with
  | [] => none
  | '.' :: rest => do
    let fraction := rest.takeWhile isGroupChar
    let part ← grouped? 10 fraction
    let power ← exponent? (rest.dropWhile isGroupChar)
    let places := (fraction.filter (· != '_')).length
    some (whole * Nat.pow 10 places + part, power - places)
  | rest => do some (whole, ← exponent? rest)

/-- Whether a text is a number with a fraction or an exponent, or one of the words for other numbers. -/
def isReal (cs : List Char) : Bool :=
  let body := unsigned cs
  body = "inf".toList || body = "nan".toList ||
    ((decimalParts? body).bind fun p => Binary64.ofDecimal? false p.1 p.2).isSome

/-- A number of two digits that is not above a limit. -/
def twoDigits? (limit : Nat) : List Char → Option (Nat × List Char)
  | a :: b :: rest => (natural? [a, b]).bind fun n => if n ≤ limit then some (n, rest) else none
  | _ => none

/-- The days of a month. -/
def daysIn (year month : Nat) : Nat :=
  if month = 2 then (if year % 4 = 0 ∧ (year % 100 ≠ 0 ∨ year % 400 = 0) then 29 else 28)
  else if month = 4 ∨ month = 6 ∨ month = 9 ∨ month = 11 then 30
  else 31

/-- What follows the date at the start of a text. -/
def afterDate? : List Char → Option (List Char)
  | a :: b :: c :: d :: '-' :: rest => do
    let year ← natural? [a, b, c, d]
    let (month, rest) ← twoDigits? 12 rest
    match rest with
    | '-' :: rest => do
      let (day, rest) ← twoDigits? (daysIn year month) rest
      if month = 0 ∨ day = 0 then none else some rest
    | _ => none
  | _ => none

/-- What follows the time at the start of a text. Seconds may be left out. -/
def afterTime? (cs : List Char) : Option (List Char) := do
  let (_, rest) ← twoDigits? 23 cs
  match rest with
  | ':' :: rest => do
    let (_, rest) ← twoDigits? 59 rest
    match rest with
    | ':' :: rest => do
      let (_, rest) ← twoDigits? 60 rest
      match rest with
      | '.' :: rest => if startsWithDigit rest then some (rest.dropWhile Char.isDigit) else none
      | _ => some rest
    | _ => some rest
  | _ => none
where
  /-- Whether a fraction has a digit. -/
  startsWithDigit : List Char → Bool
    | c :: _ => c.isDigit
    | [] => false

/-- Whether a text is the offset of a clock, or none. -/
def isOffset : List Char → Bool
  | [] => true
  | ['Z'] => true
  | ['z'] => true
  | sign :: rest =>
    (sign = '+' || sign = '-') &&
      match twoDigits? 23 rest with
      | some (_, ':' :: minutes) => (twoDigits? 59 minutes).map Prod.snd == some []
      | _ => false

/-- Whether a text is a date, a time, or both with or without an offset. -/
def isMoment (cs : List Char) : Bool :=
  match afterDate? cs with
  | some [] => true
  | some (mark :: rest) =>
    (mark = 'T' || mark = 't' || mark = ' ') && (afterTime? rest).any isOffset
  | none => afterTime? cs == some []

/-- The value of an unquoted text. -/
def scalar? (place : Nat) (cs : List Char) : Option Value :=
  if cs = "true".toList then some (.truth place true)
  else if cs = "false".toList then some (.truth place false)
  else match wholeNumber? cs with
    | some n => some (.integer place n)
    | none => if isReal cs then some (.real place) else if isMoment cs then some (.moment place) else none

end ServiceCatalog.Toml
