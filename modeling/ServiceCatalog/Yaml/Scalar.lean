import ServiceCatalog.Text.Decimal
import ServiceCatalog.Text.Utf8
import ServiceCatalog.Yaml.Resolution

/-!
# Scalars

A text is written plainly if nothing in it has a meaning of its own, between single quotes if that does, and between
double quotes with escapes if it holds characters that cannot be seen. A text with line ends is written line by line.
-/

namespace ServiceCatalog.Yaml

open ServiceCatalog.Text

/-- How a text is written. -/
inductive ScalarStyle where
  | plain
  | singleQuoted
  | doubleQuoted
  | literal
deriving DecidableEq, Repr

/-- Whether a character ends a line. -/
def isBreak (c : Char) : Bool :=
  c = '\n' || c = '\r' || c = '\u0085' || c = '\u2028' || c = '\u2029'

/-- Whether a character is a blank, ends a line, or ends the text. -/
def isBlankOrEnd (c : Char) : Bool := c = ' ' || c = '\t' || c = '\x00' || isBreak c

/-- Whether a character can be written as it is. -/
def isPrintable (c : Char) : Bool :=
  let n := c.toNat
  n == 0x0A || (0x20 ≤ n && n ≤ 0x7E) || (0xA0 ≤ n && n ≤ 0xD7FF) || (0xE000 ≤ n && n ≤ 0xFFFD && n != 0xFEFF) ||
    0x10000 ≤ n

/-- Characters that have a meaning of their own in front of a scalar. -/
def leadingIndicators : List Char :=
  ['#', ',', '[', ']', '\x7b', '\x7d', '&', '*', '!', '|', '>', '\'', '"', '%', '@', '\x60']

/-- Whether what follows a character is a blank, the end of a line or of the text. -/
def followedByBlank : List Char → Bool
  | [] => true
  | c :: _ => isBlankOrEnd c

/-- Whether a colon before a blank or a number sign after one stands in a text behind the character `before`. -/
def hasIndicatorAfter (before : Char) : List Char → Bool
  | [] => false
  | c :: rest =>
    (c = ':' && followedByBlank rest) || (c = '#' && isBlankOrEnd before) || hasIndicatorAfter c rest

/-- Whether a text has a character with a meaning of its own in a block. -/
def hasIndicator (cs : List Char) : Bool :=
  "---".toList.isPrefixOf cs || "...".toList.isPrefixOf cs ||
    match cs with
    | [] => false
    | c :: rest =>
      leadingIndicators.contains c || ((c = '?' || c = ':' || c = '-') && followedByBlank rest) ||
        hasIndicatorAfter c rest

/-- Whether two neighbours in a text satisfy a condition. -/
def anyNeighbours (p : Char → Char → Bool) : List Char → Bool
  | a :: b :: rest => p a b || anyNeighbours p (b :: rest)
  | _ => false

/-- Whether a text satisfies a condition at its end. -/
def endsWith (p : Char → Bool) (cs : List Char) : Bool := (cs.getLast?.map p).getD false

/-- Whether a text satisfies a condition at its start. -/
def startsWith (p : Char → Bool) (cs : List Char) : Bool := (cs.head?.map p).getD false

/-- Whether some character or line end of a text can only be written with an escape. -/
def needsEscapes (cs : List Char) : Bool :=
  cs.any (!isPrintable ·) || anyNeighbours (fun a b => a = ' ' && isBreak b) cs

/-- Whether a text can be written plainly. -/
def allowsPlain (cs : List Char) : Bool :=
  let edge (c : Char) : Bool := c = ' ' || isBreak c
  !(startsWith edge cs || endsWith edge cs || cs.any isBreak || needsEscapes cs || hasIndicator cs)

/-- Whether a text can be written between single quotes. -/
def allowsSingleQuotes (cs : List Char) : Bool :=
  !(needsEscapes cs || anyNeighbours (fun a b => isBreak a && b = ' ') cs)

/-- Whether a text can be written line by line. -/
def allowsLiteral (cs : List Char) : Bool := !(cs.isEmpty || endsWith (· == ' ') cs || needsEscapes cs)

/-- How a text is written, as a key on one line if `key` says so. -/
def styleOf (key : Bool) (s : String) : ScalarStyle :=
  let cs := s.toList
  let quoted : ScalarStyle := if allowsSingleQuotes cs then .singleQuoted else .doubleQuoted
  if key && cs.any isBreak then .doubleQuoted
  else if cs.contains '\n' then (if allowsLiteral cs && !key then .literal else .doubleQuoted)
  else if needsQuotes s then quoted
  else if allowsPlain cs then .plain
  else quoted

/-- A number in base sixteen with capital digits, filled up with zeros. -/
def paddedHex (width n : Nat) : List Char :=
  let digits := (Nat.toDigits 16 n).map Char.toUpper
  List.replicate (width - digits.length) '0' ++ digits

/-- One character between double quotes. -/
def escapeChar (c : Char) : List Char :=
  let n := c.toNat
  if c = '"' || c = '\\' then ['\\', c]
  else if isPrintable c && !isBreak c then [c]
  else match n with
    | 0x00 => ['\\', '0']
    | 0x07 => ['\\', 'a']
    | 0x08 => ['\\', 'b']
    | 0x09 => ['\\', 't']
    | 0x0A => ['\\', 'n']
    | 0x0B => ['\\', 'v']
    | 0x0C => ['\\', 'f']
    | 0x0D => ['\\', 'r']
    | 0x1B => ['\\', 'e']
    | 0x85 => ['\\', 'N']
    | 0x2028 => ['\\', 'L']
    | 0x2029 => ['\\', 'P']
    | _ =>
      if n ≤ 0xFF then '\\' :: 'x' :: paddedHex 2 n
      else if n ≤ 0xFFFF then '\\' :: 'u' :: paddedHex 4 n
      else '\\' :: 'U' :: paddedHex 8 n

/-- Characters written line by line: at the start of every line that is not empty stand `indent` blanks. -/
def indentLines (indent : Nat) (double : Char → Bool) (atStart : Bool) : List Char → List Char
  | [] => []
  | c :: rest =>
    if isBreak c then c :: indentLines indent double true rest
    else
      let written := if double c then [c, c] else [c]
      (if atStart then List.replicate indent ' ' else []) ++ written ++ indentLines indent double false rest

/-- A text between single quotes. -/
def singleQuoted (indent : Nat) (cs : List Char) : List Char :=
  let body := indentLines indent (· == '\'') false cs
  '\'' :: body ++ (if endsWith isBreak cs then List.replicate indent ' ' else []) ++ ['\'']

/-- A text between double quotes. -/
def doubleQuoted (cs : List Char) : List Char := '"' :: cs.flatMap escapeChar ++ ['"']

/-- What stands after the bar in front of lines: a number if the first line starts with a blank or is empty, and how
the last line ends. -/
def literalHints (cs : List Char) : List Char :=
  let edge (c : Char) : Bool := c = ' ' || isBreak c
  let indentation := if startsWith edge cs then ['2'] else []
  let ending := match cs.reverse with
    | last :: before => if !isBreak last then ['-'] else if before.isEmpty || startsWith isBreak before then ['+'] else []
    | [] => ['-']
  indentation ++ ending

/-- A text line by line. -/
def literal (indent : Nat) (cs : List Char) : List Char :=
  '|' :: literalHints cs ++ '\n' :: indentLines indent (fun _ => false) true cs

/-- A written text; lines after the first one are indented by `indent`. -/
def writeScalar (indent : Nat) (key : Bool) (s : String) : List Char :=
  let cs := s.toList
  match styleOf key s with
  | .plain => cs
  | .singleQuoted => singleQuoted indent cs
  | .doubleQuoted => doubleQuoted cs
  | .literal => literal indent cs

/-- Whether a text can be a key on one line: it is not too long and ends no line. -/
def isSimpleKey (s : String) : Bool :=
  !s.toList.any isBreak && (Utf8.encode s).length ≤ 128

end ServiceCatalog.Yaml
